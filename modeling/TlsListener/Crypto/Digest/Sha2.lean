import TlsListener.Crypto.Word

/-!
# The SHA-2 family of digests

Six digests from one construction, two over words of 32 bits and four over words of 64. A variant
is given by its word type's rotations and constants and by the words it starts from; a digest may
keep fewer bytes than its state has.
-/

namespace TlsListener.Sha2

/-- What the digests over one word type share. -/
structure Family (ω : Type) where
  wordSize : Nat
  ofNat : Nat → ω
  toNat : ω → Nat
  /-- The two functions that mix a word of the state. -/
  state0 : ω → ω
  state1 : ω → ω
  /-- The two functions that mix a word of the message. -/
  message0 : ω → ω
  message1 : ω → ω
  /-- One constant for each round. -/
  constants : List ω

/-- The eight words that are carried from block to block. -/
structure State (ω : Type) where
  a : ω
  b : ω
  c : ω
  d : ω
  e : ω
  f : ω
  g : ω
  h : ω

variable {ω : Type} [Inhabited ω] [Add ω] [XorOp ω] [AndOp ω] [Complement ω]

/-- The words of a block, continued to one for each round. -/
@[specialize] def schedule (family : Family ω) (block : Array ω) : Nat → Array ω
  | 0 => block
  | count + 1 =>
    let words := schedule family block count
    let fromEnd := fun back => words.getD (words.size - back) default
    words.push (family.message1 (fromEnd 2) + fromEnd 7 + family.message0 (fromEnd 15) + fromEnd 16)

/-- One round. -/
@[specialize] def round (family : Family ω) (s : State ω) (constant word : ω) : State ω :=
  let choice := (s.e &&& s.f) ^^^ (~~~s.e &&& s.g)
  let majority := (s.a &&& s.b) ^^^ (s.a &&& s.c) ^^^ (s.b &&& s.c)
  let t1 := s.h + family.state1 s.e + choice + constant + word
  let t2 := family.state0 s.a + majority
  ⟨t1 + t2, s.a, s.b, s.c, s.d + t1, s.e, s.f, s.g⟩

/-- The state after one more block. -/
@[specialize] def compress (family : Family ω) (s : State ω) (block : Array ω) : State ω :=
  let words := (schedule family block (family.constants.length - 16)).toList
  let t := (family.constants.zip words).foldl (fun s (k, w) => round family s k w) s
  ⟨s.a + t.a, s.b + t.b, s.c + t.c, s.d + t.d, s.e + t.e, s.f + t.f, s.g + t.g, s.h + t.h⟩

/-- The digest of a message: as many bytes of the last state as asked for. -/
@[specialize] def digest (family : Family ω) (start : State ω) (size : Nat) (message : Bytes) :
    Bytes :=
  let closed := Bytes.closedForward (16 * family.wordSize) (2 * family.wordSize) message
  let words := (pieces family.wordSize closed).map fun w => family.ofNat (Bytes.toNat w)
  let s := (pieces 16 words).foldl (fun s block => compress family s block.toArray) start
  ([s.a, s.b, s.c, s.d, s.e, s.f, s.g, s.h].flatMap fun w =>
    Bytes.ofNat family.wordSize (family.toNat w)).take size

/-- The constants of the rounds: the first 64 bits after the point of the cube roots of the first
eighty primes. -/
def roundConstants : List UInt64 := [
  0x428a2f98d728ae22, 0x7137449123ef65cd, 0xb5c0fbcfec4d3b2f, 0xe9b5dba58189dbbc,
  0x3956c25bf348b538, 0x59f111f1b605d019, 0x923f82a4af194f9b, 0xab1c5ed5da6d8118,
  0xd807aa98a3030242, 0x12835b0145706fbe, 0x243185be4ee4b28c, 0x550c7dc3d5ffb4e2,
  0x72be5d74f27b896f, 0x80deb1fe3b1696b1, 0x9bdc06a725c71235, 0xc19bf174cf692694,
  0xe49b69c19ef14ad2, 0xefbe4786384f25e3, 0x0fc19dc68b8cd5b5, 0x240ca1cc77ac9c65,
  0x2de92c6f592b0275, 0x4a7484aa6ea6e483, 0x5cb0a9dcbd41fbd4, 0x76f988da831153b5,
  0x983e5152ee66dfab, 0xa831c66d2db43210, 0xb00327c898fb213f, 0xbf597fc7beef0ee4,
  0xc6e00bf33da88fc2, 0xd5a79147930aa725, 0x06ca6351e003826f, 0x142929670a0e6e70,
  0x27b70a8546d22ffc, 0x2e1b21385c26c926, 0x4d2c6dfc5ac42aed, 0x53380d139d95b3df,
  0x650a73548baf63de, 0x766a0abb3c77b2a8, 0x81c2c92e47edaee6, 0x92722c851482353b,
  0xa2bfe8a14cf10364, 0xa81a664bbc423001, 0xc24b8b70d0f89791, 0xc76c51a30654be30,
  0xd192e819d6ef5218, 0xd69906245565a910, 0xf40e35855771202a, 0x106aa07032bbd1b8,
  0x19a4c116b8d2d0c8, 0x1e376c085141ab53, 0x2748774cdf8eeb99, 0x34b0bcb5e19b48a8,
  0x391c0cb3c5c95a63, 0x4ed8aa4ae3418acb, 0x5b9cca4f7763e373, 0x682e6ff3d6b2b8a3,
  0x748f82ee5defb2fc, 0x78a5636f43172f60, 0x84c87814a1f0ab72, 0x8cc702081a6439ec,
  0x90befffa23631e28, 0xa4506cebde82bde9, 0xbef9a3f7b2c67915, 0xc67178f2e372532b,
  0xca273eceea26619c, 0xd186b8c721c0c207, 0xeada7dd6cde0eb1e, 0xf57d4f7fee6ed178,
  0x06f067aa72176fba, 0x0a637dc5a2c898a6, 0x113f9804bef90dae, 0x1b710b35131c471b,
  0x28db77f523047d84, 0x32caab7b40c72493, 0x3c9ebe0a15c9bebc, 0x431d67c49c100d4c,
  0x4cc5d4becb3e42b6, 0x597f299cfc657e2a, 0x5fcb6fab3ad6faec, 0x6c44198c4a475817]

/-- The digests over words of 32 bits. Their constants are the upper halves of the others'. -/
def words32 : Family UInt32 where
  wordSize := 4
  ofNat := Nat.toUInt32
  toNat := UInt32.toNat
  state0 x := rotateRight32 2 x ^^^ rotateRight32 13 x ^^^ rotateRight32 22 x
  state1 x := rotateRight32 6 x ^^^ rotateRight32 11 x ^^^ rotateRight32 25 x
  message0 x := rotateRight32 7 x ^^^ rotateRight32 18 x ^^^ (x >>> 3)
  message1 x := rotateRight32 17 x ^^^ rotateRight32 19 x ^^^ (x >>> 10)
  constants := (roundConstants.take 64).map fun (k : UInt64) => (k >>> 32).toUInt32

/-- The digests over words of 64 bits. -/
def words64 : Family UInt64 where
  wordSize := 8
  ofNat := Nat.toUInt64
  toNat := UInt64.toNat
  state0 x := rotateRight64 28 x ^^^ rotateRight64 34 x ^^^ rotateRight64 39 x
  state1 x := rotateRight64 14 x ^^^ rotateRight64 18 x ^^^ rotateRight64 41 x
  message0 x := rotateRight64 1 x ^^^ rotateRight64 8 x ^^^ (x >>> 7)
  message1 x := rotateRight64 19 x ^^^ rotateRight64 61 x ^^^ (x >>> 6)
  constants := roundConstants

/-- SHA-256. -/
def sha256 : Bytes → Bytes :=
  digest words32 ⟨0x6a09e667, 0xbb67ae85, 0x3c6ef372, 0xa54ff53a, 0x510e527f, 0x9b05688c,
    0x1f83d9ab, 0x5be0cd19⟩ 32

/-- SHA-224. -/
def sha224 : Bytes → Bytes :=
  digest words32 ⟨0xc1059ed8, 0x367cd507, 0x3070dd17, 0xf70e5939, 0xffc00b31, 0x68581511,
    0x64f98fa7, 0xbefa4fa4⟩ 28

/-- SHA-512. -/
def sha512 : Bytes → Bytes :=
  digest words64 ⟨0x6a09e667f3bcc908, 0xbb67ae8584caa73b, 0x3c6ef372fe94f82b, 0xa54ff53a5f1d36f1,
    0x510e527fade682d1, 0x9b05688c2b3e6c1f, 0x1f83d9abfb41bd6b, 0x5be0cd19137e2179⟩ 64

/-- SHA-384. -/
def sha384 : Bytes → Bytes :=
  digest words64 ⟨0xcbbb9d5dc1059ed8, 0x629a292a367cd507, 0x9159015a3070dd17, 0x152fecd8f70e5939,
    0x67332667ffc00b31, 0x8eb44a8768581511, 0xdb0c2e0d64f98fa7, 0x47b5481dbefa4fa4⟩ 48

/-- SHA-512 cut to 224 bits. -/
def sha512To224 : Bytes → Bytes :=
  digest words64 ⟨0x8c3d37c819544da2, 0x73e1996689dcd4d6, 0x1dfab7ae32ff9c82, 0x679dd514582f9fcf,
    0x0f6d2b697bd44da8, 0x77e36f7304c48942, 0x3f9d85a86a1d36c8, 0x1112e6ad91d692a1⟩ 28

/-- SHA-512 cut to 256 bits. -/
def sha512To256 : Bytes → Bytes :=
  digest words64 ⟨0x22312194fc2bf72c, 0x9f555fa3c84c64c2, 0x2393b86b6f53b151, 0x963877195940eabd,
    0x96283ee2a88effe3, 0xbe5e1e2553863992, 0x2b0199fc2c85b8aa, 0x0eb72ddc81c52ca2⟩ 32

end TlsListener.Sha2
