import TlsListener.Crypto.Cipher.Field

/-!
# The ARIA block cipher

Each round mixes a key into a block of sixteen bytes, substitutes its bytes by four substitutions in
turn, and combines each byte with six others. Two of the substitutions are those of AES, two undo
the ones before them. Decryption is encryption with other round keys.
-/

namespace TlsListener.Aria

open Field256

/-- The polynomial of the field, less its leading term. -/
def remainder : UInt8 := 0x1b

/-- The first substitution: an affine map of the inverse. -/
def first : Substitution :=
  .ofFunction fun b =>
    linear [0x1f, 0x3e, 0x7c, 0xf8, 0xf1, 0xe3, 0xc7, 0x8f] (inverse remainder b) ^^^ 0x63

/-- The second substitution: an affine map of the 247th power. -/
def second : Substitution :=
  .ofFunction fun b =>
    linear [0xac, 0xc5, 0x12, 0xcf, 0x5b, 0x5f, 0x85, 0xee] (power remainder b 247) ^^^ 0xe2

/-- The four substitutions in the order in which odd rounds take them. Even rounds begin with the
third. -/
def substitutions : List Substitution := [first, second, first.undone, second.undone]

/-- The order of the substitutions in a round. -/
def order (odd : Bool) : List Substitution :=
  if odd then substitutions else substitutions.drop 2 ++ substitutions.take 2

/-- Substitute the bytes of a block. -/
def substitute (odd : Bool) (block : Bytes) : Bytes :=
  let order := order odd
  (pieces 4 block).flatMap fun four => List.zipWith Substitution.apply order four

/-- The bytes that are combined into each byte. -/
def sources : List (List Nat) := [
  [3, 4, 6, 8, 9, 13, 14], [2, 5, 7, 8, 9, 12, 15], [1, 4, 6, 10, 11, 12, 15],
  [0, 5, 7, 10, 11, 13, 14], [0, 2, 5, 8, 11, 14, 15], [1, 3, 4, 9, 10, 14, 15],
  [0, 2, 7, 9, 10, 12, 13], [1, 3, 6, 8, 11, 12, 13], [0, 1, 4, 7, 10, 13, 15],
  [0, 1, 5, 6, 11, 12, 14], [2, 3, 5, 6, 8, 13, 15], [2, 3, 4, 7, 9, 12, 14],
  [1, 2, 6, 7, 9, 11, 12], [0, 3, 6, 7, 8, 10, 13], [0, 3, 4, 5, 9, 11, 14],
  [1, 2, 4, 5, 8, 10, 15]]

/-- Combine each byte of a block with others. Doing so twice changes nothing. -/
def diffuse (block : Bytes) : Bytes :=
  let bytes := block.toArray
  sources.map fun places => places.foldl (fun sum i => sum ^^^ bytes.getD i 0) 0

/-- What a round makes of a block. -/
def roundFunction (odd : Bool) (key block : Bytes) : Bytes :=
  diffuse (substitute odd (Bytes.xor key block))

/-- A block turned to the right by a number of bits. -/
def turnRight (count : Nat) (block : Bytes) : Bytes :=
  let n := Bytes.toNat block
  Bytes.ofNat 16 ((n >>> count) ||| (n <<< (128 - count)))

/-- The three constants of the key schedule. -/
def scheduleConstants : List Bytes :=
  [0x517cc1b727220a94fe13abe8fa9a6ee0, 0x6db14acc9e21c820ff28b1d5ef5de2b0,
    0xdb92371d2126e9700324977504e8c90e].map (Bytes.ofNat 16)

/-- The four blocks that round keys are made of. The size of the key decides where in the list of
constants their making begins. -/
def keyBlocks (key : Bytes) : Array Bytes :=
  let start := key.length / 8 - 2
  let constant := fun i => scheduleConstants.getD ((start + i) % 3) []
  let left := key.take 16
  let right := key.drop 16 ++ List.replicate (32 - key.length) 0
  let w₁ := Bytes.xor (roundFunction true (constant 0) left) right
  let w₂ := Bytes.xor (roundFunction false (constant 1) w₁) left
  let w₃ := Bytes.xor (roundFunction true (constant 2) w₂) w₁
  #[left, w₁, w₂, w₃]

/-- By how much blocks are turned for each group of four round keys. -/
def keyTurns : List Nat := [19, 31, 67, 97, 109]

/-- The keys of all rounds: each combines a block with a turned neighbour. -/
def roundKeys (key : Bytes) : List Bytes :=
  let blocks := keyBlocks key
  let block := fun i => blocks.getD (i % 4) []
  let keys := keyTurns.flatMap fun turn => (List.range 4).map fun i =>
    Bytes.xor (block i) (turnRight turn (block (i + 1)))
  keys.take (key.length / 4 + 9)

/-- The round keys of decryption: those of encryption backwards, combined as blocks are between the
first and the last. -/
def roundKeysBack (keys : List Bytes) : List Bytes :=
  match keys.reverse with
  | [] => []
  | first :: others => first :: (others.dropLast.map diffuse ++ others.getLast?.toList)

/-- The rounds, with the keys that are left. The last two keys belong to the last round, which
combines no bytes. -/
def rounds : Bool → List Bytes → Bytes → Bytes
  | odd, [key, last], block => Bytes.xor last (substitute odd (Bytes.xor key block))
  | odd, key :: keys, block => rounds (!odd) keys (roundFunction odd key block)
  | _, [], block => block

/-- Encrypt one block. -/
def encryptBlock (keys : List Bytes) (block : Bytes) : Bytes := rounds true keys block

/-- Decrypt one block. -/
def decryptBlock (keys : List Bytes) (block : Bytes) : Bytes :=
  rounds true (roundKeysBack keys) block

end TlsListener.Aria
