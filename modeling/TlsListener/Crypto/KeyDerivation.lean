import TlsListener.Crypto.Digest.Basic

/-!
# Keys from passwords

Three ways to make key bytes from a password: the one of encrypted private keys, which iterates a
keyed digest; the one of PKCS#12 archives, which iterates a digest over password and salt and tells
keys, initial vectors and integrity keys apart; and the oldest one, of encrypted blocks of PEM.
-/

namespace TlsListener.KeyDerivation

/-- The first `count` values of a function from one on. -/
def firstBlocks (block : Nat → Bytes) (count : Nat) : Bytes :=
  (List.range count).flatMap fun i => block (i + 1)

/-- How many pieces of one size make up a length. -/
def blockCount (size length : Nat) : Nat :=
  (length + size - 1) / size

/-- Apply the keyed digest again and again, and combine all its values. -/
def iterateKeyed (digest : Digest) (password : Bytes) : Nat → Bytes → Bytes → Bytes
  | 0, _, sum => sum
  | count + 1, last, sum =>
    let next := digest.hmac password last
    iterateKeyed digest password count next (Bytes.xor sum next)

/-- Key bytes by the second password-based derivation of PKCS#5. -/
def pbkdf2 (digest : Digest) (password salt : Bytes) (iterations length : Nat) : Bytes :=
  let block := fun i =>
    let first := digest.hmac password (salt ++ Bytes.ofNat 4 i)
    iterateKeyed digest password (iterations - 1) first first
  (firstBlocks block (blockCount digest.size length)).take length

/-- What bytes derived for a PKCS#12 archive are for. -/
inductive Purpose where
  | key | initialVector | integrity
  deriving DecidableEq, Repr

/-- The byte that stands for a purpose. -/
def Purpose.code : Purpose → UInt8
  | key => 1
  | initialVector => 2
  | integrity => 3

/-- Bytes repeated up to a whole number of blocks; none stay none. -/
def fillBlocks (blockSize : Nat) (bytes : Bytes) : Bytes :=
  let size := blockSize * blockCount blockSize bytes.length
  ((List.replicate (blockCount bytes.length size) bytes).flatten).take size

/-- A digest applied to its own value again and again. -/
def iterateDigest (digest : Digest) : Nat → Bytes → Bytes
  | 0, value => value
  | count + 1, value => iterateDigest digest count (digest.hash value)

/-- Blocks of a round's input, each with the same number added to it. -/
def addToBlocks (blockSize : Nat) (number : Bytes) (input : Bytes) : Bytes :=
  (pieces blockSize input).flatMap fun block =>
    Bytes.ofNat blockSize (Bytes.toNat block + Bytes.toNat number + 1)

/-- The values of successive rounds over one input. -/
def rounds (digest : Digest) (diversifier : Bytes) (iterations : Nat) : Nat → Bytes → Bytes
  | 0, _ => []
  | count + 1, input =>
    let value := iterateDigest digest (iterations - 1) (digest.hash (diversifier ++ input))
    let number := ((List.replicate (blockCount digest.size digest.blockSize) value).flatten).take
      digest.blockSize
    value ++ rounds digest diversifier iterations count
      (addToBlocks digest.blockSize number input)

/-- Bytes for a purpose by the derivation of PKCS#12. -/
def archive (digest : Digest) (purpose : Purpose) (password salt : Bytes)
    (iterations length : Nat) : Bytes :=
  let input := fillBlocks digest.blockSize salt ++ fillBlocks digest.blockSize password
  (rounds digest (List.replicate digest.blockSize purpose.code) iterations
    (blockCount digest.size length) input).take length

/-- The values of a digest over its last value, the password and the salt. -/
def chainedDigests (password salt : Bytes) : Nat → Bytes → Bytes
  | 0, _ => []
  | count + 1, last =>
    let next := Digest.md5.hash (last ++ password ++ salt)
    next ++ chainedDigests password salt count next

/-- Key bytes for an encrypted block of PEM. -/
def chained (password salt : Bytes) (length : Nat) : Bytes :=
  (chainedDigests password salt (blockCount Digest.md5.size length) []).take length

end TlsListener.KeyDerivation
