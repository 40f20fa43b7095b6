import TlsListener.Crypto.Bytes

/-!
# Words

Words of 32 and of 64 bits, as digests and ciphers work on them: turning their bits around, and
reading them off bytes and writing them to bytes, the least or the most significant byte first.
-/

namespace TlsListener

/-- A word of 32 bits turned to the left. -/
def rotateLeft32 (count word : UInt32) : UInt32 :=
  (word <<< count) ||| (word >>> (32 - count))

/-- A word of 32 bits turned to the right. -/
def rotateRight32 (count word : UInt32) : UInt32 :=
  (word >>> count) ||| (word <<< (32 - count))

/-- A word of 64 bits turned to the left. -/
def rotateLeft64 (count word : UInt64) : UInt64 :=
  (word <<< count) ||| (word >>> (64 - count))

/-- A word of 64 bits turned to the right. -/
def rotateRight64 (count word : UInt64) : UInt64 :=
  (word >>> count) ||| (word <<< (64 - count))

namespace Bytes

/-- The words of 32 bits that bytes make up, the most significant byte of each first. -/
def words32 (bytes : Bytes) : List UInt32 :=
  (pieces 4 bytes).map fun word => (toNat word).toUInt32

/-- The words of 32 bits that bytes make up, the least significant byte of each first. -/
def words32Reversed (bytes : Bytes) : List UInt32 :=
  (pieces 4 bytes).map fun word => (toNatReversed word).toUInt32

/-- The words of 64 bits that bytes make up, the least significant byte of each first. -/
def words64Reversed (bytes : Bytes) : List UInt64 :=
  (pieces 8 bytes).map fun word => (toNatReversed word).toUInt64

/-- Words of 32 bits as bytes, the most significant byte of each first. -/
def ofWords32 (words : List UInt32) : Bytes :=
  words.flatMap fun word => ofNat 4 word.toNat

/-- Words of 32 bits as bytes, the least significant byte of each first. -/
def ofWords32Reversed (words : List UInt32) : Bytes :=
  words.flatMap fun word => ofNatReversed 4 word.toNat

/-- Words of 64 bits as bytes, the least significant byte of each first. -/
def ofWords64Reversed (words : List UInt64) : Bytes :=
  words.flatMap fun word => ofNatReversed 8 word.toNat

/-- A message made up to whole blocks: a one bit, zero bits, and its length as it is written. -/
def closed (blockSize : Nat) (length message : Bytes) : Bytes :=
  let used := message.length + 1 + length.length
  message ++ 0x80 :: List.replicate ((blockSize - used % blockSize) % blockSize) 0 ++ length

/-- A message closed with its length in bits in the given count of bytes, the most significant byte
first. -/
def closedForward (blockSize count : Nat) (message : Bytes) : Bytes :=
  closed blockSize (ofNat count (8 * message.length)) message

/-- A message closed with its length in bits in the given count of bytes, the least significant byte
first. -/
def closedReversed (blockSize count : Nat) (message : Bytes) : Bytes :=
  closed blockSize (ofNatReversed count (8 * message.length)) message

end Bytes

end TlsListener
