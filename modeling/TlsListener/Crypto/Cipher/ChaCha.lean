import TlsListener.Crypto.Word

/-!
# The ChaCha20 stream cipher

Blocks of a stream of bytes are made of the key, a counter and a nonce by twenty rounds over a
square of words, alternately over its columns and its diagonals. The counter and the nonce together
take sixteen bytes.
-/

namespace TlsListener.ChaCha

/-- One step over four words of the square. -/
def step (v : Array UInt32) (line : Nat × Nat × Nat × Nat) : Array UInt32 :=
  let (i, j, k, l) := line
  let (a, b, c, d) := (v.getD i 0, v.getD j 0, v.getD k 0, v.getD l 0)
  let a := a + b
  let d := rotateLeft32 16 (d ^^^ a)
  let c := c + d
  let b := rotateLeft32 12 (b ^^^ c)
  let a := a + b
  let d := rotateLeft32 8 (d ^^^ a)
  let c := c + d
  let b := rotateLeft32 7 (b ^^^ c)
  (((v.setIfInBounds i a).setIfInBounds j b).setIfInBounds k c).setIfInBounds l d

/-- The columns and then the diagonals of the square. -/
def lines : List (Nat × Nat × Nat × Nat) := [
  (0, 4, 8, 12), (1, 5, 9, 13), (2, 6, 10, 14), (3, 7, 11, 15),
  (0, 5, 10, 15), (1, 6, 11, 12), (2, 7, 8, 13), (3, 4, 9, 14)]

/-- The words that every square begins with. -/
def constants : List UInt32 := [0x61707865, 0x3320646e, 0x79622d32, 0x6b206574]

/-- A block of the stream. -/
def block (key counter : Bytes) : Bytes :=
  let start := (constants ++ Bytes.words32Reversed (key ++ counter)).toArray
  let final := (List.range 10).foldl (fun v _ => lines.foldl step v) start
  Bytes.ofWords32Reversed (List.zipWith (· + ·) start.toList final.toList)

/-- The counter and the nonce after a number of blocks. -/
def advance (counter : Bytes) (count : Nat) : Bytes :=
  Bytes.ofNatReversed 8 (Bytes.toNatReversed (counter.take 8) + count) ++ counter.drop 8

/-- Encrypt or decrypt data. -/
def apply (key counter data : Bytes) : Bytes :=
  (pieces 64 data).zipIdx.flatMap fun (piece, number) =>
    Bytes.xor piece (block key (advance counter number))

end TlsListener.ChaCha
