/-!
# Bytes and numbers

Byte strings are lists of bytes. Here are the two ways to read a number from one, the way to write
one, and the cutting of a list into pieces of one size.
-/

namespace TlsListener

/-- A string of bytes. -/
abbrev Bytes := List UInt8

namespace Bytes

/-- The number that bytes stand for, the most significant first. -/
def toNat (bytes : Bytes) : Nat :=
  bytes.foldl (fun n b => n * 256 + b.toNat) 0

/-- The number that bytes stand for, the least significant first. -/
def toNatReversed (bytes : Bytes) : Nat :=
  bytes.foldr (fun b n => n * 256 + b.toNat) 0

/-- A number in the given count of bytes, the least significant first; what does not fit is lost. -/
def ofNatReversed : Nat → Nat → Bytes
  | 0, _ => []
  | count + 1, n => n.toUInt8 :: ofNatReversed count (n / 256)

/-- A number in the given count of bytes, the most significant first; what does not fit is lost. -/
def ofNat (count n : Nat) : Bytes :=
  (ofNatReversed count n).reverse

/-- Two byte strings combined bit by bit, as far as the shorter reaches. -/
def xor (a b : Bytes) : Bytes :=
  List.zipWith (· ^^^ ·) a b

end Bytes

/-- A list cut after the given number of items, if it has so many. -/
def splitAt? (count : Nat) (items : List α) : Option (List α × List α) :=
  let front := items.take count
  if front.length = count then some (front, items.drop count) else none

/-- A list in pieces of the given size, the last perhaps shorter. There are none of size zero. -/
def pieces (size : Nat) (items : List α) : List (List α) :=
  if _h : size = 0 ∨ items = [] then []
  else items.take size :: pieces size (items.drop size)
termination_by items.length
decreasing_by
  have : items.length ≠ 0 := by simpa using fun hi => _h (Or.inr hi)
  simp only [List.length_drop]
  omega

end TlsListener
