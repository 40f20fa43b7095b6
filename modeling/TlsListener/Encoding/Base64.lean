import TlsListener.Crypto.Bytes
import TlsListener.Number.Power

/-!
# Bytes as text in base 64

Four characters stand for three bytes. Blanks and line ends between them do not count, a hyphen ends
the text, and one or two equals signs make up the last four characters.
-/

namespace TlsListener.Base64

/-- The value of a character. -/
def value? (c : UInt8) : Option Nat :=
  if 65 ≤ c ∧ c ≤ 90 then some (c.toNat - 65)
  else if 97 ≤ c ∧ c ≤ 122 then some (c.toNat - 97 + 26)
  else if 48 ≤ c ∧ c ≤ 57 then some (c.toNat - 48 + 52)
  else if c = 43 then some 62
  else if c = 47 then some 63
  else none

/-- The characters that do not count. -/
def isBlank (c : UInt8) : Bool :=
  c = 9 || c = 10 || c = 13 || c = 32

/-- The character that makes up the last four. -/
def filler : UInt8 := 61

/-- Six more bits; a byte is put out when there are eight. -/
def addSix (state : Bytes × Nat × Nat) (value : Nat) : Bytes × Nat × Nat :=
  let (out, bits, count) := state
  let bits := bits * 64 + value
  let count := count + 6
  if count < 8 then (out, bits, count)
  else ((bits / twoTo (count - 8)).toUInt8 :: out, bits % twoTo (count - 8), count - 8)

/-- The bytes that six-bit values stand for. -/
def bytesOfValues (values : List Nat) : Bytes :=
  (values.foldl addSix ([], 0, 0)).1.reverse

/-- The bytes that a text stands for. -/
def decode? (text : Bytes) : Option Bytes := do
  let counted := (text.takeWhile (· ≠ 45)).filter (!isBlank ·)
  let front := counted.takeWhile (· ≠ filler)
  let fillers := counted.drop front.length
  guard (fillers.all (· = filler) && fillers.length ≤ 2 && counted.length % 4 = 0)
  return bytesOfValues (← front.mapM value?)

end TlsListener.Base64
