import TlsListener.Encoding.Ber.Value

/-!
# Texts

The texts that tagged values hold: in UTF-8, or with one, two or four bytes for each character. A
value is no text if it is of another type, or if its bytes are not those of characters.
-/

namespace TlsListener.Ber

/-- The character of a number. -/
def char? (n : Nat) : Option Char :=
  if h : n.isValidChar then some (Char.ofNatAux n h) else none

/-- Characters of a fixed width. -/
def wideText? (width : Nat) (bytes : Bytes) : Option String := do
  guard (bytes.length % width = 0)
  return String.ofList (← (pieces width bytes).mapM fun unit => char? (Bytes.toNat unit))

/-- Characters in UTF-8. -/
def text8? (bytes : Bytes) : Option String := String.fromUTF8? ⟨bytes.toArray⟩

/-- The types of texts with one byte for each character. -/
def narrowTypes : List Nat :=
  [typeDigits, typePrintable, typeTeletex, typeAscii, typeShortTime, typeLongTime, typeVisible]

/-- The text of a value. -/
def Value.text? (value : Value) : Option String :=
  if value.tag.tagClass ≠ .universal then none
  else if value.tag.number = typeText8 then text8? value.bytes
  else if value.tag.number = typeText16 then wideText? 2 value.bytes
  else if value.tag.number = typeText32 then wideText? 4 value.bytes
  else if narrowTypes.contains value.tag.number then
    some (String.ofList (value.bytes.map fun b => Char.ofNat b.toNat))
  else none

end TlsListener.Ber
