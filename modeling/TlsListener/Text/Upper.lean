import TlsListener.Text.Blank

/-!
# Comparing names without regard to letter case

Names of protocol versions and store types are recognised by their trimmed upper-case form. Every
such name consists of ASCII characters, so only those letters matter whose upper-case form is made
of ASCII letters alone: the small letters a to z, the dotless i, the long s, the sharp s and the
Latin ligatures. Any other character has an upper-case form outside ASCII, with or without a change,
and a text that holds one is never a recognised name.
-/

namespace TlsListener.Text

/-- The upper-case form of a character, where it lies inside ASCII; any other character as it is.
The sharp s and the ligatures become more than one letter. -/
def upperChar (c : Char) : List Char :=
  if 'a' ≤ c ∧ c ≤ 'z' then [c.toUpper]
  else match c.toNat with
    | 0xDF => ['S', 'S']
    | 0x131 => ['I']
    | 0x17F => ['S']
    | 0xFB00 => ['F', 'F']
    | 0xFB01 => ['F', 'I']
    | 0xFB02 => ['F', 'L']
    | 0xFB03 => ['F', 'F', 'I']
    | 0xFB04 => ['F', 'F', 'L']
    | 0xFB05 => ['S', 'T']
    | 0xFB06 => ['S', 'T']
    | _ => [c]

/-- The upper-case form of a text, as far as it lies inside ASCII. -/
def upper (s : String) : String :=
  String.ofList (s.toList.flatMap upperChar)

/-- The form under which a name is recognised: trimmed, then in upper case. -/
def canonical (s : String) : String :=
  upper (trim s)

/-- Blanks around a name play no part in recognising it. -/
@[simp] theorem canonical_trim (s : String) : canonical (trim s) = canonical s := by
  simp [canonical]

end TlsListener.Text
