import Mathlib.Data.List.Basic
import TlsListener.Text.Upper

/-!
# Upper case

Names are recognised by their trimmed form in upper case. The accepted names are made of ASCII
characters, so it does not matter to which characters outside of ASCII others are turned: a text
with one of them is no accepted name. Whatever is said of the canonical form of a text can therefore
be said of its form in any upper case that agrees inside of ASCII.
-/

namespace TlsListener.Text

/-- There are only ASCII characters in a list. -/
def IsAscii (cs : List Char) : Prop :=
  ∀ c ∈ cs, c.toNat < 128

/-- Characters are turned into upper case, also those whose upper-case form lies outside of ASCII:
it may be any there. -/
structure IsUpperCasing (full : Char → List Char) : Prop where
  inside : ∀ {c}, IsAscii (upperChar c) → full c = upperChar c
  outside : ∀ {c}, ¬IsAscii (upperChar c) → ¬IsAscii (full c)

/-- The upper case in which names are recognised is one. -/
theorem isUpperCasing_upperChar : IsUpperCasing upperChar :=
  ⟨fun _ => rfl, fun h => h⟩

theorem isAscii_flatMap {f : Char → List Char} {cs : List Char} :
    IsAscii (cs.flatMap f) ↔ ∀ c ∈ cs, IsAscii (f c) := by
  constructor
  · intro h c member d inside
    exact h d (List.mem_flatMap.mpr ⟨c, member, inside⟩)
  · intro h d member
    obtain ⟨c, member, inside⟩ := List.mem_flatMap.mp member
    exact h c member d inside

/-- Where the upper-case form of a text lies inside ASCII there is one such form. -/
theorem IsUpperCasing.flatMap_eq_iff {full : Char → List Char} (casing : IsUpperCasing full)
    {cs name : List Char} (ascii : IsAscii name) :
    cs.flatMap full = name ↔ cs.flatMap upperChar = name := by
  have same (inside : ∀ c ∈ cs, IsAscii (upperChar c)) :
      cs.flatMap full = cs.flatMap upperChar :=
    List.flatMap_congr fun c member => casing.inside (inside c member)
  constructor
  · rintro rfl
    refine (same fun c member => ?_).symm
    by_contra outside
    exact casing.outside outside (isAscii_flatMap.mp ascii c member)
  · rintro rfl
    exact same (isAscii_flatMap.mp ascii)

/-- A text trimmed and then turned into upper case. -/
def trimmedUpper (full : Char → List Char) (s : String) : String :=
  String.ofList ((trim s).toList.flatMap full)

/-- A text has the canonical form of a name in one upper case exactly if it has it in any other. -/
theorem IsUpperCasing.trimmedUpper_eq_iff {full : Char → List Char} (casing : IsUpperCasing full)
    {s name : String} (ascii : IsAscii name.toList) :
    trimmedUpper full s = name ↔ canonical s = name := by
  rw [trimmedUpper, canonical, upper, ← String.toList_inj, ← String.toList_inj,
    String.toList_ofList, String.toList_ofList]
  exact casing.flatMap_eq_iff ascii

end TlsListener.Text
