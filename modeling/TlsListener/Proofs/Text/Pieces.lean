import Mathlib.Data.List.Basic

/-!
# Joining texts and dividing them again

Texts are joined with a separator between them and divided at a separator. Dividing what was joined
gives the pieces of the first text, then those of the next, and so on; a text without the separator
is a piece by itself, so such texts come back as they were. Neither joining nor dividing brings in a
character other than the separator.
-/

namespace TlsListener

variable {c separator : Char} {pieces : List (List Char)}

/-- Joining some pieces and dividing the whole is dividing each piece. -/
theorem splitOn_intercalate_eq_flatMap (some : pieces ≠ []) :
    ([separator].intercalate pieces).splitOn separator =
      pieces.flatMap fun piece => piece.splitOn separator := by
  induction pieces with
  | nil => exact absurd rfl some
  | cons piece pieces ih =>
      cases pieces with
      | nil => simp
      | cons next pieces =>
          rw [List.intercalate_cons_cons, List.append_assoc, List.singleton_append,
            List.splitOn_append_cons_self, ih (by simp), ← List.flatMap_cons]

/-- Joining brings in the separator and nothing else. -/
theorem mem_intercalate_iff (other : c ≠ separator) :
    c ∈ [separator].intercalate pieces ↔ ∃ piece ∈ pieces, c ∈ piece := by
  induction pieces with
  | nil => simp
  | cons piece pieces ih =>
      cases pieces with
      | nil => simp
      | cons next pieces =>
          rw [List.intercalate_cons_cons, List.mem_append, List.mem_append, ih]
          simp [other]

/-- What is cut out of a text is part of it. -/
theorem mem_of_mem_splitOn {chars piece : List Char} (other : c ≠ separator)
    (cut : piece ∈ chars.splitOn separator) (member : c ∈ piece) : c ∈ chars := by
  have joined : [separator].intercalate (chars.splitOn separator) = chars :=
    List.intercalate_splitOn separator
  rw [← joined]
  exact (mem_intercalate_iff other).mpr ⟨piece, cut, member⟩

/-- The first place where an element stands divides a list in one way. -/
theorem append_cons_inj {α : Type} {x : α} {front front' back back' : List α} (out : x ∉ front)
    (out' : x ∉ front') (h : front ++ x :: back = front' ++ x :: back') :
    front = front' ∧ back = back' := by
  obtain ⟨between, rfl, rest⟩ | ⟨between, rfl, rest⟩ := List.append_eq_append_iff.mp h
  · cases between with
    | nil => simpa using rest
    | cons y between =>
        have same : x = y := (List.cons.inj rest).1
        exact absurd (by simp [same]) out'
  · cases between with
    | nil => simpa using rest.symm
    | cons y between =>
        have same : x = y := (List.cons.inj rest).1
        exact absurd (by simp [same]) out

end TlsListener
