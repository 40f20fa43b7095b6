import TlsListener.Context.Suites
import TlsListener.Proofs.Text.Pieces

/-!
# Texts without NUL characters

The names of suites are joined by colons, cut at colons, and trimmed before the engine is handed any
of them. None of this brings in a NUL character, so that names which can be handed to the engine can
still be handed to it after they have been joined and cut again.
-/

namespace TlsListener

variable {c : Char} {names : List String}

theorem isPassable_iff {s : String} : isPassable s = true ↔ nul ∉ s.toList := by
  simp [isPassable]

theorem isPassable_intercalate :
    isPassable (String.intercalate ":" names) = true ↔ ∀ name ∈ names, isPassable name = true := by
  have colon : ":".toList = [':'] := rfl
  have other : nul ≠ ':' := by decide
  simp only [isPassable_iff, String.toList_intercalate, colon, mem_intercalate_iff other]
  simp

theorem Text.mem_of_mem_trimChars {chars : List Char} (member : c ∈ trimChars chars) :
    c ∈ chars := by
  have kept : c ∈ (chars.dropWhile isBlank).reverse.dropWhile isBlank := by
    simpa [trimChars, dropBlankEnd] using member
  have front := (List.dropWhile_sublist isBlank).mem kept
  exact (List.dropWhile_sublist isBlank).mem (List.mem_reverse.mp front)

/-- The names in a text can be handed to the engine if the text can. -/
theorem isPassable_of_mem_suiteNames {suites name : String} (passable : isPassable suites = true)
    (member : name ∈ suiteNames suites) : isPassable name = true := by
  rw [isPassable_iff] at passable ⊢
  simp only [suiteNames, List.mem_filterMap, List.mem_map] at member
  obtain ⟨_, ⟨piece, cut, rfl⟩, kept⟩ := member
  split at kept
  · cases kept
  · cases kept
    intro member
    rw [String.toList_ofList] at member
    exact passable (mem_of_mem_splitOn (by decide) cut (Text.mem_of_mem_trimChars member))

end TlsListener
