import TlsListener.Proofs.Context.Suites
import TlsListener.Proofs.Text.Passable

/-!
# Joining suites and telling them apart again

Suites are declared as a list, joined by colons, and told apart at the colons. A colon within an
element divides the element as well, so what is told apart in the end is what stands between the
colons of one element, then of the next, and so on. Parts that are blank are passed over. Elements
that are plain names come back as they are.

Nothing else of a text of suites plays a part in choosing them, but that a failure over all of them
quotes the text. `DiffersInText` says that of two operations.
-/

namespace TlsListener

/-- The names in suites that were joined are those in each of them, in order. -/
theorem suiteNames_intercalate {names : List String} (some : names ≠ []) :
    suiteNames (String.intercalate ":" names) = names.flatMap suiteNames := by
  have colon : ":".toList = [':'] := rfl
  have pieces : names.map String.toList ≠ [] := by simpa using some
  have divided : (String.intercalate ":" names).toList.splitOn ':' =
      names.flatMap fun name => name.toList.splitOn ':' := by
    rw [String.toList_intercalate, colon, splitOn_intercalate_eq_flatMap pieces, List.flatMap_map]
  rw [suiteNames, divided, List.map_flatMap, List.filterMap_flatMap]
  rfl

/-- There are no names in a text exactly if all between its colons is blank. -/
theorem suiteNames_eq_nil {suites : String} :
    suiteNames suites = [] ↔ ∀ part ∈ suites.toList.splitOn ':', Text.trimChars part = [] := by
  simp [suiteNames, List.filterMap_eq_nil_iff]

/-- Suites that are blank throughout have no names in them once they are joined. -/
theorem suiteNames_intercalate_eq_nil {names : List String} (some : names ≠ [])
    (blank : ∀ name ∈ names, ∀ part ∈ name.toList.splitOn ':', Text.trimChars part = []) :
    suiteNames (String.intercalate ":" names) = [] := by
  rw [suiteNames_intercalate some, List.flatMap_eq_nil_iff]
  exact fun name member => suiteNames_eq_nil.mpr (blank name member)

example : suiteNames (String.intercalate ":" ["a:b", " ", "c :: a"]) = ["a", "b", "c", "a"] := by
  decide +kernel

/-- A name of a suite is plain: it is all that there is to be told apart in it. -/
structure IsPlainName (name : String) : Prop where
  nonempty : name ≠ ""
  trimmed : Text.trim name = name
  undivided : ':' ∉ name.toList

theorem IsPlainName.suiteNames_eq {name : String} (plain : IsPlainName name) :
    suiteNames name = [name] := by
  have trimmed : Text.trimChars name.toList = name.toList := by
    rw [← Text.toList_trim, plain.trimmed]
  have nonempty : name.toList ≠ [] := mt String.toList_eq_nil_iff.mp plain.nonempty
  rw [suiteNames, List.splitOn_eq_singleton plain.undivided]
  simp [trimmed, nonempty]

/-- Plain names are told apart as they are. -/
theorem flatMap_suiteNames_of_plain {names : List String}
    (plain : ∀ name ∈ names, IsPlainName name) : names.flatMap suiteNames = names := by
  induction names with
  | nil => rfl
  | cons name names ih =>
      rw [List.flatMap_cons, (plain name List.mem_cons_self).suiteNames_eq,
        ih fun other member => plain other (List.mem_cons_of_mem _ member)]
      rfl

/-- Two operations come to the same, after the same log, or fail over all of the suites, each
quoting its own text of them. -/
inductive DiffersInText (text text' : String) {α : Type} : Traced α → Traced α → Prop where
  | same (answer : Traced α) : DiffersInText text text' answer answer
  | refused {cause : String → StartupCause}
      (quotes : cause = .noSuite ∨ cause = .noVersionForSuites) (events : List Event) :
      DiffersInText text text' ⟨events, .error (.failure (.startup (cause text)))⟩
        ⟨events, .error (.failure (.startup (cause text')))⟩

section

variable {engine : Engine} {text text' : String} {α β : Type}

/-- What follows is not come to where the texts are quoted. -/
theorem DiffersInText.bind {first first' : Traced α} (h : DiffersInText text text' first first')
    (next : α → Traced β) : DiffersInText text text' (first >>= next) (first' >>= next) := by
  cases h with
  | same => exact .same _
  | refused quotes events => exact .refused quotes events

/-- What came before is the same for both. -/
theorem DiffersInText.after {first first' : Traced α} (h : DiffersInText text text' first first')
    (events : List Event) :
    DiffersInText text text' ⟨events ++ first.events, first.outcome⟩
      ⟨events ++ first'.events, first'.outcome⟩ := by
  cases h with
  | same => exact .same _
  | refused quotes later => exact .refused quotes (events ++ later)

/-- Texts with the same names are sorted alike. -/
theorem sortSuites_congr (same : suiteNames text = suiteNames text') :
    sortSuites engine text = sortSuites engine text' := by
  simp only [sortSuites, same]

/-- Texts with the same names are restricted to alike. -/
theorem differsInText_restrictToSuites (same : suiteNames text = suiteNames text')
    (versions : List Version) :
    DiffersInText text text' (restrictToSuites engine text versions)
      (restrictToSuites engine text' versions) := by
  rw [restrictToSuites, restrictToSuites, sortSuites_congr same]
  rcases sortSuites engine text' with ⟨events, stop | sorted⟩
  · exact .same _
  rw [Traced.bind_ok, Traced.bind_ok]
  refine DiffersInText.after ?_ events
  by_cases empty : sorted.isEmpty = true
  · rw [if_pos empty, if_pos empty]
    exact .refused (.inl rfl) []
  rw [if_neg empty, if_neg empty]
  dsimp only
  split
  · exact .same _
  · refine DiffersInText.after ?_ _
    split
    · exact .refused (.inr rfl) []
    · exact .same _

end

end TlsListener
