import Mathlib.Data.List.DropRight
import TlsListener.Proofs.Store.Loading

/-!
# Where a store is found

The location of a store is a text. If it is made of blanks only it says nothing, just as if there
were none. Otherwise it names a file, and one prefix may stand before the name. The file is read as
a whole, unless it is too large.
-/

namespace TlsListener

/-- Nothing is left of a text after trimming exactly if it is made of blanks. -/
theorem Text.allBlank_iff {text : String} :
    allBlank text = true ↔ ∀ c ∈ text.toList, isBlank c = true := by
  rw [allBlank, String.isEmpty_iff, ← String.toList_eq_nil_iff, toList_trim, trimChars]
  constructor
  · intro trimmed
    -- What is left after the front was cut is blank and does not begin with a blank.
    have rest : ∀ c ∈ text.toList.dropWhile isBlank, isBlank c = true :=
      List.rdropWhile_eq_nil_iff.mp trimmed
    rw [← List.dropWhile_eq_nil_iff, List.dropWhile_idempotent, List.dropWhile_eq_nil_iff] at rest
    exact rest
  · intro blank
    rw [List.dropWhile_eq_nil_iff.mpr blank]
    rfl

/-- A location is given and is not blank. -/
structure Located (location : Option String) (text : String) : Prop where
  given : location = some text
  visible : ∃ c ∈ text.toList, Text.isBlank c = false

/-- The name of the file that a location is about. The prefix is taken off once. -/
inductive NamesFile (location : String) : String → Prop where
  | prefixed {name : String} (split : location = "file:" ++ name) : NamesFile location name
  | plain (bare : ∀ name, location ≠ "file:" ++ name) : NamesFile location location

section

variable {location : Option String} {text name : String} {machine : Machine} {bytes : ByteArray}

theorem NamesFile.unique {other : String} (h : NamesFile text name) (h' : NamesFile text other) :
    name = other := by
  cases h with
  | prefixed split =>
      cases h' with
      | prefixed split' =>
          have same := congrArg String.toList (split.symm.trans split')
          rw [String.toList_append, String.toList_append] at same
          exact String.toList_inj.mp (List.append_cancel_left same)
      | plain bare => exact absurd split (bare name)
  | plain bare =>
      cases h' with
      | prefixed split => exact absurd split (bare other)
      | plain => rfl

theorem namesFile_fileName (text : String) : NamesFile text (fileName text) := by
  rw [fileName]
  by_cases front : filePrefix.toList.isPrefixOf text.toList = true
  · obtain ⟨rest, split⟩ := List.isPrefixOf_iff_prefix.mp front
    rw [if_pos front, ← split, List.drop_left]
    refine .prefixed (String.toList_inj.mp ?_)
    rw [← split]
    simp [filePrefix]
  · rw [if_neg front]
    refine .plain ?_
    rintro name rfl
    refine front (List.isPrefixOf_iff_prefix.mpr ⟨name.toList, ?_⟩)
    simp [filePrefix]

/-- A location names one file, and that is the one that is read. -/
theorem namesFile_iff : NamesFile text name ↔ fileName text = name := by
  constructor
  · exact (namesFile_fileName text).unique
  · rintro rfl
    exact namesFile_fileName text

example : fileName "file:file:store.p12" = "file:store.p12" := by decide

/-- A file is read as a whole, and then it counts whether it is too large. -/
theorem readStoreFile_of_ok (read : machine.read (fileName text) = .ok bytes) :
    readStoreFile machine text =
      if maxStoreSize < bytes.size then .error (.tooLarge maxStoreSize) else .ok bytes := by
  rw [readStoreFile, read]
  by_cases large : maxStoreSize < bytes.size
  · rw [if_pos large]
    exact if_pos large
  · rw [if_neg large]
    exact if_neg large

theorem readStoreFile_of_error {failure : IoFailure}
    (read : machine.read (fileName text) = .error failure) :
    readStoreFile machine text = .error (.io failure) := by
  rw [readStoreFile, read]
  rfl

theorem readStoreFile_eq_ok :
    readStoreFile machine text = .ok bytes ↔
      machine.read (fileName text) = .ok bytes ∧ bytes.size ≤ maxStoreSize := by
  constructor
  · intro h
    cases read : machine.read (fileName text) with
    | error failure => cases h.symm.trans (readStoreFile_of_error read)
    | ok contents =>
        rw [readStoreFile_of_ok read] at h
        split at h
        · cases h
        · next small =>
            cases h
            exact ⟨rfl, Nat.not_lt.mp small⟩
  · rintro ⟨read, small⟩
    rw [readStoreFile_of_ok read, if_neg (Nat.not_lt.mpr small)]

end

namespace Loader

theorem isLocation_iff {text : String} :
    isLocation text = true ↔ ∃ c ∈ text.toList, Text.isBlank c = false := by
  rw [isLocation, Bool.not_eq_true', ← Bool.not_eq_true, Text.allBlank_iff]
  simp

theorem filter_isLocation_eq_some {location : Option String} {text : String} :
    location.filter isLocation = some text ↔ Located location text := by
  rw [Option.filter_eq_some_iff, isLocation_iff]
  constructor
  · rintro ⟨given, visible⟩
    exact ⟨given, visible⟩
  · rintro ⟨given, visible⟩
    exact ⟨given, visible⟩

theorem any_isLocation {location : Option String} :
    location.any isLocation = true ↔ ∃ text, Located location text := by
  simp only [← filter_isLocation_eq_some]
  cases location with
  | none => simp
  | some text => cases said : isLocation text <;> simp [said]

end Loader

end TlsListener
