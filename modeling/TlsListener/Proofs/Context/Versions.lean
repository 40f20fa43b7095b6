import Mathlib.Data.List.Sublists
import TlsListener.Context.Versions
import TlsListener.Proofs.Traced

/-!
# What an engine negotiates in a range

An engine is told the versions of a range by three settings: the oldest version, the newest, and an
option bit for each version in between that is left out. It negotiates what lies between the two
numbers and has its bit clear. The bits are set one after the other on top of those that are there
already, so the rule for one more bit carries over to all of them.

The main statement is that a range made of some versions is negotiated as exactly these versions.
-/

namespace TlsListener

namespace Version

theorem le_iff_wireNumber_le {v w : Version} : v ≤ w ↔ v.wireNumber ≤ w.wireNumber := by
  cases v <;> cases w <;> decide

/-- No two versions share their bit. -/
theorem disableOption_and_eq_zero {v w : Version} :
    v.disableOption &&& w.disableOption = 0 ↔ w ≠ v := by
  cases v <;> cases w <;> decide

/-- Versions in order, each of them once, are told by which versions they are. -/
theorem eq_filter_of_sublist {versions : List Version} (ordered : versions.Sublist all) :
    versions = all.filter versions.contains := by
  have every : ∀ versions ∈ all.sublists, versions = all.filter versions.contains := by decide
  exact every versions (List.mem_sublists.mpr ordered)

end Version

namespace VersionRange

/-- The option bits after the versions in the gaps of a range have been left out as well. -/
def options (range : VersionRange) (initial : Nat) : Nat :=
  range.gaps.foldl (fun bits version => bits ||| version.disableOption) initial

/-- An engine with the given option bits negotiates a version once it has been told the range. -/
def Negotiates (range : VersionRange) (initial : Nat) (version : Version) : Prop :=
  range.oldest.wireNumber ≤ version.wireNumber ∧
    version.wireNumber ≤ range.newest.wireNumber ∧
    range.options initial &&& version.disableOption = 0

/-- The bit of a version is clear after some versions have been left out if it was clear before and
the version is not one of them. -/
theorem foldl_disableOption_and_eq_zero {gaps : List Version} {bits : Nat} {version : Version} :
    gaps.foldl (fun bits gap => bits ||| gap.disableOption) bits &&& version.disableOption = 0 ↔
      bits &&& version.disableOption = 0 ∧ version ∉ gaps := by
  induction gaps generalizing bits with
  | nil => simp
  | cons gap gaps ih =>
      have one : (bits ||| gap.disableOption) &&& version.disableOption = 0 ↔
          bits &&& version.disableOption = 0 ∧ version ≠ gap := by
        rw [Nat.and_or_distrib_right, Nat.or_eq_zero_iff, Version.disableOption_and_eq_zero]
      rw [List.foldl_cons, ih, one, List.mem_cons, not_or, and_assoc]

theorem mem_versions {range : VersionRange} {version : Version} :
    version ∈ range.versions ↔
      range.oldest ≤ version ∧ version ≤ range.newest ∧ version ∉ range.gaps := by
  simp [versions, Version.mem_all, and_assoc]

/-- Where an engine begins with the bit of a version clear, it negotiates the version if the range
holds it. -/
theorem negotiates_iff {range : VersionRange} {initial : Nat} {version : Version}
    (clear : initial &&& version.disableOption = 0) :
    range.Negotiates initial version ↔ version ∈ range.versions := by
  rw [Negotiates, options, foldl_disableOption_and_eq_zero, mem_versions,
    Version.le_iff_wireNumber_le, Version.le_iff_wireNumber_le]
  simp [clear]

/-- A range that is made of some versions in order holds them and no others. -/
theorem versions_of_ofVersions {versions : List Version} {range : VersionRange}
    (ordered : versions.Sublist Version.all) (h : ofVersions versions = .ok range) :
    range.versions = versions := by
  rw [ofVersions, Outcome.ofOption_eq_ok] at h
  rw [Version.eq_filter_of_sublist ordered] at h ⊢
  exact versions_ofVersions? h

end VersionRange

/-- The names of a set denote versions exactly if each of them does and there is one at all. -/
theorem enabledVersions_eq_ok {names : NameSet} {enabled : List Version} :
    enabledVersions names = .ok enabled ↔
      (∀ name ∈ names.names, (Version.parse? name).isSome) ∧
        versionsOf names ≠ [] ∧ enabled = versionsOf names := by
  rw [enabledVersions]
  split
  · next name found =>
      have least := List.find?_some found
      have member := List.mem_of_find?_eq_some found
      constructor
      · intro h
        cases h
      · rintro ⟨parse, -, -⟩
        have := parse name member
        simp_all
  · next none =>
      have parse : ∀ name ∈ names.names, (Version.parse? name).isSome := by
        simpa [Option.isSome_iff_ne_none] using none
      split
      · next empty =>
          constructor
          · intro h
            cases h
          · rintro ⟨-, nonempty, -⟩
            exact absurd (List.isEmpty_iff.mp empty) nonempty
      · next nonempty =>
          constructor
          · rintro ⟨⟩
            exact ⟨parse, fun empty => nonempty (List.isEmpty_iff.mpr empty), rfl⟩
          · rintro ⟨-, -, rfl⟩
            rfl

theorem enabledVersions_ne_cutShort {names : NameSet} :
    enabledVersions names ≠ .error .cutShort := by
  rw [enabledVersions]
  split
  · exact Outcome.fail_ne_cutShort
  · split
    · exact Outcome.fail_ne_cutShort
    · exact fun h => nomatch h

end TlsListener
