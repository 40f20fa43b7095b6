import TlsListener.Failure.Basic
import TlsListener.Text.NameSet

/-!
# The versions that a context negotiates

The enabled versions are given by name, each under any of its names. A context restricts itself to
them by the oldest, the newest, and the versions in between that it leaves out.
-/

namespace TlsListener

/-- The versions that the names of a set denote, oldest first. -/
def versionsOf (names : NameSet) : List Version :=
  Version.all.filter fun version => names.names.any fun name => Version.parse? name == some version

/-- The versions that the names of a set denote. The least name that denotes none is refused, and so
is the set without names. -/
def enabledVersions (names : NameSet) : Outcome Failure (List Version) :=
  match names.names.find? fun name => (Version.parse? name).isNone with
  | some name => .fail (.invalidVersion name)
  | none =>
    if (versionsOf names).isEmpty then .fail (.startup .noVersion)
    else .ok (versionsOf names)

theorem mem_versionsOf {names : NameSet} {version : Version} :
    version ∈ versionsOf names ↔ ∃ name ∈ names.names, Version.parse? name = some version := by
  simp [versionsOf, Version.mem_all]

/-- The versions that a context negotiates. -/
structure VersionRange where
  oldest : Version
  newest : Version
  /-- The versions in between that are left out. -/
  gaps : List Version
  deriving DecidableEq

namespace VersionRange

/-- The range that holds the given versions, which are in order, and no others. -/
def ofVersions? (versions : List Version) : Option VersionRange := do
  let oldest ← versions.head?
  let newest ← versions.getLast?
  return {
    oldest, newest
    gaps := Version.all.filter fun version =>
      oldest < version && version < newest && !versions.contains version }

/-- The versions of a range, oldest first. -/
def versions (range : VersionRange) : List Version :=
  Version.all.filter fun version =>
    range.oldest ≤ version && version ≤ range.newest && !range.gaps.contains version

/-- The range of some versions has these versions and no others. -/
theorem versions_ofVersions? {p : Version → Bool} {range : VersionRange}
    (h : ofVersions? (Version.all.filter p) = some range) :
    range.versions = Version.all.filter p := by
  revert h
  cases h0 : p .tls10 <;> cases h1 : p .tls11 <;> cases h2 : p .tls12 <;> cases h3 : p .tls13 <;>
    simp only [Version.all, List.filter, h0, h1, h2, h3] <;> rintro ⟨⟩ <;> decide

/-- The range that holds the given versions, of which there have to be some. -/
def ofVersions (versions : List Version) : Outcome Failure VersionRange :=
  .ofOption (.startup .noVersion) (ofVersions? versions)

end VersionRange

end TlsListener
