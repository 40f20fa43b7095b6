import TlsListener.Proofs.Context.Versions
import TlsListener.Proofs.Text.ByteOrder
import TlsListener.Proofs.Text.UpperCasing

/-!
# Names and the versions that they denote

A name denotes a version if it is one of the version's accepted names once it is trimmed and in
upper case, whatever upper case that is.

Of a set of names nothing counts but the versions that they denote, as long as each denotes one. If
any does not, the set is refused over the least of those, and as the names of a set stand in
ascending order this is the first that is come to.
-/

namespace TlsListener

namespace Version

variable {s name : String} {v w : Version}

/-- No two versions share an accepted name. -/
theorem eq_of_mem_acceptedNames (hv : name ∈ v.acceptedNames) (hw : name ∈ w.acceptedNames) :
    v = w := by
  have every : ∀ v ∈ all, ∀ w ∈ all, ∀ name ∈ v.acceptedNames, name ∈ w.acceptedNames → v = w := by
    decide
  exact every v (mem_all v) w (mem_all w) name hv hw

theorem isAscii_of_mem_acceptedNames (h : name ∈ v.acceptedNames) : Text.IsAscii name.toList := by
  have every : ∀ v ∈ all, ∀ name ∈ v.acceptedNames,
      (name.toList.all fun c => c.toNat < 128) = true := by
    decide
  intro c member
  simpa using List.all_eq_true.mp (every v (mem_all v) name h) c member

theorem parse?_eq_some : parse? s = some v ↔ Text.canonical s ∈ v.acceptedNames := by
  constructor
  · intro found
    simpa using List.find?_some found
  · intro accepted
    have some : (parse? s).isSome := by
      rw [parse?, List.find?_isSome]
      exact ⟨v, mem_all v, by simpa using accepted⟩
    obtain ⟨w, found⟩ := Option.isSome_iff_exists.mp some
    have accepted' : Text.canonical s ∈ w.acceptedNames := by simpa using List.find?_some found
    rw [found, eq_of_mem_acceptedNames accepted accepted']

/-- A text denotes a version exactly if it is an accepted name after trimming and in upper case. -/
theorem parse?_eq_some_iff_upper {full : Char → List Char} (casing : Text.IsUpperCasing full) :
    parse? s = some v ↔
      String.ofList ((Text.trim s).toList.flatMap full) ∈ v.acceptedNames := by
  have same {name : String} (accepted : name ∈ v.acceptedNames) :
      Text.trimmedUpper full s = name ↔ Text.canonical s = name :=
    casing.trimmedUpper_eq_iff (isAscii_of_mem_acceptedNames accepted)
  rw [parse?_eq_some]
  constructor
  · intro accepted
    have upper : Text.trimmedUpper full s = Text.canonical s := (same accepted).mpr rfl
    rw [← upper] at accepted
    exact accepted
  · intro accepted
    have upper : Text.canonical s = Text.trimmedUpper full s := (same accepted).mp rfl
    rw [upper]
    exact accepted

end Version

namespace NameSet

variable {names other : NameSet} {name : String}

/-- Some name of a set denotes a version. -/
def Denotes (names : NameSet) (version : Version) : Prop :=
  ∃ name ∈ names, Version.parse? name = some version

/-- All names of two sets denote versions, and the same ones, however they are spelled. -/
structure DenoteAlike (names other : NameSet) : Prop where
  left : ∀ name ∈ names, (Version.parse? name).isSome
  right : ∀ name ∈ other, (Version.parse? name).isSome
  same : ∀ version, names.Denotes version ↔ other.Denotes version

/-- A name is the least of those in a set that denote no version, byte by byte. -/
structure LeastUnknown (names : NameSet) (name : String) : Prop where
  mem : name ∈ names
  unknown : Version.parse? name = none
  least : ∀ other ∈ names, Version.parse? other = none → other ≠ name →
    Text.utf8 name < Text.utf8 other

/-- Some name that denotes no version is the least. -/
theorem exists_leastUnknown (unknown : ∃ name ∈ names, Version.parse? name = none) :
    ∃ name, names.LeastUnknown name ∧
      enabledVersions names = .error (.failure (.invalidVersion name)) := by
  have some : (names.names.find? fun name => (Version.parse? name).isNone).isSome := by
    rw [List.find?_isSome]
    obtain ⟨name, member, unknown⟩ := unknown
    exact ⟨name, member, by simpa using unknown⟩
  obtain ⟨name, found⟩ := Option.isSome_iff_exists.mp some
  have refused : enabledVersions names = .error (.failure (.invalidVersion name)) := by
    rw [enabledVersions, found]
    rfl
  obtain ⟨unknown, before, after, split, known⟩ := List.find?_eq_some_iff_append.mp found
  refine ⟨name, ⟨?_, by simpa using unknown, ?_⟩, refused⟩
  · exact List.mem_of_find?_eq_some found
  · intro other member unknown' different
    have sorted := names.sorted
    have member : other ∈ names.names := member
    rw [split] at sorted member
    -- The names before it all denote versions.
    rcases List.mem_append.mp member with earlier | later
    · have := known other earlier
      simp [unknown'] at this
    · rcases List.mem_cons.mp later with same | later
      · exact absurd same different
      · have ascending := (List.pairwise_append.mp sorted).2.1
        exact Text.utf8_lt_of_lt ((List.pairwise_cons.mp ascending).1 other later)

theorem LeastUnknown.unique {other : String} (h : names.LeastUnknown name)
    (h' : names.LeastUnknown other) : name = other := by
  by_contra different
  have less : Text.utf8 name < Text.utf8 other :=
    h.least other h'.mem h'.unknown fun same => different same.symm
  have more : Text.utf8 other < Text.utf8 name := h'.least name h.mem h.unknown different
  exact List.lt_asymm less more

/-- Names that denote the same versions enable the same versions. -/
theorem DenoteAlike.enabledVersions_eq (h : DenoteAlike names other) :
    enabledVersions names = enabledVersions other := by
  have versions : versionsOf names = versionsOf other := by
    refine List.filter_congr fun version _ => ?_
    refine Bool.eq_iff_iff.mpr ?_
    simp only [List.any_eq_true, beq_iff_eq]
    exact h.same version
  have known (set : NameSet) (parse : ∀ name ∈ set, (Version.parse? name).isSome) :
      (set.names.find? fun name => (Version.parse? name).isNone) = none := by
    rw [List.find?_eq_none]
    intro name member
    simpa using Option.isSome_iff_ne_none.mp (parse name member)
  rw [enabledVersions, enabledVersions, known names h.left, known other h.right, versions]

/-- Lists of names are compared as the sets that they make. -/
theorem denoteAlike_ofList {names other : List String}
    (left : ∀ name ∈ names, (Version.parse? name).isSome)
    (right : ∀ name ∈ other, (Version.parse? name).isSome)
    (same : ∀ version, (∃ name ∈ names, Version.parse? name = some version) ↔
      ∃ name ∈ other, Version.parse? name = some version) :
    DenoteAlike (ofList names) (ofList other) := by
  refine ⟨fun name member => ?_, fun name member => ?_, fun version => ?_⟩
  · exact left name (mem_ofList.mp member)
  · exact right name (mem_ofList.mp member)
  · simpa only [Denotes, mem_ofList] using same version

end NameSet

end TlsListener
