/-!
# Sets of names

A set of names is the list of its members in ascending order of their characters. Equal sets are
equal lists, so neither the order in which names were given nor how often each was given plays a
part afterwards.
-/

namespace TlsListener

namespace NameSet

/-- Put a name into an ascending list that may hold it. -/
def insertSorted (name : String) : List String → List String
  | [] => [name]
  | other :: rest =>
    if name < other then name :: other :: rest
    else if name = other then other :: rest
    else other :: insertSorted name rest

theorem mem_insertSorted {name other : String} {names : List String} :
    other ∈ insertSorted name names ↔ other = name ∨ other ∈ names := by
  induction names with
  | nil => simp [insertSorted]
  | cons first rest ih =>
    rw [insertSorted]
    split
    · simp
    · split
      · next h => simp [h]
      · simp only [List.mem_cons, ih]
        constructor <;> (intro h; rcases h with h | h | h <;> simp [h])

theorem sorted_insertSorted {name : String} {names : List String}
    (h : names.Pairwise (· < ·)) : (insertSorted name names).Pairwise (· < ·) := by
  induction names with
  | nil => simp [insertSorted]
  | cons first rest ih =>
    rw [List.pairwise_cons] at h
    rw [insertSorted]
    split
    · next hlt =>
      refine List.pairwise_cons.2 ⟨fun other hother => ?_, List.pairwise_cons.2 h⟩
      rcases List.mem_cons.1 hother with rfl | hmem
      · exact hlt
      · exact String.lt_trans hlt (h.1 other hmem)
    · next hnot =>
      split
      · exact List.pairwise_cons.2 h
      · next hne =>
        refine List.pairwise_cons.2 ⟨fun other hother => ?_, ih h.2⟩
        rcases mem_insertSorted.1 hother with rfl | hmem
        · exact Decidable.byContradiction fun hgt =>
            hne (String.le_antisymm (String.not_lt.1 hgt) (String.not_lt.1 hnot))
        · exact h.1 other hmem

end NameSet

/-- A set of names. -/
structure NameSet where
  names : List String
  sorted : names.Pairwise (· < ·)
  deriving DecidableEq

namespace NameSet

/-- The set without members. -/
def empty : NameSet := ⟨[], List.Pairwise.nil⟩

/-- A set with one more member. -/
def insert (set : NameSet) (name : String) : NameSet :=
  ⟨insertSorted name set.names, sorted_insertSorted set.sorted⟩

/-- The set of the names in a list. -/
def ofList (names : List String) : NameSet :=
  names.foldl insert empty

instance : Membership String NameSet := ⟨fun set name => name ∈ set.names⟩

@[simp] theorem mem_insert {set : NameSet} {name other : String} :
    other ∈ set.insert name ↔ other = name ∨ other ∈ set :=
  mem_insertSorted

@[simp] theorem not_mem_empty {name : String} : name ∉ empty :=
  List.not_mem_nil

theorem mem_foldl_insert {name : String} {names : List String} {set : NameSet} :
    name ∈ names.foldl insert set ↔ name ∈ names ∨ name ∈ set := by
  induction names generalizing set with
  | nil => simp
  | cons first rest ih =>
    rw [List.foldl_cons, ih, mem_insert, List.mem_cons]
    constructor
    · rintro (h | h | h) <;> simp [h]
    · rintro ((h | h) | h) <;> simp [h]

/-- A set holds the names of the list that it was made of, and no others. -/
@[simp] theorem mem_ofList {name : String} {names : List String} :
    name ∈ ofList names ↔ name ∈ names := by
  simp [ofList, mem_foldl_insert]

end NameSet

end TlsListener
