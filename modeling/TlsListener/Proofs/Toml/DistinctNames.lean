import Mathlib.Data.List.Nodup
import TlsListener.Toml.Document

/-!
# No name stands twice in a document

Whatever is put into a table is put under a name that the table lacks, in place of what stood under
the same name, or into a table below it. The one step that does not look whether the name is there
is putting the table of a header into the document. That table was taken out of the document when
its header was read, and nothing but the table itself has changed since.

So the statements of a text, carried out one after the other, never leave two entries of one name.
-/

namespace TlsListener.Toml

variable {α : Type} {key : Key} {path : List Key} {item document document' : Item} {told : α}
  {name : String} {entries : Entries} {draft draft' : Draft} {edit : Key → Edit α}

/-- The names in a table, in order. -/
def Item.names : Item → List String
  | .table _ entries _ => entries.map fun entry => entry.1.name
  | _ => []

/-- A table has the names that it had and at most one more. -/
inductive Grows (document document' : Item) : Prop where
  | same : document'.names = document.names → Grows document document'
  | more {name : String} : name ∉ document.names → document'.names = document.names ++ [name] →
      Grows document document'

theorem Grows.nodup (grows : Grows document document') (distinct : document.names.Nodup) :
    document'.names.Nodup := by
  cases grows with
  | same same => rwa [same]
  | more fresh more =>
      rw [more, ← List.concat_eq_append]
      exact List.Nodup.concat fresh distinct

namespace Entries

theorem notMem_names {kind : TableKind} {span : Option Span} (absent : entries.find? name = none) :
    name ∉ (Item.table kind entries span).names := by
  intro present
  obtain ⟨entry, member, same⟩ := List.mem_map.mp present
  have other : ∀ entry ∈ entries, entry.1.name ≠ name := by simpa [find?] using absent
  exact other entry member same

theorem names_replace {kind kind' : TableKind} {span span' : Option Span} :
    (Item.table kind (entries.replace name item) span).names =
      (Item.table kind' entries span').names := by
  rw [Item.names, Item.names, replace, List.map_map]
  refine List.map_congr_left fun entry _ => ?_
  dsimp only [Function.comp_apply]
  split <;> rfl

end Entries

namespace Edit

theorem grows_append (fresh : key.name ∉ document.names)
    (done : append key item document = some ((), document')) : Grows document document' := by
  cases document with
  | table kind entries span =>
      cases done
      exact .more fresh List.map_append
  | _ => cases done

theorem grows_addEntry {throughDots : Bool}
    (done : addEntry throughDots key item document = some ((), document')) :
    Grows document document' := by
  cases document with
  | table kind entries span =>
      unfold addEntry at done
      dsimp only at done
      split at done
      · cases done
      · split at done
        · cases done
        · next absent => exact grows_append (Entries.notMem_names absent) done
  | _ => cases done

/-- A change below a table. -/
theorem grows_within {made : TableKind} {admits : TableKind → Bool} {edit : Edit α}
    (done : within made admits edit (key :: path) document = some (told, document')) :
    Grows document document' := by
  cases document with
  | table kind entries span =>
      rw [within] at done
      split at done
      · next absent =>
          obtain ⟨⟨_, child⟩, -, done⟩ := Option.bind_eq_some_iff.mp done
          cases done
          exact .more (Entries.notMem_names absent) List.map_append
      · split at done
        · obtain ⟨⟨_, child⟩, -, done⟩ := Option.bind_eq_some_iff.mp done
          cases done
          exact .same Entries.names_replace
        · cases done
      · obtain ⟨last, -, done⟩ := Option.bind_eq_some_iff.mp done
        obtain ⟨⟨_, child⟩, -, done⟩ := Option.bind_eq_some_iff.mp done
        cases done
        exact .same Entries.names_replace
      · cases done
  | _ => cases done

end Edit

namespace Draft

theorem grows_pushElement {element : Item}
    (done : pushElement key element document = some ((), document')) :
    Grows document document' := by
  cases document with
  | table kind entries span =>
      unfold pushElement at done
      dsimp only at done
      split at done
      · cases done
        exact .same Entries.names_replace
      · cases done
  | _ => cases done

theorem grows_ensureElements (done : ensureElements key document = some ((), document')) :
    Grows document document' := by
  cases document with
  | table kind entries span =>
      unfold ensureElements at done
      dsimp only at done
      split at done
      · next absent => exact Edit.grows_append (Entries.notMem_names absent) done
      · cases done
        exact .same rfl
      · cases done
  | _ => cases done

/-- Taking a table out leaves the other names, and not its own. -/
theorem names_takeImplied {inner : Entries}
    (done : takeImplied key document = some (inner, document')) :
    document'.names.Sublist document.names ∧ key.name ∉ document'.names := by
  cases document with
  | table kind entries span =>
      unfold takeImplied at done
      dsimp only at done
      split at done
      · next absent =>
          cases done
          exact ⟨.refl _, Entries.notMem_names absent⟩
      · cases done
        refine ⟨List.filter_sublist.map _, fun present => ?_⟩
        obtain ⟨entry, member, same⟩ := List.mem_map.mp present
        have other : entry.1.name ≠ key.name := by simpa using (List.mem_filter.mp member).2
        exact other same
      · cases done
  | _ => cases done

/-- A change at a table that a path leads to is a change of the document itself or below it. -/
theorem atParent_cases (done : atParent path edit document = some (told, document')) :
    (∃ key, path = [key] ∧ edit key document = some (told, document')) ∨
      1 < path.length ∧ Grows document document' := by
  obtain ⟨last, found, done⟩ := Option.bind_eq_some_iff.mp done
  match path with
  | [] => cases found
  | [key] =>
      cases found
      exact .inl ⟨key, rfl, done⟩
  | first :: second :: rest => exact .inr ⟨by simp, Edit.grows_within done⟩

/-- No name stands twice in what is complete or in the document's own table, and the table that is
being read is not in the document yet. -/
structure IsDistinct (draft : Draft) : Prop where
  complete : draft.complete.names.Nodup
  current : draft.path = [] → draft.current.names.Nodup
  fresh : ∀ {key}, draft.path = [key] → draft.isElement = false →
    key.name ∉ draft.complete.names

theorem IsDistinct.close (distinct : draft.IsDistinct) (closed : draft.close = some document) :
    document.names.Nodup := by
  unfold Draft.close at closed
  split at closed
  · next none =>
      cases closed
      exact distinct.current (List.isEmpty_iff.mp none)
  · obtain ⟨⟨_, _⟩, done, rfl⟩ := Option.map_eq_some_iff.mp closed
    obtain ⟨key, single, done⟩ | ⟨-, grows⟩ := atParent_cases done
    · split at done
      · exact (grows_pushElement done).nodup distinct.complete
      · next table =>
          have fresh : key.name ∉ draft.complete.names :=
            distinct.fresh single (Bool.not_eq_true _ ▸ table)
          exact (Edit.grows_append fresh done).nodup distinct.complete
    · exact grows.nodup distinct.complete

theorem grows_add {keys : List Key} (done : add keys item document = some ((), document')) :
    Grows document document' := by
  cases document with
  | table kind entries span =>
      unfold add at done
      dsimp only at done
      obtain ⟨key, -, done⟩ := Option.bind_eq_some_iff.mp done
      have grows : Grows (.table kind entries (extend span item.span?)) document' := by
        cases path : keys.dropLast with
        | nil =>
            rw [path] at done
            exact Edit.grows_addEntry done
        | cons first rest =>
            rw [path] at done
            exact Edit.grows_within done
      cases grows with
      | same same => exact .same same
      | more fresh more => exact .more fresh more
  | _ => cases done

/-- Every statement leaves the names distinct. -/
theorem IsDistinct.apply {statement : Statement} (distinct : draft.IsDistinct)
    (applied : draft.apply statement = some draft') : draft'.IsDistinct := by
  cases statement with
  | header path span =>
      obtain ⟨document, closed, applied⟩ := Option.bind_eq_some_iff.mp applied
      obtain ⟨⟨inner, complete⟩, taken, applied⟩ := Option.bind_eq_some_iff.mp applied
      cases applied
      have before : document.names.Nodup := distinct.close closed
      obtain ⟨key, rfl, taken⟩ | ⟨several, grows⟩ := atParent_cases taken
      · obtain ⟨fewer, absent⟩ := names_takeImplied taken
        refine ⟨before.sublist fewer, nofun, fun single _ => ?_⟩
        cases single
        exact absent
      · refine ⟨grows.nodup before, fun own => ?_, fun single _ => ?_⟩
        · have own : path = [] := own
          simp [own] at several
        · have single : path = [_] := single
          simp [single] at several
  | arrayHeader path span =>
      obtain ⟨document, closed, applied⟩ := Option.bind_eq_some_iff.mp applied
      obtain ⟨⟨_, complete⟩, ensured, applied⟩ := Option.bind_eq_some_iff.mp applied
      cases applied
      have before : document.names.Nodup := distinct.close closed
      obtain ⟨key, rfl, ensured⟩ | ⟨several, grows⟩ := atParent_cases ensured
      · exact ⟨(grows_ensureElements ensured).nodup before, nofun, nofun⟩
      · refine ⟨grows.nodup before, fun own => ?_, nofun⟩
        have own : path = [] := own
        simp [own] at several
  | entry keys value =>
      obtain ⟨⟨_, current⟩, added, applied⟩ := Option.bind_eq_some_iff.mp applied
      cases applied
      exact ⟨distinct.complete, fun own => (grows_add added).nodup (distinct.current own),
        distinct.fresh⟩

theorem isDistinct_empty : empty.IsDistinct :=
  ⟨.nil, fun _ => .nil, nofun⟩

theorem IsDistinct.foldlM {statements : List Statement} (distinct : draft.IsDistinct)
    (carried : statements.foldlM Draft.apply draft = some draft') : draft'.IsDistinct := by
  induction statements generalizing draft with
  | nil =>
      cases carried
      exact distinct
  | cons statement statements ih =>
      obtain ⟨next, applied, carried⟩ := Option.bind_eq_some_iff.mp carried
      exact ih (distinct.apply applied) carried

end Draft

/-- No two entries of a document have the same name. -/
theorem nodup_of_document? {text : String} (found : document? text = some entries) :
    (entries.map fun entry => entry.1.name).Nodup := by
  obtain ⟨⟨statements, _⟩, -, assembled⟩ := Option.bind_eq_some_iff.mp found
  obtain ⟨draft, carried, assembled⟩ := Option.bind_eq_some_iff.mp assembled
  obtain ⟨document, closed, assembled⟩ := Option.bind_eq_some_iff.mp assembled
  have distinct : document.names.Nodup := (Draft.isDistinct_empty.foldlM carried).close closed
  cases document with
  | table kind entries' span =>
      cases assembled
      exact distinct
  | _ => cases assembled

end TlsListener.Toml
