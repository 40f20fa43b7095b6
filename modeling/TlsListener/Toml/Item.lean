import TlsListener.Number.Binary64

/-!
# TOML documents as data

A document is a table: keys with items, in the order in which they were first written. Every item
remembers the stretch of the text it came from, so that a complaint about it can point there. Tables
remember how they came into being, because that decides how they may be extended.
-/

namespace TlsListener.Toml

/-- A stretch of the text, in bytes: the first of it and the first after it. -/
structure Span where
  start : Nat
  stop : Nat
  deriving DecidableEq, Repr, Inhabited

/-- A key with the place where it was written. -/
structure Key where
  name : String
  span : Span
  deriving DecidableEq, Repr, Inhabited

/-- The values that hold no others. Dates and times are told apart from all else but not from one
another. -/
inductive Scalar where
  | text (value : String)
  | integer (value : Int)
  | number (value : Binary64)
  | boolean (value : Bool)
  | moment
  deriving DecidableEq, Repr, Inhabited

/-- How a table came into being. -/
inductive TableKind where
  /-- By a header of its own, or as the document itself. -/
  | explicit
  /-- By the header of a table inside it. -/
  | implied
  /-- By a dotted key. -/
  | dotted
  /-- Between braces. -/
  | inlined
  /-- By a dotted key between braces. -/
  | inlinedDotted
  deriving DecidableEq, Repr, Inhabited

/-- A value or table together with its place in the text. Tables made by dotted keys, or by the
headers of tables inside them, have no place of their own. -/
inductive Item where
  | scalar (value : Scalar) (span : Span)
  | array (items : List Item) (span : Span)
  | table (kind : TableKind) (entries : List (Key × Item)) (span : Option Span)
  /-- The tables of equal `[[..]]` headers. -/
  | tables (elements : List Item) (span : Option Span)
  deriving Inhabited

namespace Item

/-- The place of an item in the text. -/
def span? : Item → Option Span
  | scalar _ span => some span
  | array _ span => some span
  | table _ _ span => span
  | tables _ span => span

/-- What an item is called when it stands where a table is wanted. -/
def typeName : Item → String
  | scalar (.text _) _ => "string"
  | scalar (.integer _) _ => "integer"
  | scalar (.number _) _ => "float"
  | scalar (.boolean _) _ => "boolean"
  | scalar .moment _ => "datetime"
  | array _ _ => "array"
  | table .inlined _ _ => "inline table"
  | table .inlinedDotted _ _ => "inline table"
  | table _ _ _ => "table"
  | tables _ _ => "array of tables"

/-- The document before anything is written into it. -/
def empty : Item := table .explicit [] none

end Item

namespace TableKind

/-- Tables made by dotted keys. -/
def isDotted : TableKind → Bool
  | dotted | inlinedDotted => true
  | _ => false

/-- The tables that the header of a table inside them may extend. -/
def admitsHeader : TableKind → Bool
  | explicit | implied | dotted => true
  | _ => false

/-- The tables that a dotted key may extend. -/
def admitsDotted : TableKind → Bool
  | implied | dotted => true
  | _ => false

/-- The tables that a dotted key between braces may extend. -/
def admitsInlineDotted : TableKind → Bool
  | inlinedDotted => true
  | _ => false

end TableKind

/-- The entries of a table, in order. -/
abbrev Entries := List (Key × Item)

namespace Entries

/-- The item under a name. -/
def find? (entries : Entries) (name : String) : Option Item :=
  (List.find? (fun e => e.1.name == name) entries).map Prod.snd

/-- Put another item under a name that is present; its key and its place among the keys stay. -/
def replace (entries : Entries) (name : String) (item : Item) : Entries :=
  List.map (fun e => if e.1.name == name then (e.1, item) else e) entries

/-- Take a name out. -/
def remove (entries : Entries) (name : String) : Entries :=
  List.filter (fun e => e.1.name != name) entries

end Entries

/-- A change to an item that may refuse it, and may tell something about it. -/
abbrev Edit := StateT Item Option

namespace Edit

/-- Follow a path of keys from a table and change the table at its end. Missing tables on the way
are made with the kind `made`, and only tables whose kind is admitted are entered; of equal
`[[..]]` tables the last is entered. -/
def within (made : TableKind) (admits : TableKind → Bool) (edit : Edit α) : List Key → Edit α
  | [], target => edit target
  | key :: path, .table kind entries span => do
    match Entries.find? entries key.name with
    | none =>
      let (told, child) ← within made admits edit path (.table made [] none)
      some (told, .table kind (entries ++ [(key, child)]) span)
    | some (.table childKind childEntries childSpan) =>
      if admits childKind then
        let (told, child) ← within made admits edit path (.table childKind childEntries childSpan)
        some (told, .table kind (Entries.replace entries key.name child) span)
      else none
    | some (.tables elements arraySpan) =>
      let (told, last) ← within made admits edit path (← elements.getLast?)
      let child := .tables (elements.dropLast ++ [last]) arraySpan
      some (told, .table kind (Entries.replace entries key.name child) span)
    | some _ => none
  | _ :: _, _ => none

/-- Put an entry at the end of a table. -/
def append (key : Key) (item : Item) : Edit Unit
  | .table kind entries span => some ((), .table kind (entries ++ [(key, item)]) span)
  | _ => none

/-- Add an entry to a table that lacks its name. A table takes an entry through a dotted key only if
dotted keys made it, and otherwise only if they did not. -/
def addEntry (throughDots : Bool) (key : Key) (item : Item) : Edit Unit
  | .table kind entries span =>
    if kind.isDotted != throughDots then none
    else match Entries.find? entries key.name with
      | some _ => none
      | none => append key item (.table kind entries span)
  | _ => none

end Edit

end TlsListener.Toml
