import TlsListener.Toml.Value

/-!
# From the lines of a document to its tables

A document is read as a list of statements, one a line: headers of tables, headers of tables that
are elements of an array, and entries. Then the statements are carried out in order. The table whose
header was read last is kept apart, as the draft, and is put into the document when the next header
or the end is reached; so a table stands among its neighbours where its last line stands.
-/

namespace TlsListener.Toml

/-- One line of a document that is not blank. The path of a header or an entry is never empty. -/
inductive Statement where
  | header (path : List Key) (span : Span)
  | arrayHeader (path : List Key) (span : Span)
  | entry (keys : List Key) (value : Item)
  deriving Inhabited

namespace Reader

/-- A header: a dotted key between brackets. -/
def headerLine : Reader Statement :=
  (do
    let (path, start, stop) ← spanned do
      literal ['[', '[']
      let path ← dottedKey
      literal [']', ']']
      return path
    return .arrayHeader path ⟨start, stop⟩) <|>
  (do
    let (path, start, stop) ← spanned do
      char '['
      let path ← dottedKey
      char ']'
      return path
    return .header path ⟨start, stop⟩)

/-- An entry: a dotted key, an equals sign and a value. -/
def entryLine : Reader Statement := do
  let keys ← dottedKey
  char '='
  spaces
  return .entry keys (← value maxDepth)

/-- One line: a statement, a comment, or nothing. -/
def line : Reader (Option Statement) := do
  let statement ←
    (do lineEnd; pure none) <|>
    (do comment; (lineEnd <|> finish); pure none) <|>
    (do
      let statement ← headerLine <|> entryLine
      restOfLine
      pure (some statement))
  spaces
  return statement

/-- All lines of a document, which may begin with a byte order mark. -/
def document : Reader (List Statement) := do
  let _ ← optional (char '\uFEFF')
  spaces
  let statements ← many line
  finish
  return statements.filterMap id

end Reader

/-- A document under assembly: what is complete, the table whose lines are being read, its path, and
whether it is an element of an array. -/
structure Draft where
  complete : Item
  current : Item
  path : List Key
  isElement : Bool

namespace Draft

/-- Nothing read yet: the draft is the document's own table. -/
def empty : Draft := ⟨.empty, .empty, [], false⟩

/-- The place from the beginning of the first of several tables to the end of the last. -/
def spanOfElements (elements : List Item) : Option Span := do
  let first ← (← elements.head?).span?
  let last ← (← elements.getLast?).span?
  return ⟨first.start, last.stop⟩

/-- Append an element to the array of tables under a key. -/
def pushElement (key : Key) (element : Item) : Edit Unit
  | .table kind entries span =>
    match Entries.find? entries key.name with
    | some (.tables elements _) =>
      let elements := elements ++ [element]
      let array := .tables elements (spanOfElements elements)
      some ((), .table kind (Entries.replace entries key.name array) span)
    | _ => none
  | _ => none

/-- Make sure that an array of tables stands under a key. -/
def ensureElements (key : Key) : Edit Unit
  | .table kind entries span =>
    match Entries.find? entries key.name with
    | none => Edit.append key (.tables [] none) (.table kind entries span)
    | some (.tables _ _) => some ((), .table kind entries span)
    | some _ => none
  | _ => none

/-- Take a table out from under a key, so that its own header can be read, and tell the entries it
has so far. Only a table that was made by the headers of tables inside it may have a header yet. -/
def takeImplied (key : Key) : Edit Entries
  | .table kind entries span =>
    match Entries.find? entries key.name with
    | none => some ([], .table kind entries span)
    | some (.table .implied inner _) =>
      some (inner, .table kind (Entries.remove entries key.name) span)
    | some _ => none
  | _ => none

/-- Carry out a change at the table that a header's path leads to, the last key left out. -/
def atParent (path : List Key) (edit : Key → Edit α) : Edit α := fun document => do
  (edit (← path.getLast?)).within .implied TableKind.admitsHeader path.dropLast document

/-- Put the table under assembly into the document. -/
def close (draft : Draft) : Option Item :=
  if draft.path.isEmpty then some draft.current
  else Prod.snd <$> atParent draft.path (fun key =>
    if draft.isElement then pushElement key draft.current else Edit.append key draft.current)
    draft.complete

/-- The place of a table that now reaches to the end of another item. A table without a place of its
own keeps none. -/
def extend (span last : Option Span) : Option Span :=
  match span, last with
  | some span, some last => some ⟨span.start, last.stop⟩
  | _, _ => span

/-- Add an entry to the table under assembly. -/
def add (keys : List Key) (value : Item) : Edit Unit
  | .table kind entries span => do
    let path := keys.dropLast
    let edit := Edit.addEntry (!path.isEmpty) (← keys.getLast?) value
    edit.within .dotted TableKind.admitsDotted path
      (.table kind entries (extend span value.span?))
  | _ => none

/-- Carry out one statement. -/
def apply (draft : Draft) : Statement → Option Draft
  | .header path span => do
    let (entries, complete) ← atParent path takeImplied (← draft.close)
    return ⟨complete, .table .explicit entries (some span), path, false⟩
  | .arrayHeader path span => do
    let ((), complete) ← atParent path ensureElements (← draft.close)
    return ⟨complete, .table .explicit [] (some span), path, true⟩
  | .entry keys value => do
    let ((), current) ← add keys value draft.current
    return { draft with current }

end Draft

/-- The entries of the document that statements make up, unless they contradict one another. -/
def assemble (statements : List Statement) : Option Entries := do
  let draft ← statements.foldlM Draft.apply Draft.empty
  match ← draft.close with
  | .table _ entries _ => return entries
  | _ => none

/-- The entries of a document. There are none to a text that is no document. -/
def document? (text : String) : Option Entries := do
  let (statements, _) ← Reader.document ⟨text.toList, 0⟩
  assemble statements

end TlsListener.Toml
