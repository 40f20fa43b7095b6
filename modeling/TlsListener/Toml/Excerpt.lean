import TlsListener.Toml.Item

/-!
# Pointing into a document

A complaint about a place in a document is shown below the line that it is about, with carets under
the place. Lines and columns count from one, columns in characters. The carets are as many as the
place has bytes, but reach no further than the line has bytes, and there is at least one.
-/

namespace TlsListener.Toml

/-- The characters of a text that begin before a given byte. -/
def charsBefore (offset : Nat) : List Char → List Char
  | [] => []
  | c :: cs => if offset = 0 then [] else c :: charsBefore (offset - c.utf8Size) cs

/-- The number of a line and of a column in it, both from zero, where a place begins. -/
def lineAndColumn (text : String) (place : Span) : Nat × Nat :=
  let before := charsBefore place.start text.toList
  (before.count '\n', (before.reverse.takeWhile (· != '\n')).length)

/-- The given number of equal characters. -/
def repeated (count : Nat) (c : Char) : String :=
  String.ofList (List.replicate count c)

/-- The number of carets under a place that begins in the given column of a line. -/
def caretCount (line : String) (column : Nat) (place : Span) : Nat :=
  max 1 (min (place.stop - place.start) (line.utf8ByteSize - column))

/-- A complaint about a place in a document, below an excerpt that shows the place. -/
def excerpt (text : String) (place : Span) (complaint : String) : String :=
  let (lineIndex, column) := lineAndColumn text place
  let line := ((text.splitOn "\n")[lineIndex]?).getD ""
  let lineNumber := toString (lineIndex + 1)
  let margin := repeated (lineNumber.length + 1) ' '
  s!"TOML parse error at line {lineNumber}, column {column + 1}\n" ++
  margin ++ "|\n" ++
  lineNumber ++ " | " ++ line ++ "\n" ++
  margin ++ "|" ++
  repeated (column + 1) ' ' ++ repeated (caretCount line column place) '^' ++ "\n" ++
  complaint ++ "\n"

end TlsListener.Toml
