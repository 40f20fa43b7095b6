import TlsListener.Toml.Reader

/-!
# Blanks, comments and strings of TOML

A string stands between double quotes, where a backslash begins an escape, or between apostrophes,
where every character stands for itself. Three quotes open a string that may run over lines; its
first line end is dropped, and line ends inside it are read as line feeds.
-/

namespace TlsListener.Toml.Reader

/-- The blanks inside a line. -/
def isSpace (c : Char) : Bool :=
  c == ' ' || c == '\t'

/-- The characters of a comment: all but control characters, tabs excepted. -/
def isVisible (c : Char) : Bool :=
  c == '\t' || (' ' ≤ c && c != '\x7f')

/-- The characters that stand for themselves between double quotes. -/
def isPlain (c : Char) : Bool :=
  isVisible c && c != '"' && c != '\\'

/-- The characters that may stand between apostrophes. -/
def isVerbatim (c : Char) : Bool :=
  isVisible c && c != '\''

/-- Blanks inside a line. -/
def spaces : Reader Unit := do
  let _ ← takeWhile isSpace

/-- A line end: a line feed, with or without a carriage return before it. -/
def lineEnd : Reader Unit :=
  char '\n' <|> (do char '\r'; char '\n')

/-- A comment, up to the end of its line. -/
def comment : Reader Unit := do
  char '#'
  let _ ← takeWhile isVisible

/-- What may follow on a line that is complete: blanks, a comment, and the end of the line or of the
text. -/
def restOfLine : Reader Unit := do
  spaces
  let _ ← optional comment
  lineEnd <|> finish

/-- Blanks, comments and line ends between the items of an array. -/
def filler : Reader Unit := do
  let _ ← many ((do let _ ← takeWhile1 isSpace) <|> lineEnd <|> (do comment; lineEnd))

/-- The value of a digit in base sixteen. -/
def hexValue? (c : Char) : Option Nat :=
  if '0' ≤ c ∧ c ≤ '9' then some (c.toNat - '0'.toNat)
  else if 'a' ≤ c ∧ c ≤ 'f' then some (c.toNat - 'a'.toNat + 10)
  else if 'A' ≤ c ∧ c ≤ 'F' then some (c.toNat - 'A'.toNat + 10)
  else none

/-- A number of exactly `count` digits in base sixteen. -/
def hexDigits : Nat → Nat → Reader Nat
  | 0, value => pure value
  | count + 1, value => do
    let c ← satisfy fun c => (hexValue? c).isSome
    hexDigits count (value * 16 + (hexValue? c).getD 0)

/-- A character given by its number; the halves of surrogate pairs are refused. -/
def scalarValue (count : Nat) : Reader Char := do
  let n ← hexDigits count 0
  if h : n.isValidChar then pure (Char.ofNatAux n h) else failure

/-- The character that an escape stands for. -/
def escape : Reader Char := do
  char '\\'
  let c ← satisfy fun _ => true
  match c with
  | 'b' => pure '\x08'
  | 't' => pure '\t'
  | 'n' => pure '\n'
  | 'f' => pure '\x0c'
  | 'r' => pure '\r'
  | '"' => pure '"'
  | '\\' => pure '\\'
  | 'u' => scalarValue 4
  | 'U' => scalarValue 8
  | _ => failure

/-- A string between double quotes on one line. -/
def basicString : Reader String := do
  char '"'
  let cs ← many (satisfy isPlain <|> escape)
  char '"'
  return String.ofList cs

/-- A string between apostrophes on one line. -/
def literalString : Reader String := do
  char '\''
  let cs ← takeWhile isVerbatim
  char '\''
  return String.ofList cs

/-- A line end inside a string. -/
def innerLineEnd : Reader (List Char) := do
  lineEnd
  return ['\n']

/-- A backslash at the end of a line takes the line end with it and all blanks and line ends after
it. -/
def continuation : Reader (List Char) := do
  char '\\'
  spaces
  lineEnd
  let _ ← many ((do let _ ← takeWhile1 isSpace) <|> lineEnd)
  return []

/-- One or two quotes that do not close the string. -/
def innerQuotes (quote : Char) : Reader (List Char) := do
  let run ← takeWhile1 (· == quote)
  if run.length < 3 then pure run else failure

/-- The closing three quotes. Up to two more before them belong to the string. -/
def closingQuotes (quote : Char) : Reader (List Char) := do
  let run ← takeWhile1 (· == quote)
  if 3 ≤ run.length ∧ run.length ≤ 5 then pure (run.drop 3) else failure

/-- A string between three quotes of one kind, made of the given pieces. -/
def longString (quote : Char) (piece : Reader (List Char)) : Reader String := do
  literal [quote, quote, quote]
  let _ ← optional lineEnd
  let pieces ← many (piece <|> innerQuotes quote)
  let final ← closingQuotes quote
  return String.ofList (pieces.flatten ++ final)

/-- A string between three double quotes. -/
def longBasicString : Reader String :=
  longString '"' (takeWhile1 isPlain <|> continuation <|> ((fun c => [c]) <$> escape) <|>
    innerLineEnd)

/-- A string between three apostrophes. -/
def longLiteralString : Reader String :=
  longString '\'' (takeWhile1 isVerbatim <|> innerLineEnd)

/-- A string of any kind. -/
def string : Reader String :=
  longBasicString <|> basicString <|> longLiteralString <|> literalString

end TlsListener.Toml.Reader
