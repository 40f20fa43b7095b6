/-!
# Reading a text with its place

A reader takes characters off the front of a text, or refuses. It keeps count of the bytes read, so
that the place of what it reads can be named. Of two readers joined by `<|>` the second starts where
the first started.
-/

namespace TlsListener.Toml

/-- The text still to be read and the bytes read before it. -/
structure Cursor where
  rest : List Char
  offset : Nat
  deriving Inhabited

/-- A reader: what it read and what is left, unless it refuses. -/
abbrev Reader := StateT Cursor Option

namespace Reader

/-- The bytes read so far. -/
def offset : Reader Nat := do
  return (← get).offset

/-- One character of a class. -/
def satisfy (admits : Char → Bool) : Reader Char := fun cursor =>
  match cursor.rest with
  | c :: rest => if admits c then some (c, ⟨rest, cursor.offset + c.utf8Size⟩) else none
  | [] => none

/-- One given character. -/
def char (c : Char) : Reader Unit := do
  let _ ← satisfy (· == c)

/-- The given characters, one after the other. -/
def literal : List Char → Reader Unit
  | [] => pure ()
  | c :: cs => do char c; literal cs

/-- The end of the text. -/
def finish : Reader Unit := fun cursor =>
  if cursor.rest.isEmpty then some ((), cursor) else none

/-- All characters of a class from here on, up to the first that is not. -/
def takeWhile (admits : Char → Bool) : Reader (List Char) := fun cursor =>
  let taken := cursor.rest.takeWhile admits
  some (taken, ⟨cursor.rest.dropWhile admits,
    taken.foldl (fun offset c => offset + c.utf8Size) cursor.offset⟩)

/-- At least one character of a class. -/
def takeWhile1 (admits : Char → Bool) : Reader (List Char) := do
  let taken ← takeWhile admits
  if taken.isEmpty then failure else pure taken

/-- What a reader reads, or nothing where it refuses. -/
def optional (reader : Reader α) : Reader (Option α) :=
  (some <$> reader) <|> pure none

/-- At most `count` readings, up to the first that is refused. -/
def upTo (reader : Reader α) : Nat → Reader (List α)
  | 0 => pure []
  | count + 1 => (do
      let first ← reader
      let others ← upTo reader count
      pure (first :: others)) <|> pure []

/-- Readings up to the first that is refused. A reading takes at least one character, so there are
no more of them than characters left. -/
def many (reader : Reader α) : Reader (List α) := do
  upTo reader (← get).rest.length

/-- What a reader reads together with its place. -/
def spanned (reader : Reader α) : Reader (α × Nat × Nat) := do
  let start ← offset
  let value ← reader
  return (value, start, ← offset)

end Reader

end TlsListener.Toml
