import TlsListener.Toml.Item
import TlsListener.Toml.Number

/-!
# Keys and values of TOML

Arrays and tables between braces hold further values, up to a fixed depth. The depth still allowed
is an argument of the readers, which recurse on it.
-/

namespace TlsListener.Toml

namespace Reader

/-- The characters of a key without quotes. -/
def isBare (c : Char) : Bool :=
  ('a' ≤ c && c ≤ 'z') || ('A' ≤ c && c ≤ 'Z') || isDigit c || c == '-' || c == '_'

/-- One key, as it stands between dots. -/
def simpleKey : Reader Key := do
  let (name, start, stop) ← spanned <|
    basicString <|> literalString <|> (String.ofList <$> takeWhile1 isBare)
  return ⟨name, start, stop⟩

/-- The number of keys that dots may join, and the depth to which arrays and inline tables may be
nested. -/
def maxDepth : Nat := 79

/-- Readings of one kind with commas between them, at least one. -/
def separated (separator : Char) (reader : Reader α) : Reader (List α) := do
  let first ← reader
  let others ← many (do char separator; reader)
  return first :: others

/-- A key, or several joined by dots. -/
def dottedKey : Reader (List Key) := do
  let keys ← separated '.' do
    spaces
    let key ← simpleKey
    spaces
    return key
  if keys.length ≤ maxDepth then pure keys else failure

/-- A value that holds no others. -/
def scalar : Reader Scalar :=
  (Scalar.text <$> string) <|>
  ((fun _ => Scalar.moment) <$> moment) <|>
  (Scalar.number <$> number) <|>
  (Scalar.integer <$> integer) <|>
  (do literal "true".toList; pure (.boolean true)) <|>
  (do literal "false".toList; pure (.boolean false))

end Reader

/-- A table between braces, assembled from its lines in order. -/
def Item.inlineTable (lines : List (List Key × Item)) (span : Span) : Option Item :=
  lines.foldlM (fun table (keys, value) => do
    let path := keys.dropLast
    let add := Edit.addEntry (!path.isEmpty) (← keys.getLast?) value
    let ((), table) ← add.within .inlinedDotted TableKind.admitsInlineDotted path table
    return table) (.table .inlined [] (some span))

namespace Reader

/-- An item that is a single value. -/
def scalarItem : Reader Item := do
  let (value, start, stop) ← spanned scalar
  return .scalar value ⟨start, stop⟩

/-- A value, in which arrays and inline tables may be nested to the given depth. -/
def value : Nat → Reader Item
  | 0 => scalarItem
  | depth + 1 =>
    (do
      let (items, start, stop) ← spanned do
        char '['
        let items ← optional do
          let items ← separated ',' do
            filler
            let item ← value depth
            filler
            return item
          let _ ← optional (char ',')
          return items
        filler
        char ']'
        return items.getD []
      return .array items ⟨start, stop⟩) <|>
    (do
      let (lines, start, stop) ← spanned do
        char '\x7b'
        let lines ← optional <| separated ',' do
          let keys ← dottedKey
          char '='
          spaces
          let item ← value depth
          spaces
          return (keys, item)
        spaces
        char '\x7d'
        return lines.getD []
      Item.inlineTable lines ⟨start, stop⟩) <|>
    scalarItem

end Reader

end TlsListener.Toml
