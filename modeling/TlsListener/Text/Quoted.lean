import TlsListener.Text.Hidden

/-!
# Diagnostic text

Values are described in diagnostics in one notation: texts between double quotes with escapes,
optional values as `None` and `Some(..)`, lists in square brackets, sets in braces, and records as a
name followed by its fields in braces.
-/

namespace TlsListener.Text

/-- The digits of a number in base sixteen, in small letters. -/
def hex (n : Nat) : String :=
  String.ofList (Nat.toDigits 16 n)

/-- One character inside a quoted text. -/
def escapeChar (c : Char) : String :=
  if c = '"' then "\\\""
  else if c = '\\' then "\\\\"
  else if c = '\n' then "\\n"
  else if c = '\r' then "\\r"
  else if c = '\t' then "\\t"
  else if c = Char.ofNat 0 then "\\0"
  else if isHidden c then "\\u\x7b" ++ hex c.toNat ++ "\x7d"
  else String.singleton c

/-- A text between double quotes. -/
def quoted (s : String) : String :=
  "\"" ++ String.join (s.toList.map escapeChar) ++ "\""

/-- An optional value. -/
def optional (shown : Option String) : String :=
  match shown with
  | none => "None"
  | some text => "Some(" ++ text ++ ")"

/-- A list of values. -/
def listed (shown : List String) : String :=
  "[" ++ String.intercalate ", " shown ++ "]"

/-- A set of values, in the order given. -/
def braced (shown : List String) : String :=
  "\x7b" ++ String.intercalate ", " shown ++ "\x7d"

/-- A record: its name, then each field with its value. -/
def record (name : String) (fields : List (String × String)) : String :=
  name ++ " \x7b " ++ String.intercalate ", " (fields.map fun f => f.1 ++ ": " ++ f.2) ++ " \x7d"

end TlsListener.Text
