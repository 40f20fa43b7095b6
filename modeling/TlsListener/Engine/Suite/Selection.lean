import TlsListener.Engine.Suite.Criteria

/-!
# Lists of suites as rules

A list of suites for the versions before TLS 1.3 is a list of rules, each of which adds, removes or
bars the suites that its names stand for, or sets the level of security. The list is accepted if its
rules are well-formed and leave any suite. What follows a name that is not known, up to the next
separator, does not count, nor does what follows a command.
-/

namespace TlsListener.Suite

/-- What becomes of the suites under a list of rules: those that it leaves, those that are barred
for good, and the level of security if one is set. -/
structure Selection where
  suites : List Suite := []
  barred : List Suite := []
  level : Option Nat := none
  deriving DecidableEq

/-- The characters of names in rules. -/
def isNameChar (c : Char) : Bool :=
  c.isAlphanum || c == '-' || c == '_' || c == '.' || c == '='

/-- The characters of names and of what joins them. -/
def isJoinedChar (c : Char) : Bool :=
  isNameChar c || c == '+'

/-- The characters between rules. -/
def isSeparator (c : Char) : Bool :=
  c == ':' || c == ' ' || c == ';' || c == ','

/-- Why names pick nothing. -/
inductive Unpicked where
  /-- A name is missing. -/
  | malformed
  /-- A name is not known, or cannot be joined with those before it. -/
  | unknown
  deriving DecidableEq, Repr

/-- Criteria joined with those of one more name. -/
def Criteria.addName (criteria : Criteria) (name : List Char) : Except Unpicked Criteria :=
  if name.isEmpty then .error .malformed
  else
    match named? (String.ofList name) >>= criteria.join? with
    | some criteria => .ok criteria
    | none => .error .unknown

/-- The criteria of names with plus signs between them. -/
def Criteria.ofNames (names : List Char) : Except Unpicked Criteria :=
  (names.splitOn '+').foldlM addName {}

/-- What a rule makes of a selection. -/
inductive Verdict where
  /-- The list is refused. -/
  | refused
  /-- The next rule follows. -/
  | applied (selection : Selection)
  /-- What follows up to the next separator does not count. -/
  | ended (selection : Selection)

namespace Selection

/-- The level of security that a command sets. -/
def levelOf? (command : List Char) : Option Nat :=
  match command with
  | ['S', 'E', 'C', 'L', 'E', 'V', 'E', 'L', '=', digit] =>
    if '0' ≤ digit ∧ digit ≤ '5' then some (digit.toNat - '0'.toNat) else none
  | _ => none

/-- A command: to sort by strength, which does not show, or to set the level of security. -/
def command (selection : Selection) (text : List Char) : Verdict :=
  let name := text.takeWhile isNameChar
  if name = "STRENGTH".toList then .ended selection
  else
    match levelOf? name with
    | some level => .ended { selection with level := some level }
    | none => .refused

/-- Add suites, unless they are barred. -/
def add (selection : Selection) (suites : List Suite) : Selection :=
  let new := suites.filter fun suite =>
    !selection.suites.contains suite && !selection.barred.contains suite
  { selection with suites := selection.suites ++ new }

/-- Remove suites, which may be added again. -/
def remove (selection : Selection) (suites : List Suite) : Selection :=
  { selection with suites := selection.suites.filter (!suites.contains ·) }

/-- Remove suites for good. -/
def bar (selection : Selection) (suites : List Suite) : Selection :=
  { selection.remove suites with barred := selection.barred ++ suites }

/-- Change a selection by the suites that names pick. -/
def change (selection : Selection) (operation : Selection → List Suite → Selection)
    (names : List Char) : Verdict :=
  match Criteria.ofNames (names.takeWhile isJoinedChar) with
  | .ok criteria => .applied (operation selection criteria.picked)
  | .error .unknown => .ended selection
  | .error .malformed => .refused

/-- One rule. A plus sign before names moves their suites to the end, which does not show. -/
def rule (selection : Selection) (text : List Char) : Verdict :=
  match text with
  | '@' :: text => selection.command text
  | '!' :: names => selection.change bar names
  | '-' :: names => selection.change remove names
  | '+' :: names => selection.change (fun selection _ => selection) names
  | names => selection.change add names

/-- The rules between two separators. -/
def rules (selection : Selection) : List (List Char) → Option Selection
  | [] => some selection
  | text :: texts =>
    match selection.rule text with
    | .refused => none
    | .ended selection => some selection
    | .applied selection => selection.rules texts

/-- A text cut into rules: one begins at every character that does not continue names. -/
def cut (text : List Char) : List (List Char) :=
  text.splitBy fun before c => isJoinedChar c || !isJoinedChar before

/-- The rules of a whole text. -/
def apply (selection : Selection) (text : List Char) : Option Selection :=
  (text.splitOnP isSeparator).foldlM (fun selection part => selection.rules (cut part)) selection

/-- What a list may begin with to stand for all suites that are offered unless asked otherwise. -/
def defaultKeyword : List Char := "DEFAULT".toList

/-- The rules that the keyword for the default stands for. -/
def defaultRules : List Char := "ALL:!COMPLEMENTOFDEFAULT:!eNULL".toList

/-- What a list may begin with to be replaced as a whole, and by what. -/
def profiles : List (String × String) := [
  ("SUITEB128ONLY", "ECDHE-ECDSA-AES128-GCM-SHA256"),
  ("SUITEB128C2", "ECDHE-ECDSA-AES256-GCM-SHA384"),
  ("SUITEB128", "ECDHE-ECDSA-AES128-GCM-SHA256:ECDHE-ECDSA-AES256-GCM-SHA384"),
  ("SUITEB192", "ECDHE-ECDSA-AES256-GCM-SHA384")]

/-- A list, or the one that stands in for it. -/
def expanded (list : List Char) : List Char :=
  match profiles.find? fun profile => profile.1.toList.isPrefixOf list with
  | some (_, text) => text.toList
  | none => list

/-- What a list selects. -/
def ofList? (list : String) : Option Selection :=
  let text := expanded list.toList
  if defaultKeyword.isPrefixOf text then do
    let selection ← ({} : Selection).apply defaultRules
    selection.apply (text.drop defaultKeyword.length)
  else ({} : Selection).apply text

end Selection

/-- Whether the engine accepts a list of suites for the versions before TLS 1.3. -/
def acceptsList (list : String) : Bool :=
  (Selection.ofList? list).any fun selection => !selection.suites.isEmpty

/-- The level of security where no list sets one. -/
def defaultLevel : Nat := 2

/-- The level of security under a list of suites. -/
def level (list : Option String) : Nat :=
  ((list.bind Selection.ofList?).bind Selection.level).getD defaultLevel

/-- The strength in bits that a level of security asks for. -/
def minStrength (level : Nat) : Nat :=
  [0, 80, 112, 128, 192, 256].getD level 256

end TlsListener.Suite
