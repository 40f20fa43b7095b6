import TlsListener.Encoding.Ber.Item

/-!
# Simple values

Readers of values that hold no others, and of values of any type. Numbers, truth values and
identifiers have to be written in one piece; texts may come in several. A type limits what the
contents of its values may be.
-/

namespace TlsListener.Ber

/-- The types that are known everywhere, by the numbers of their tags. -/
def typeBoolean : Nat := 1
def typeInteger : Nat := 2
def typeBits : Nat := 3
def typeOctets : Nat := 4
def typeNull : Nat := 5
def typeIdentifier : Nat := 6
def typeEnumerated : Nat := 10
def typeText8 : Nat := 12
def typeSequence : Nat := 16
def typeSet : Nat := 17
def typeDigits : Nat := 18
def typePrintable : Nat := 19
def typeTeletex : Nat := 20
def typeAscii : Nat := 22
def typeShortTime : Nat := 23
def typeLongTime : Nat := 24
def typeVisible : Nat := 26
def typeText32 : Nat := 28
def typeText16 : Nat := 30

/-- The types whose values have to be written in one piece. -/
def simpleTypes : List Nat :=
  [typeBoolean, typeInteger, typeNull, typeIdentifier, typeEnumerated]

/-- The lengths of the shortest times. -/
def minShortTime : Nat := 13
def minLongTime : Nat := 15

/-- Whether bytes are the contents of a whole number: its first byte is needed. -/
def isInteger : Bytes → Bool
  | [] => false
  | [_] => true
  | first :: second :: _ =>
    !(first = 0 && second < 0x80) && !(first = 0xFF && 0x80 ≤ second)

/-- Whether bytes are the contents of a string of bits: first the number of bits of the last byte
that do not count. -/
def isBits : Bytes → Bool
  | [] => false
  | unused :: _ => unused < 8

/-- Whether bytes are the contents of an identifier: the bytes of a number that have another after
them are marked, and none of them is a leading zero. -/
def isIdentifier (bytes : Bytes) : Bool :=
  bytes.getLast?.any (· < 0x80) &&
    ((0 :: bytes).zip bytes).all fun (before, b) => 0x80 ≤ before || b != 0x80

/-- Whether bytes may be the contents of a value of a type. -/
def admits (type : Nat) (bytes : Bytes) : Bool :=
  if type = typeBoolean then bytes.length = 1
  else if type = typeInteger || type = typeEnumerated then isInteger bytes
  else if type = typeBits then isBits bytes
  else if type = typeNull then bytes.isEmpty
  else if type = typeIdentifier then isIdentifier bytes
  else if type = typeShortTime then minShortTime ≤ bytes.length
  else if type = typeLongTime then minLongTime ≤ bytes.length
  else if type = typeText16 then bytes.length % 2 = 0
  else if type = typeText32 then bytes.length % 4 = 0
  else true

/-- The contents of a value of a type, and what follows it. -/
def Opened.contents? (opened : Opened) (type : Nat) : Option (Bytes × Bytes) :=
  if opened.constructed then
    if simpleTypes.contains type then none
    else do
      let (contents, rest) ← joinPieces maxPieceDepth (opened.contents.length + 1)
        opened.isEndless opened.contents
      return (contents, opened.after.getD rest)
  else opened.after.map fun after => (opened.contents, after)

/-- A value of a type whose header has been read. -/
def Opened.simple (opened : Opened) (type : Nat) : Finding Bytes :=
  match opened.contents? type with
  | none => .malformed
  | some (contents, rest) => if admits type contents then .found contents rest else .malformed

/-- A value whose header has been read, as its encoding. -/
def Opened.whole (opened : Opened) (bytes : Bytes) : Finding Bytes :=
  match opened.rest? with
  | some rest => .found (front bytes rest) rest
  | none => .malformed

/-- A value of any type. -/
structure Value where
  tag : Tag
  /-- The contents, but the whole encoding of sequences, of sets, and of values whose tags are not
  known everywhere. -/
  bytes : Bytes
  deriving DecidableEq, Repr

/-- Whether a value is of a type that is known everywhere. -/
def Value.isOf (value : Value) (type : Nat) : Bool :=
  value.tag = .universal type

/-- A value whose header has been read, as one of its type. -/
def Opened.value (opened : Opened) (bytes : Bytes) : Finding Value :=
  let finding :=
    if opened.tag.tagClass ≠ .universal then opened.whole bytes
    else if opened.tag.number = typeSequence || opened.tag.number = typeSet then
      if opened.constructed then opened.whole bytes else .malformed
    else opened.simple opened.tag.number
  match finding with
  | .found bytes rest => .found ⟨opened.tag, bytes⟩ rest
  | .absent => .absent
  | .malformed => .malformed

namespace Item

/-- The contents of a value of a type. -/
def simple (type : Nat) : Item Bytes :=
  deeper fun _ tag bytes => lookFor (tag.getD (.universal type)) bytes fun opened =>
    opened.simple type

/-- A sequence or a set as its encoding. -/
def raw (type : Nat) : Item Bytes :=
  deeper fun _ tag bytes => lookFor (tag.getD (.universal type)) bytes fun opened =>
    if opened.constructed then opened.whole bytes else .malformed

/-- A value of any type. -/
def any : Item Value :=
  deeper fun _ _ bytes =>
    match open? bytes with
    | none => .malformed
    | some opened => opened.value bytes

/-- A value of one of several types. -/
def ofTypes (types : List Nat) : Item Value :=
  deeper fun _ _ bytes =>
    match open? bytes with
    | none => .malformed
    | some opened =>
      if opened.tag.tagClass = .universal && types.contains opened.tag.number then
        opened.value bytes
      else .absent

/-- The number that the contents of a whole number stand for. -/
def intOfContents (bytes : Bytes) : Int :=
  let magnitude := Bytes.toNat bytes
  if bytes.head?.any (0x80 ≤ ·) then magnitude - (1 <<< (8 * bytes.length) : Nat) else magnitude

/-- A whole number. -/
def integer : Item Int := (simple typeInteger).map intOfContents

/-- A whole number of 32 bits. Here no contents stand for zero. -/
def integer32 : Item Int :=
  deeper fun _ tag bytes => lookFor (tag.getD (.universal typeInteger)) bytes fun opened =>
    match opened.contents? typeInteger with
    | some (contents, rest) =>
      let n := intOfContents contents
      if (contents.isEmpty || isInteger contents) && -0x80000000 ≤ n && n ≤ 0x7FFFFFFF then
        .found n rest
      else .malformed
    | none => .malformed

/-- A whole number that is known not to be negative. Its contents are not limited. -/
def magnitude : Item Nat :=
  deeper fun _ tag bytes => lookFor (tag.getD (.universal typeInteger)) bytes fun opened =>
    match opened.contents? typeInteger with
    | some (contents, rest) => .found (Bytes.toNat contents) rest
    | none => .malformed

/-- A truth value. -/
def boolean : Item Bytes := simple typeBoolean

/-- A string of bytes. -/
def octets : Item Bytes := simple typeOctets

/-- An identifier of an algorithm, an attribute and so on. -/
def identifier : Item Bytes := simple typeIdentifier

/-- The bytes of a string of bits; those of the last byte that do not count are zero. -/
def bitsOfContents : Bytes → Bytes
  | [] => []
  | unused :: bytes => bytes.dropLast ++ bytes.getLast?.toList.map (· &&& (0xFF <<< unused))

/-- A string of bits. -/
def bits : Item Bytes := (simple typeBits).map bitsOfContents

end Item

/-- An algorithm: its identifier, and its parameters where there are any. -/
structure Algorithm where
  name : Bytes
  parameters : Option Value
  deriving DecidableEq, Repr

/-- A whole number as it counts where 32 bits are made of it: what lies beyond 64 bits is not known
and counts as minus one, and of the others the lower half is taken. -/
def narrow (n : Int) : Int :=
  if -0x8000000000000000 ≤ n && n ≤ 0x7FFFFFFFFFFFFFFF then
    (n + 0x80000000) % 0x100000000 - 0x80000000
  else -1

namespace Algorithm

/-- The reader of algorithms. -/
def item : Item Algorithm := .sequence do
  let name ← .required .identifier
  return ⟨name, ← .optionalLast .any⟩

/-- Parameters that are a sequence, by a reader of it. -/
def decode? (algorithm : Algorithm) (item : Item α) : Option α := do
  let value ← algorithm.parameters
  guard (value.isOf typeSequence)
  item.decode? value.bytes

end Algorithm

end TlsListener.Ber
