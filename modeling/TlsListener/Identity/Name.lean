import TlsListener.Encoding.Ber.Text
import TlsListener.Encoding.Identifier

/-!
# Distinguished names

The name of a subject or an issuer consists of attributes in groups. Each attribute has a kind and a
value, mostly a text. Names are compared in a canonical form, in which small and capital letters of
ASCII are the same, blanks around a text do not count, and blanks inside it count once; the order
within a group does not count either.
-/

namespace TlsListener

/-- The blanks of ASCII. -/
def isAsciiBlank (b : UInt8) : Bool := b = 32 || 9 ≤ b && b ≤ 13

/-- A capital letter of ASCII as a small letter. -/
def smallLetter (b : UInt8) : UInt8 :=
  if 65 ≤ b ∧ b ≤ 90 then b + 32 else b

/-- An attribute of a name. -/
structure NameAttribute where
  kind : Bytes
  value : Ber.Value
  deriving DecidableEq, Repr

namespace NameAttribute

/-- The types of values that an attribute may have. -/
def valueTypes : List Nat := [3, 7, 8, 9, 11, 12, 13, 14, 15, 16, 18, 19, 20, 22, 28, 29, 30]

/-- The types of values that are brought into canonical form. -/
def canonicalTypes : List Nat :=
  [Ber.typeText8, Ber.typePrintable, Ber.typeTeletex, Ber.typeAscii, Ber.typeVisible,
    Ber.typeText32, Ber.typeText16]

/-- A text with runs of blanks made one blank, and small letters for capital ones. -/
def canonicalBytes : Bytes → Bytes
  | [] => []
  | b :: rest =>
    if isAsciiBlank b then
      if rest.head?.any isAsciiBlank then canonicalBytes rest else 32 :: canonicalBytes rest
    else smallLetter b :: canonicalBytes rest

/-- Bytes without the blanks around them. -/
def trimBlanks (bytes : Bytes) : Bytes :=
  let rest := bytes.dropWhile isAsciiBlank
  (rest.reverse.dropWhile isAsciiBlank).reverse

/-- The canonical form of an attribute. Texts come to be texts in UTF-8; there is none if a value
claims to be a text and is none. -/
def canonical? (given : NameAttribute) : Option NameAttribute :=
  if canonicalTypes.contains given.value.tag.number then do
    let text ← given.value.text?
    let bytes := canonicalBytes (trimBlanks text.toUTF8.toList)
    return ⟨given.kind, ⟨.universal Ber.typeText8, bytes⟩⟩
  else some given

/-- The reader of attributes. -/
def item : Ber.Item NameAttribute := .sequence do
  return ⟨← .required .identifier, ← .required (.ofTypes valueTypes)⟩

end NameAttribute

/-- A distinguished name: its attributes in order, and the groups of the canonical form. -/
structure DistinguishedName where
  attributes : List NameAttribute
  canonicalGroups : List (List NameAttribute)
  deriving DecidableEq, Repr

namespace DistinguishedName

/-- The name of groups of attributes. Groups without attributes do not count in canonical form. -/
def ofGroups? (groups : List (List NameAttribute)) : Option DistinguishedName := do
  let canonical ← groups.mapM fun group => group.mapM NameAttribute.canonical?
  return ⟨groups.flatten, canonical.filter fun group => !group.isEmpty⟩

/-- The reader of names. -/
def item : Ber.Item DistinguishedName :=
  (Ber.Item.sequenceOf (.setOf NameAttribute.item)).mapM? ofGroups?

/-- Whether two groups have the same attributes, each as often. -/
def isSameGroup (first second : List NameAttribute) : Bool := first.isPerm second

/-- Whether two names are the same. -/
def isSame (first second : DistinguishedName) : Bool :=
  first.canonicalGroups.length == second.canonicalGroups.length &&
    (first.canonicalGroups.zip second.canonicalGroups).all fun (group, group') =>
      isSameGroup group group'

/-- The first common name, up to a zero character, if it is a text. -/
def commonName? (name : DistinguishedName) : Option String := do
  let first ← name.attributes.find? fun given => given.kind == Identifier.commonName
  let text ← first.value.text?
  return String.ofList (text.toList.takeWhile (· ≠ Char.ofNat 0))

end DistinguishedName

end TlsListener
