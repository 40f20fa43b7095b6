import TlsListener.Crypto.BinaryField

/-!
# Elliptic curves

Curves over prime fields, of equation `y² = x³ + ax + b`, and over binary fields, of equation
`y² + xy = x³ + ax² + b`. A point is given by its two coordinates; the point at infinity is the
absence of a point.
-/

namespace TlsListener

/-- The field of a curve. -/
inductive CurveField where
  | prime (p : Nat)
  /-- Polynomials modulo one of them. -/
  | binary (modulus : Nat)
  deriving DecidableEq, Repr

namespace CurveField

/-- The number of bits of an element. -/
def bits : CurveField → Nat
  | prime p => bitLength p
  | binary modulus => BinaryField.degree modulus

/-- The number of bits of the number that a field is given by. -/
def modulusBits : CurveField → Nat
  | prime p => bitLength p
  | binary modulus => bitLength modulus

/-- The number of bytes of an element. -/
def byteSize (field : CurveField) : Nat := (field.bits + 7) / 8

/-- How many elements there are. -/
def size : CurveField → Nat
  | prime p => p
  | binary modulus => 1 <<< BinaryField.degree modulus

/-- Whether a number stands for an element. -/
def contains (field : CurveField) (n : Nat) : Bool := n < field.size

/-- The sum of two elements. -/
def add : CurveField → Nat → Nat → Nat
  | prime p, a, b => (a + b) % p
  | binary _, a, b => a ^^^ b

/-- The difference of two elements. -/
def sub : CurveField → Nat → Nat → Nat
  | prime p, a, b => (a + p - b % p) % p
  | binary _, a, b => a ^^^ b

/-- The product of two elements. -/
def mul : CurveField → Nat → Nat → Nat
  | prime p, a, b => a * b % p
  | binary modulus, a, b => BinaryField.mul modulus a b

/-- The quotient of two elements. -/
def div : CurveField → Nat → Nat → Nat
  | prime p, a, b => a * inverseMod p b % p
  | binary modulus, a, b => BinaryField.mul modulus a (BinaryField.inverse modulus b)

end CurveField

/-- A curve, the point that it counts from, and the order of that point. -/
structure Curve where
  /-- The identifier of a curve that is known by one. -/
  identifier : Option Bytes
  field : CurveField
  a : Nat
  b : Nat
  x : Nat
  y : Nat
  order : Nat
  /-- By how many times the number of points exceeds the order; zero where this is not known. -/
  cofactor : Nat
  deriving DecidableEq, Repr

namespace Curve

/-- Whether two curves are the same: by their identifiers where both have one, else by all that is
known of both. -/
def isSame (first second : Curve) : Bool :=
  match first.identifier, second.identifier with
  | some name, some name' => name == name'
  | _, _ =>
    let cofactor := if first.cofactor = 0 || second.cofactor = 0 then 0 else second.cofactor
    { first with
      identifier := none
      cofactor := if cofactor = 0 then 0 else first.cofactor } ==
      { second with identifier := none, cofactor }

/-- The cofactor that the order makes likely, or zero where the order is too small to tell. -/
def likelyCofactor (curve : Curve) : Nat :=
  if bitLength curve.order ≤ (curve.field.modulusBits + 1) / 2 + 3 then 0
  else (curve.order / 2 + curve.field.size + 1) / curve.order

/-- A point, or the point at infinity. -/
abbrev Point := Option (Nat × Nat)

/-- The value of the right side of the equation. -/
def rightSide (curve : Curve) (x : Nat) : Nat :=
  let field := curve.field
  let square := field.mul x x
  match field with
  | .prime _ => field.add (field.add (field.mul square x) (field.mul curve.a x)) curve.b
  | .binary _ => field.add (field.add (field.mul square x) (field.mul curve.a square)) curve.b

/-- Whether coordinates are those of a point of the curve. -/
def contains (curve : Curve) (x y : Nat) : Bool :=
  let field := curve.field
  let square := field.mul y y
  let left := match field with
    | .prime _ => square
    | .binary _ => field.add square (field.mul x y)
  field.contains x && field.contains y && left == curve.rightSide x

/-- The third point on the line of a given slope through two points, turned over. -/
def alongSlope (curve : Curve) (slope x₁ y₁ x₂ : Nat) : Point :=
  let field := curve.field
  let square := field.mul slope slope
  match field with
  | .prime _ =>
    let x := field.sub (field.sub square x₁) x₂
    some (x, field.sub (field.mul slope (field.sub x₁ x)) y₁)
  | .binary _ =>
    let x := square ^^^ slope ^^^ x₁ ^^^ x₂ ^^^ curve.a
    some (x, field.mul slope (x₁ ^^^ x) ^^^ x ^^^ y₁)

/-- The sum of a point with itself. -/
def double (curve : Curve) (x y : Nat) : Point :=
  let field := curve.field
  match field with
  | .prime _ =>
    if y = 0 then none
    else
      let square := field.mul x x
      let rise := field.add (field.add square (field.add square square)) curve.a
      curve.alongSlope (field.div rise (field.add y y)) x y x
  | .binary _ =>
    if x = 0 then none else curve.alongSlope (x ^^^ field.div y x) x y x

/-- The sum of two points. -/
def add (curve : Curve) : Point → Point → Point
  | none, q => q
  | q, none => q
  | some (x₁, y₁), some (x₂, y₂) =>
    let field := curve.field
    if x₁ = x₂ then if y₁ = y₂ then curve.double x₁ y₁ else none
    else curve.alongSlope (field.div (field.sub y₂ y₁) (field.sub x₂ x₁)) x₁ y₁ x₂

/-- A multiple of a point, over the given number of bits of the factor. -/
def multiple (curve : Curve) (point : Point) : Nat → Nat → Point
  | 0, _ => none
  | bits + 1, factor =>
    let half := curve.multiple (curve.add point point) bits (factor / 2)
    if factor % 2 = 1 then curve.add point half else half

/-- The public point of a private number. -/
def publicPoint (curve : Curve) (number : Nat) : Point :=
  let number := number % curve.order
  curve.multiple (some (curve.x, curve.y)) (bitLength number) number

/-- The second coordinate that belongs to a first one, of the two that there may be the one that a
bit tells: the one that is odd, or in a binary field the one whose quotient by the first coordinate
is. -/
def secondCoordinate? (curve : Curve) (x : Nat) (bit : Bool) : Option Nat :=
  let field := curve.field
  match field with
  | .prime p => do
    let y ← rootMod? p (curve.rightSide x)
    if (y % 2 = 1) = bit then return y
    else
      guard (y ≠ 0)
      return p - y
  | .binary modulus =>
    if x = 0 then some (BinaryField.root modulus curve.b)
    else do
      let z ← BinaryField.solveQuadratic? modulus (field.div (curve.rightSide x) (field.mul x x))
      return field.mul x (if z.testBit 0 = bit then z else z ^^^ 1)

/-- The bit that tells which second coordinate a point has. -/
def secondBit (curve : Curve) (x y : Nat) : Bool :=
  match curve.field with
  | .prime _ => y % 2 = 1
  | .binary _ => x ≠ 0 && (curve.field.div y x).testBit 0

/-- A point written as bytes: a single zero byte for the point at infinity; else a byte that tells
the form, and both coordinates, or the first one with a bit in place of the second, or all of
these. -/
def readPoint? (curve : Curve) (bytes : Bytes) : Option Point := do
  let form :: coordinates := bytes | none
  let size := curve.field.byteSize
  let bit : Bool := form &&& 1 = 1
  let form := form &&& 0xFE
  let x := Bytes.toNat (coordinates.take size)
  let y := Bytes.toNat (coordinates.drop size)
  if form = 0 then
    guard (!bit && coordinates.isEmpty)
    return none
  else if form = 2 then
    guard (coordinates.length = size && curve.field.contains x)
    let y ← curve.secondCoordinate? x bit
    guard (curve.contains x y)
    return some (x, y)
  else
    guard (form = 4 && !bit || form = 6)
    guard (coordinates.length = 2 * size && curve.contains x y)
    guard (form = 4 || curve.secondBit x y = bit)
    return some (x, y)

end Curve

end TlsListener
