import TlsListener.Crypto.Curve.Known
import TlsListener.Encoding.Ber.Value

/-!
# Curves in keys

A key tells its curve by the identifier of a known curve, or by all its parameters: the field, the
equation, the point to count from, the order of that point, and perhaps the cofactor.
-/

namespace TlsListener.CurveParameters

open Ber

/-- The most bits that an element of a field may have. -/
def maxFieldBits : Nat := 661

/-- The prime field of a number. The number only has to be odd. -/
def primeField? (p : Int) : Option CurveField := do
  guard (2 < p && p % 2 = 1 && bitLength p.toNat ≤ maxFieldBits && 3 ≤ bitLength p.toNat)
  return .prime p.toNat

/-- The binary field of the polynomial with the given exponents, highest first. -/
def binaryField? (exponents : List Int) : Option CurveField := do
  guard (exponents.head?.all (· ≤ (maxFieldBits : Int)))
  guard ((exponents.zip (exponents.drop 1)).all fun (high, low) => low < high)
  return .binary (BinaryField.polynomial (exponents.map Int.toNat))

/-- The middle exponents of a polynomial with five terms. -/
def pentanomialItem : Item (List Int) := .sequence do
  let low ← .required .integer32
  let middle ← .required .integer32
  return [← .required .integer32, middle, low]

/-- A field of polynomials. Of the ways to give the polynomial two are known. -/
def binaryItem : Item CurveField :=
  Item.mapM? (.sequence do
    let degree ← .required .integer32
    let basis ← .required .identifier
    let middle ←
      if basis = Identifier.trinomial then (fun n => some [n]) <$> .required .integer
      else if basis = Identifier.pentanomial then some <$> .required pentanomialItem
      else (fun _ => none) <$> .required .any
    return middle.map fun middle => degree :: middle ++ [0])
    fun exponents => exponents.bind binaryField?

/-- A field. -/
def fieldItem : Item CurveField :=
  Item.mapM? (.sequence do
    let kind ← .required .identifier
    if kind = Identifier.primeField then return primeField? (← .required .integer)
    else if kind = Identifier.binaryField then return some (← .required binaryItem)
    else
      let _ ← .required .any
      return none) id

/-- The two coefficients of an equation, and perhaps the seed that they were drawn from, which does
not count. -/
def equationItem : Item (Bytes × Bytes) := .sequence do
  let a ← .required .octets
  let b ← .required .octets
  let _ ← .optionalLast .bits
  return (a, b)

/-- A coefficient as an element of a field. -/
def coefficient (field : CurveField) (bytes : Bytes) : Nat :=
  let n := Bytes.toNat bytes
  match field with
  | .prime p => n % p
  | .binary modulus => BinaryField.reduce modulus (bitLength n + 1) n

/-- The curve of parameters, if the point to count from is one of its points. -/
def curve? (field : CurveField) (a b base : Bytes) (order : Int) (cofactor : Option Int) :
    Option Curve := do
  guard (0 < order && bitLength order.toNat ≤ field.bits + 1 && cofactor.all (0 ≤ ·))
  let curve : Curve := {
    identifier := none
    field
    a := coefficient field a
    b := coefficient field b
    x := 0
    y := 0
    order := order.toNat
    cofactor := 0 }
  match curve.readPoint? base with
  | some (some (x, y)) =>
    let given := (cofactor.map Int.toNat).filter (0 < ·)
    return { curve with x, y, cofactor := given.getD curve.likelyCofactor }
  | _ => none

/-- All parameters of a curve. -/
def explicitItem : Item Curve :=
  Item.mapM? (.sequence do
    let _ ← .required .integer32
    let field ← .required fieldItem
    let (a, b) ← .required equationItem
    let base ← .required .octets
    let order ← .required .integer
    let cofactor ← .optionalLast .integer
    return (curve? field a b base order cofactor).map Curve.ofParameters) id

/-- A curve by its identifier or by its parameters. -/
def item : Item Curve := .choice [Item.identifier.mapM? Curve.ofIdentifier?, explicitItem]

/-- The curve that the parameters of an algorithm tell. -/
def ofAlgorithm? (algorithm : Algorithm) : Option Curve := do
  let value ← algorithm.parameters
  if value.isOf typeIdentifier then Curve.ofIdentifier? value.bytes
  else algorithm.decode? item

end TlsListener.CurveParameters
