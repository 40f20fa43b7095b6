import TlsListener.Crypto.Curve.Basic
import TlsListener.Encoding.Identifier

/-!
# Curves with names

A known curve has an identifier, by which keys name it. Keys may also give all parameters of a
curve; where these are the parameters of a known curve, that curve is meant, whatever cofactor is
given with them.
-/

namespace TlsListener

/-- A known curve. -/
structure NamedCurve where
  /-- The path of its identifier. -/
  path : List Nat
  field : CurveField
  a : Nat
  b : Nat
  x : Nat
  y : Nat
  order : Nat
  cofactor : Nat := 1

namespace NamedCurve

/-- A number in pieces of 256 bits. -/
def wide (pieces : List Nat) : Nat :=
  pieces.foldl (fun n piece => (n <<< 256) + piece) 0

/-- The curve. -/
def curve (named : NamedCurve) : Curve where
  identifier := some (Identifier.ofPath named.path)
  field := named.field
  a := named.a
  b := named.b
  x := named.x
  y := named.y
  order := named.order
  cofactor := named.cofactor

/-- Whether parameters are those of a known curve. -/
def isGivenBy (named : NamedCurve) (parameters : Curve) : Bool :=
  let likely := parameters.likelyCofactor
  { parameters with identifier := none, cofactor := 0 } ==
      { named.curve with identifier := none, cofactor := 0 } &&
    (likely == 0 || likely == named.cofactor)

end NamedCurve

end TlsListener
