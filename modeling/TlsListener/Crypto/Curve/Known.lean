import TlsListener.Crypto.Curve.Binary
import TlsListener.Crypto.Curve.Prime
import TlsListener.Crypto.Curve.Regional

/-!
# The known curves

All curves that keys may name, and the look-up of a curve by its identifier or by its parameters.
Where several known curves have the same parameters, the first of them is meant.
-/

namespace TlsListener

/-- The known curves. -/
def NamedCurve.all : List NamedCurve := primeCurves ++ binaryCurves ++ regionalCurves

namespace Curve

/-- The curve of an identifier. -/
def ofIdentifier? (identifier : Bytes) : Option Curve :=
  (NamedCurve.all.find? fun named => Identifier.ofPath named.path == identifier).map
    NamedCurve.curve

/-- The known curve that parameters give, or else the curve of the parameters. -/
def ofParameters (parameters : Curve) : Curve :=
  ((NamedCurve.all.find? fun named => named.isGivenBy parameters).map
    NamedCurve.curve).getD parameters

end Curve

end TlsListener
