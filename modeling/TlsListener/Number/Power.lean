/-!
# Powers of two and of ten

The powers that number formats are made of: those of two for bits, those of ten for digits.
-/

namespace TlsListener

/-- A power of two. -/
def twoTo (n : Nat) : Nat := Nat.pow 2 n

/-- A power of ten. -/
def tenTo (n : Nat) : Nat := Nat.pow 10 n

end TlsListener
