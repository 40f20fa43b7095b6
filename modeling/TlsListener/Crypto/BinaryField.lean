import TlsListener.Crypto.Modular

/-!
# Binary fields

The elements of a field with a power of two of elements are polynomials over the field of two
elements, kept as numbers whose bits are the coefficients. Sums combine bits; products are taken
modulo a polynomial.
-/

namespace TlsListener.BinaryField

/-- The polynomial with the given exponents. -/
def polynomial (exponents : List Nat) : Nat :=
  exponents.foldl (fun sum exponent => sum ^^^ (1 <<< exponent)) 0

/-- The degree of a polynomial. -/
def degree (a : Nat) : Nat := a.log2

/-- An element times the polynomial `x`. -/
def double (modulus a : Nat) : Nat :=
  let twice := a <<< 1
  if twice.testBit (degree modulus) then twice ^^^ modulus else twice

/-- The product of two elements, over the given number of bits of the second, highest first, added
to the product over the bits before. -/
def mulBits (modulus a b : Nat) : Nat → Nat → Nat
  | 0, sum => sum
  | bit + 1, sum =>
    let sum := double modulus sum
    mulBits modulus a b bit (if b.testBit bit then sum ^^^ a else sum)

/-- The product of two elements. -/
def mul (modulus a b : Nat) : Nat := mulBits modulus a b (degree modulus) 0

/-- The square of an element. -/
def square (modulus a : Nat) : Nat := mul modulus a a

/-- Euclid's algorithm on two polynomials, each of which is a multiple of one element; the factor of
the one that comes to be one. Every step lowers a degree. -/
def euclid (modulus : Nat) : Nat → Nat → Nat → Nat → Nat → Nat
  | 0, _, _, factor, _ => factor
  | fuel + 1, u, v, factor, factor' =>
    if u ≤ 1 then factor
    else
      let (u, v, factor, factor') :=
        if degree u < degree v then (v, u, factor', factor) else (u, v, factor, factor')
      let shift := degree u - degree v
      euclid modulus fuel (u ^^^ (v <<< shift)) v (factor ^^^ (factor' <<< shift)) factor'

/-- A polynomial less its multiples of another. -/
def reduce (modulus : Nat) : Nat → Nat → Nat
  | 0, a => a
  | fuel + 1, a =>
    if a < modulus && degree a < degree modulus then a
    else reduce modulus fuel (a ^^^ (modulus <<< (degree a - degree modulus)))

/-- The inverse of an element other than zero. -/
def inverse (modulus a : Nat) : Nat :=
  let factor := euclid modulus (2 * degree modulus + 2) a modulus 1 0
  reduce modulus (2 * degree modulus + 2) factor

/-- An element squared again and again. -/
def squareTimes (modulus : Nat) : Nat → Nat → Nat
  | 0, a => a
  | count + 1, a => squareTimes modulus count (square modulus a)

/-- The square root of an element. -/
def root (modulus a : Nat) : Nat := squareTimes modulus (degree modulus - 1) a

/-- Sums of the powers of `a` and of `seed` that squaring gives. The second one comes to be the
trace of the seed; where that is one, the first one solves `z² + z = a` if anything does. -/
def traceSums (modulus a seed : Nat) : Nat → Nat → Nat → Nat × Nat
  | 0, z, w => (z, w)
  | count + 1, z, w =>
    let w := square modulus w
    traceSums modulus a seed count (square modulus z ^^^ mul modulus w a) (w ^^^ seed)

/-- A solution of `z² + z = a`, if there is one. The seed is the first monomial of trace one. -/
def solveQuadratic? (modulus a : Nat) : Option Nat := do
  let sums := fun seed => traceSums modulus a seed (degree modulus - 1) 0 seed
  let z ← (List.range (degree modulus)).findSome? fun exponent =>
    let (z, trace) := sums (1 <<< exponent)
    if trace = 0 then none else some z
  guard (square modulus z ^^^ z = a)
  return z

end TlsListener.BinaryField
