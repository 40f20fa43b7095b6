import TlsListener.Crypto.Bytes

/-!
# The fields of 256 elements

A byte stands for a polynomial over the field of two elements, and products are taken modulo a
polynomial of degree eight, which is given by what remains of `x⁸`. Ciphers make their substitutions
of bytes from powers in such a field and from maps that are linear in the bits.
-/

namespace TlsListener.Field256

/-- A field element times the polynomial `x`. -/
def double (remainder a : UInt8) : UInt8 :=
  (a <<< 1) ^^^ (if 0x80 ≤ a then remainder else 0)

/-- The product of field elements, over the given number of bits of the second. -/
def mulBits (remainder a : UInt8) : Nat → UInt8 → UInt8
  | 0, _ => 0
  | count + 1, b =>
    (if b &&& 1 = 1 then a else 0) ^^^ double remainder (mulBits remainder a count (b >>> 1))

/-- The product of field elements. -/
def mul (remainder a b : UInt8) : UInt8 := mulBits remainder a 8 b

/-- A power of a field element. -/
def power (remainder a : UInt8) : Nat → UInt8
  | 0 => 1
  | count + 1 => mul remainder a (power remainder a count)

/-- The inverse of a field element, which is its 254th power. -/
def inverse (remainder a : UInt8) : UInt8 := power remainder a 254

/-- A map that is linear in the bits, given by the images of the single bits, the least significant
first. -/
def linear (images : List UInt8) (a : UInt8) : UInt8 :=
  images.zipIdx.foldl (fun sum (image, bit) =>
    if a.toNat.testBit bit then sum ^^^ image else sum) 0

/-- A substitution of bytes, as the bytes put in place of all bytes, in order. -/
abbrev Substitution := Array UInt8

namespace Substitution

/-- The substitution that a function makes. -/
def ofFunction (f : UInt8 → UInt8) : Substitution :=
  (Array.range 256).map fun n => f n.toUInt8

/-- The byte put in place of another. -/
def apply (substitution : Substitution) (b : UInt8) : UInt8 :=
  substitution.getD b.toNat 0

/-- The substitution that undoes another. -/
def undone (substitution : Substitution) : Substitution :=
  .ofFunction fun b => (substitution.idxOf b).toUInt8

end Substitution

end TlsListener.Field256
