import TlsListener.Crypto.Edwards

/-!
# Montgomery curves

Curves on which a multiple of a point is computed from its first coordinate alone. The public key
that belongs to a private one is such a multiple of a base point.
-/

namespace TlsListener

/-- A curve of equation `y² = x³ + ax² + x`, and how keys are written for it. -/
structure Montgomery where
  p : Nat
  /-- A quarter of `a - 2`. -/
  quarter : Nat
  /-- The first coordinate of the base point. -/
  x : Nat
  /-- The number of bytes of a key. -/
  keySize : Nat
  topBit : Nat
  cofactor : Nat

namespace Montgomery

/-- The curve of X25519. -/
def x25519 : Montgomery := ⟨twoTo 255 - 19, 121665, 9, 32, 254, 8⟩

/-- The curve of X448. -/
def x448 : Montgomery := ⟨twoTo 448 - twoTo 224 - 1, 39081, 5, 56, 447, 4⟩

/-- The first coordinates of two successive multiples, each with a divisor. -/
structure Ladder where
  x₂ : Nat
  z₂ : Nat
  x₃ : Nat
  z₃ : Nat

/-- The ladder with its two sides exchanged. -/
def Ladder.swap (l : Ladder) : Ladder := ⟨l.x₃, l.z₃, l.x₂, l.z₂⟩

/-- One step: the first side is doubled, the second becomes the sum of both. -/
def step (curve : Montgomery) (l : Ladder) : Ladder :=
  let p := curve.p
  let a := (l.x₂ + l.z₂) % p
  let b := (l.x₂ + p - l.z₂) % p
  let aa := a * a % p
  let bb := b * b % p
  let e := (aa + p - bb) % p
  let da := (l.x₃ + p - l.z₃) * a % p
  let cb := (l.x₃ + l.z₃) * b % p
  let sum := (da + cb) % p
  let difference := (da + p - cb) % p
  ⟨aa * bb % p, e * ((aa + curve.quarter * e) % p) % p, sum * sum % p,
    curve.x * (difference * difference % p) % p⟩

/-- Climb the ladder, over the given number of bits of the factor, highest first. -/
def climb (curve : Montgomery) (factor : Nat) : Nat → Ladder → Ladder
  | 0, l => l
  | bit + 1, l =>
    climb curve factor bit
      (if factor.testBit bit then (curve.step l.swap).swap else curve.step l)

/-- The public key of a private key. -/
def publicKey (curve : Montgomery) (key : Bytes) : Bytes :=
  let number := Edwards.secretNumber curve.topBit curve.cofactor key
  let l := curve.climb number (curve.topBit + 1) ⟨1, 0, curve.x, 1⟩
  Bytes.ofNatReversed curve.keySize (l.x₂ * inverseMod curve.p l.z₂ % curve.p)

end Montgomery

end TlsListener
