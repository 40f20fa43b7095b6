import TlsListener.Crypto.Digest.Basic
import TlsListener.Crypto.Modular
import TlsListener.Number.Power

/-!
# Twisted Edwards curves

Only the public key that belongs to a private one is needed: the digest of the private key gives a
number, and the public key is that multiple of a base point. Points have three coordinates, of which
the third divides the first two, so that sums need no inverse.
-/

namespace TlsListener

/-- A curve of equation `ax² + y² = 1 + dx²y²`, and how keys are written for it. -/
structure Edwards where
  p : Nat
  a : Nat
  d : Nat
  /-- The base point. -/
  x : Nat
  y : Nat
  /-- The number of bytes of a key. -/
  keySize : Nat
  /-- The digest of a private key, of twice its size. -/
  digest : Bytes → Bytes
  /-- The highest bit of the number that a private key stands for. -/
  topBit : Nat
  /-- What divides that number. -/
  cofactor : Nat

namespace Edwards

/-- The curve of Ed25519. -/
def ed25519 : Edwards where
  p := twoTo 255 - 19
  a := twoTo 255 - 20
  d := 0x52036cee2b6ffe738cc740797779e89800700a4d4141d8ab75eb4dca135978a3
  x := 0x216936d3cd6e53fec0a4e231fdd6dc5c692cc7609525a7b2c9562d608f25d51a
  y := 0x6666666666666666666666666666666666666666666666666666666666666658
  keySize := 32
  digest := Digest.sha512.hash
  topBit := 254
  cofactor := 8

/-- The curve of Ed448. -/
def ed448 : Edwards where
  p := twoTo 448 - twoTo 224 - 1
  a := 1
  d := twoTo 448 - twoTo 224 - 39082
  x := 0x4f1970c66bed0ded221d15a622bf36da9e146570470f1767ea6de324 * twoTo 224 +
    0xa3d3a46412ae1af72ab66511433b80e18b00938e2626a82bc70cc05e
  y := 0x693f46716eb6bc248876203756c9c7624bea73736ca3984087789c1e * twoTo 224 +
    0x05a0c2d73ad3ff1ce67c39c4fdbd132c4ed7c8ad9808795bf230fa14
  keySize := 57
  digest := Sha3.shake256 114
  topBit := 447
  cofactor := 4

/-- A point: `x`, `y`, and the common divisor of both. -/
structure Point where
  x : Nat
  y : Nat
  z : Nat

/-- The neutral point. -/
def Point.zero : Point := ⟨0, 1, 1⟩

/-- The sum of two points. -/
def add (curve : Edwards) (q r : Point) : Point :=
  let p := curve.p
  let a := q.z * r.z % p
  let b := a * a % p
  let c := q.x * r.x % p
  let d := q.y * r.y % p
  let e := curve.d * c % p * d % p
  let f := (b + p - e) % p
  let g := (b + e) % p
  let cross := ((q.x + q.y) * (r.x + r.y) + 2 * p - c - d) % p
  let difference := (d + p - curve.a * c % p) % p
  ⟨a * f % p * cross % p, a * g % p * difference % p, f * g % p⟩

/-- A multiple of a point, over the given number of bits of the factor. -/
def multiple (curve : Edwards) (point : Point) : Nat → Nat → Point
  | 0, _ => .zero
  | bits + 1, factor =>
    let half := curve.multiple (curve.add point point) bits (factor / 2)
    if factor % 2 = 1 then curve.add point half else half

/-- The number that bytes stand for as a secret: a multiple of a small power of two, of which one
bit is known to be the highest. -/
def secretNumber (topBit cofactor : Nat) (bytes : Bytes) : Nat :=
  Bytes.toNatReversed bytes % twoTo topBit / cofactor * cofactor + twoTo topBit

/-- The public key of a private key. The highest bit of the last byte tells whether the first
coordinate is odd. -/
def publicKey (curve : Edwards) (key : Bytes) : Bytes :=
  let number := secretNumber curve.topBit curve.cofactor ((curve.digest key).take curve.keySize)
  let point := curve.multiple ⟨curve.x, curve.y, 1⟩ (curve.topBit + 1) number
  let inverse := inverseMod curve.p point.z
  let x := point.x * inverse % curve.p
  let y := point.y * inverse % curve.p
  Bytes.ofNatReversed curve.keySize (y + x % 2 * twoTo (8 * curve.keySize - 1))

end Edwards

end TlsListener
