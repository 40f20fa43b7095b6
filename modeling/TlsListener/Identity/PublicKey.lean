import TlsListener.Identity.CurveParameters
import TlsListener.Identity.PssParameters

/-!
# Public keys

The public keys that a listener may present, read from the algorithm and the bits with which a
certificate gives them, whether two of them are the same, and how strong each is.
-/

namespace TlsListener

/-- A public key. -/
inductive PublicKey where
  | rsa (modulus exponent : Nat)
  /-- An RSA key for signatures with a salt only. -/
  | rsaPss (modulus exponent : Nat)
  | dsa (p q g y : Nat)
  | ec (curve : Curve) (point : Curve.Point)
  | ed25519 (key : Bytes)
  | ed448 (key : Bytes)
  | x25519 (key : Bytes)
  | x448 (key : Bytes)
  /-- A key of another kind, or one that cannot be read. -/
  | unknown
  deriving DecidableEq, Repr

/-- The kinds of keys that make signatures. -/
inductive SignerKind where
  | rsa | rsaPss | dsa | ec | ed25519 | ed448
  deriving DecidableEq, Repr

/-- The numbers that DSA keys share. -/
structure DsaParameters where
  p : Nat
  q : Nat
  g : Nat

/-- The reader of the numbers that DSA keys share. -/
def DsaParameters.item : Ber.Item DsaParameters := .sequence do
  return ⟨← .required .magnitude, ← .required .magnitude, ← .required .magnitude⟩

namespace PublicKey

open Ber

/-- An RSA key. -/
def rsaItem : Item (Nat × Nat) := .sequence do
  return (← .required .magnitude, ← .required .magnitude)

/-- Whether an algorithm has parameters that a key for signatures with a salt may have. -/
def hasPssParameters (algorithm : Algorithm) : Bool :=
  algorithm.parameters.isNone ||
    (algorithm.decode? PssParameters.item).any PssParameters.hasKnownDigests

/-- The key of a given length that an algorithm without parameters and some bytes give. -/
def fixedKey? (algorithm : Algorithm) (size : Nat) (bytes : Bytes) : Option Bytes := do
  guard (algorithm.parameters.isNone && bytes.length = size)
  return bytes

/-- The key that an algorithm and some bytes give. -/
def read? (algorithm : Algorithm) (bytes : Bytes) : Option PublicKey :=
  if algorithm.name = Identifier.rsaKey then do
    let (modulus, exponent) ← rsaItem.decode? bytes
    return rsa modulus exponent
  else if algorithm.name = Identifier.rsaPssKey then do
    let (modulus, exponent) ← rsaItem.decode? bytes
    guard (hasPssParameters algorithm)
    return rsaPss modulus exponent
  else if algorithm.name = Identifier.dsaKey then do
    let parameters ← algorithm.decode? DsaParameters.item
    let y ← Item.integer.decode? bytes
    return dsa parameters.p parameters.q parameters.g y.toNat
  else if algorithm.name = Identifier.ecKey then do
    let curve ← CurveParameters.ofAlgorithm? algorithm
    return ec curve (← curve.readPoint? bytes)
  else if algorithm.name = Identifier.ed25519 then ed25519 <$> fixedKey? algorithm 32 bytes
  else if algorithm.name = Identifier.ed448 then ed448 <$> fixedKey? algorithm 57 bytes
  else if algorithm.name = Identifier.x25519 then x25519 <$> fixedKey? algorithm 32 bytes
  else if algorithm.name = Identifier.x448 then x448 <$> fixedKey? algorithm 56 bytes
  else none

/-- Whether two keys are the same. No key is the same as one that cannot be read. -/
def isSame : PublicKey → PublicKey → Bool
  | unknown, _ => false
  | ec curve point, ec curve' point' => curve.isSame curve' && point == point'
  | first, second => first == second

/-- The curve of keys that are for signatures of a kind of their own. -/
def sm2Curve : Bytes := Identifier.ofPath NamedCurve.sm2.path

/-- The kind of signatures that a listener makes with a key. -/
def signerKind? : PublicKey → Option SignerKind
  | rsa _ _ => some .rsa
  | rsaPss _ _ => some .rsaPss
  | dsa _ _ _ _ => some .dsa
  | ec curve _ => if curve.identifier = some sm2Curve then none else some .ec
  | ed25519 _ => some .ed25519
  | ed448 _ => some .ed448
  | x25519 _ | x448 _ | unknown => none

/-- From how many bits of the modulus on an RSA key has which strength. -/
def rsaStrengths : List (Nat × Nat) := [
  (16, 8), (41, 16), (81, 24), (138, 32), (213, 40), (308, 48), (425, 56), (566, 64), (729, 72),
  (920, 80), (1137, 88), (1383, 96), (1657, 104), (1963, 112), (2301, 120), (2671, 128),
  (3076, 136), (3514, 144), (3991, 152), (4502, 160), (5054, 168), (5642, 176), (6274, 184),
  (6947, 192), (7681, 200), (8418, 208), (9216, 216), (10064, 224), (10953, 232), (11893, 240),
  (12877, 248), (13914, 256)]

/-- From how many bits of the modulus on a DSA key has which strength. -/
def dsaStrengths : List (Nat × Nat) :=
  [(1024, 80), (2048, 112), (3072, 128), (7680, 192), (15360, 256)]

/-- From how many bits of the order on a key on a curve has which strength. -/
def ecStrengths : List (Nat × Nat) := [(160, 80), (224, 112), (256, 128), (384, 192), (512, 256)]

/-- The strength that a table gives for a size, if the size is in it. -/
def strengthOf? (table : List (Nat × Nat)) (size : Nat) : Option Nat :=
  table.foldl (fun found (least, strength) =>
    if least ≤ size then some strength else found) none

/-- The strength of a key in bits: the bits of a cipher that is as hard to break. -/
def strength : PublicKey → Nat
  | rsa modulus _ | rsaPss modulus _ => (strengthOf? rsaStrengths (bitLength modulus)).getD 0
  | dsa p q _ _ =>
    let half := bitLength q / 2
    if half < 80 then 0 else Nat.min half ((strengthOf? dsaStrengths (bitLength p)).getD 0)
  | ec curve _ =>
    (strengthOf? ecStrengths (bitLength curve.order)).getD (bitLength curve.order / 2)
  | ed25519 _ => 128
  | ed448 _ => 224
  | x25519 _ | x448 _ | unknown => 0

end PublicKey

end TlsListener
