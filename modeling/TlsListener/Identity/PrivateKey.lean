import TlsListener.Crypto.Montgomery
import TlsListener.Identity.PublicKey

/-!
# Private keys

A private key is kept as its encoding together with the public key that belongs to it, which is all
that is asked of it here: whether it is the key of a certificate. Keys come in the encodings of
their own kinds and in a common one that names the kind.
-/

namespace TlsListener

/-- A private key: the public key that belongs to it, and its encoding. -/
structure PrivateKey where
  publicKey : PublicKey
  encoding : Bytes
  deriving DecidableEq, Repr

namespace PrivateKey

open Ber

/-- Read numbers that are not needed. -/
def skipMagnitudes : Nat → Fields Unit
  | 0 => pure ()
  | count + 1 => do
    let _ ← .required .magnitude
    skipMagnitudes count

/-- The numbers that go with a further prime of an RSA key. -/
def furtherPrimeItem : Item Unit := .sequence (skipMagnitudes 3)

/-- How many numbers of an RSA key are private. -/
def rsaSecrets : Nat := 6

/-- The version of an RSA key with further primes. -/
def versionWithPrimes : Int := 1

/-- An RSA key: a version, the modulus, the public exponent, and the numbers that are private.
Those of further primes may follow, and have to where the version says so. -/
def rsaItem : Item (Nat × Nat) := Item.mapM? (.sequence do
  let version ← .required .integer32
  let modulus ← .required .magnitude
  let exponent ← .required .magnitude
  skipMagnitudes rsaSecrets
  let primes ← .optionalLast (.sequenceOf furtherPrimeItem)
  return if version = versionWithPrimes && (primes.getD []).isEmpty then none
    else some (modulus, exponent)) id

/-- The RSA key that bytes begin with. -/
def readRsa? (encoding : Bytes) : Option PrivateKey := do
  let (modulus, exponent) ← rsaItem.decode? encoding
  return ⟨.rsa modulus exponent, encoding⟩

/-- A DSA key: a version, the numbers that keys share, the public number and the private one. -/
def dsaItem : Item PublicKey := .sequence do
  let _ ← .required .integer32
  let p ← .required .magnitude
  let q ← .required .magnitude
  let g ← .required .magnitude
  let y ← .required .magnitude
  let _ ← .required .magnitude
  return .dsa p q g y

/-- The DSA key that bytes begin with. -/
def readDsa? (encoding : Bytes) : Option PrivateKey := do
  return ⟨← dsaItem.decode? encoding, encoding⟩

/-- A key on a curve: a version, the private number, perhaps the curve and the public point. -/
def ecItem : Item (Bytes × Option Curve × Option Bytes) := .sequence do
  let _ ← .required .integer32
  let number ← .required .octets
  let curve ← .optional (.explicit 0 CurveParameters.item)
  return (number, curve, ← .optionalLast (.explicit 1 .bits))

/-- The key on a curve that bytes begin with. The curve may be known from elsewhere, and the public
point can be computed. -/
def readEc? (curve : Option Curve) (encoding : Bytes) : Option PrivateKey := do
  let (number, own, point) ← ecItem.decode? encoding
  let curve ← own <|> curve
  let point ← match point with
    | some bytes => curve.readPoint? bytes
    | none => some (curve.publicPoint (Bytes.toNat number))
  return ⟨.ec curve point, encoding⟩

/-- A key in the common encoding: the algorithm, and the encoding of its own kind. -/
structure Info where
  algorithm : Algorithm
  encoding : Bytes

/-- An attribute of a key. -/
def attributeItem : Item Unit := .sequence do
  let _ ← .required .identifier
  let _ ← .required (.setOf .any)

/-- The reader of keys in the common encoding. Attributes may follow, and in version one the public
key. -/
def Info.item : Item Info := Item.mapM? (.sequence do
  let version ← .required .integer
  let algorithm ← .required Algorithm.item
  let encoding ← .required .octets
  let _ ← .optional (.implicit 0 (.setOf attributeItem))
  let publicBits ← .optionalLast (.implicit 1 .bits)
  let version := narrow version
  return if version = 1 || version = 0 && publicBits.isNone then some ⟨algorithm, encoding⟩
    else none) id

namespace Info

/-- A key whose encoding is a string of bytes of a given length. -/
def fixed? (info : Info) (size : Nat) (publicKey : Bytes → PublicKey) : Option PrivateKey := do
  guard info.algorithm.parameters.isNone
  let key ← Item.octets.decode? info.encoding
  guard (key.length = size)
  return ⟨publicKey key, info.encoding⟩

/-- An RSA key for signatures with a salt only. -/
def rsaPss? (info : Info) : Option PrivateKey := do
  let (modulus, exponent) ← rsaItem.decode? info.encoding
  guard (PublicKey.hasPssParameters info.algorithm)
  return ⟨.rsaPss modulus exponent, info.encoding⟩

/-- A DSA key: the private number alone. -/
def dsa? (info : Info) : Option PrivateKey := do
  let ⟨p, q, g⟩ ← info.algorithm.decode? DsaParameters.item
  let number ← Item.integer.decode? info.encoding
  guard (0 ≤ number && p ≠ 0)
  return ⟨.dsa p q g (powerMod p g number.toNat), info.encoding⟩

/-- The key. -/
def key? (info : Info) : Option PrivateKey :=
  let name := info.algorithm.name
  if name = Identifier.rsaKey then readRsa? info.encoding
  else if name = Identifier.rsaPssKey then info.rsaPss?
  else if name = Identifier.dsaKey then info.dsa?
  else if name = Identifier.ecKey then do
    readEc? (some (← CurveParameters.ofAlgorithm? info.algorithm)) info.encoding
  else if name = Identifier.ed25519 then
    info.fixed? 32 fun key => .ed25519 (Edwards.ed25519.publicKey key)
  else if name = Identifier.ed448 then
    info.fixed? 57 fun key => .ed448 (Edwards.ed448.publicKey key)
  else if name = Identifier.x25519 then
    info.fixed? 32 fun key => .x25519 (Montgomery.x25519.publicKey key)
  else if name = Identifier.x448 then
    info.fixed? 56 fun key => .x448 (Montgomery.x448.publicKey key)
  else none

end Info

/-- The key in the common encoding that bytes begin with. -/
def read? (encoding : Bytes) : Option PrivateKey :=
  Info.item.decode? encoding >>= Info.key?

end PrivateKey

end TlsListener
