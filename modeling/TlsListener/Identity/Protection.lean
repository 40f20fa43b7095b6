import TlsListener.Crypto.Scrypt
import TlsListener.Encoding.Ber.Value
import TlsListener.Identity.CipherAlgorithm
import TlsListener.Identity.DigestAlgorithm
import TlsListener.Identity.Passphrase

/-!
# Contents protected by a password

Private keys and the contents of archives may be encrypted under a key made from a password. An
algorithm with its parameters tells how the key is made and which cipher is used; the newer
algorithms name both apart, the older ones as one.
-/

namespace TlsListener.Protection

open Ber

/-- Parameters of the derivation that iterates a keyed digest. -/
structure IteratedParameters where
  salt : Value
  iterations : Int
  length : Option Int
  keyedDigest : Option Algorithm

/-- The reader of parameters of the derivation that iterates a keyed digest. -/
def IteratedParameters.item : Item IteratedParameters := .sequence do
  let salt ← .required .any
  let iterations ← .required .integer
  let length ← .optional .integer
  return ⟨salt, iterations, length, ← .optionalLast Algorithm.item⟩

namespace IteratedParameters

/-- The digest, by default SHA-1. -/
def digest? (parameters : IteratedParameters) : Option Digest :=
  match parameters.keyedDigest with
  | none => some .sha1
  | some algorithm => Digest.ofKeyedIdentifier? algorithm.name

/-- Key bytes of the given number, if the parameters can be used. -/
def derive? (parameters : IteratedParameters) (password : Bytes) (length : Nat) :
    Option Bytes := do
  let digest ← parameters.digest?
  guard (parameters.salt.isOf typeOctets)
  let iterations := narrow parameters.iterations
  guard (1 ≤ iterations)
  return KeyDerivation.pbkdf2 digest password parameters.salt.bytes iterations.toNat length

end IteratedParameters

/-- Parameters of the derivation that takes memory: the salt, how it is used, and the length of the
key. -/
def memoryItem : Item (Bytes × List Int × Option Int) := .sequence do
  let salt ← .required .octets
  let cost ← .required .integer
  let blockSize ← .required .integer
  let parallelism ← .required .integer
  return (salt, [cost, blockSize, parallelism], ← .optionalLast .integer)

/-- Key bytes by the derivation that takes memory. -/
def deriveWithMemory? (algorithm : Algorithm) (password : Bytes) (length : Nat) :
    Option Bytes := do
  let (salt, numbers, given) ← algorithm.decode? memoryItem
  guard (given.all (· = (length : Int)) && numbers.all (0 ≤ ·))
  let [cost, blockSize, parallelism] := numbers.map Int.toNat | none
  let parameters : Scrypt.Parameters := ⟨cost, blockSize, parallelism⟩
  guard parameters.areValid
  return Scrypt.derive parameters password salt length

/-- Key bytes by the derivation that an algorithm names. -/
def derive? (algorithm : Algorithm) (password : Bytes) (length : Nat) : Option Bytes :=
  if algorithm.name = Identifier.pbkdf2 then do
    let parameters ← algorithm.decode? IteratedParameters.item
    guard (parameters.length.all (· = (length : Int)))
    parameters.derive? password length
  else if algorithm.name = Identifier.scrypt then deriveWithMemory? algorithm password length
  else none

/-- A derivation and a cipher. -/
def namedItem : Item (Algorithm × Algorithm) := .sequence do
  return (← .required Algorithm.item, ← .required Algorithm.item)

/-- The initial vector that parameters are; without any it is zero. -/
def initialVector? (cipher : Cipher) : Option Value → Option Bytes
  | none => some (List.replicate cipher.vectorSize 0)
  | some value =>
    if value.isOf typeOctets && value.bytes.length = cipher.vectorSize then some value.bytes
    else none

/-- Decrypt where the algorithm names a derivation and a cipher. -/
def decryptNamed? (algorithm : Algorithm) (password data : Bytes) : Option Bytes := do
  let (derivation, scheme) ← algorithm.decode? namedItem
  let cipher ← Cipher.ofIdentifier? scheme.name
  let initialVector ← initialVector? cipher scheme.parameters
  let key ← derive? derivation password cipher.keySize
  cipher.decrypt key initialVector data

/-- The parameters of the derivation of archives. -/
def archivedItem : Item (Bytes × Int) := .sequence do
  return (← .required .octets, ← .required .integer)

/-- Decrypt where the algorithm is a cipher together with the derivation of archives. -/
def decryptArchived? (cipher : Cipher) (algorithm : Algorithm) (password data : Bytes) :
    Option Bytes := do
  let (salt, iterations) ← algorithm.decode? archivedItem
  let iterations := narrow iterations
  guard (0 ≤ iterations)
  let derive := fun purpose =>
    KeyDerivation.archive .sha1 purpose password salt iterations.toNat
  cipher.decrypt (derive .key cipher.keySize) (derive .initialVector cipher.vectorSize) data

/-- Decrypt data under a password with the given algorithm. There is no result to an algorithm that
is not known, to parameters that it does not take, and to a wrong password. -/
def decrypt? (algorithm : Algorithm) (passphrase : Passphrase) (data : Bytes) : Option Bytes :=
  if algorithm.name = Identifier.pbes2 then decryptNamed? algorithm passphrase.bytes data
  else if algorithm.name = Identifier.sha1WithTripleDes then
    decryptArchived? (.ofBlockCipher (.tripleDes 3) .chained) algorithm passphrase.wide data
  else if algorithm.name = Identifier.sha1WithDoubleDes then
    decryptArchived? (.ofBlockCipher (.tripleDes 2) .chained) algorithm passphrase.wide data
  else none

end TlsListener.Protection
