import TlsListener.Encoding.Ber.Value
import TlsListener.Identity.DigestAlgorithm

/-!
# Parameters of RSA signatures with a salt

Keys and signatures of this kind name a digest, a digest for the mask, the length of the salt, and a
number that has to be one. Each may be left out, and then is the one that is common.
-/

namespace TlsListener

/-- The parameters, as far as they are given. -/
structure PssParameters where
  digest : Option Ber.Algorithm
  maskDigest : Option Ber.Algorithm
  saltLength : Option Int
  trailer : Option Int

namespace PssParameters

open Ber

/-- The digest of the only known way to make a mask. -/
def maskDigestOf? (mask : Algorithm) : Option Algorithm := do
  guard (mask.name = Identifier.maskGeneration)
  mask.decode? Algorithm.item

/-- The reader of parameters. -/
def item : Item PssParameters := .sequence do
  let digest ← .optional (.explicit 0 Algorithm.item)
  let maskDigest ← .optional (.explicit 1 (Algorithm.item.mapM? maskDigestOf?))
  let saltLength ← .optional (.explicit 2 .integer)
  return ⟨digest, maskDigest, saltLength, ← .optionalLast (.explicit 3 .integer)⟩

/-- The identifier of a digest; SHA-1 where there is none. -/
def digestName (digest : Option Algorithm) : Bytes :=
  (digest.map Algorithm.name).getD Digest.sha1Identifier

/-- Whether both digests are known. -/
def hasKnownDigests (parameters : PssParameters) : Bool :=
  (Digest.sizeOf? (digestName parameters.digest)).isSome &&
    (Digest.sizeOf? (digestName parameters.maskDigest)).isSome

/-- Whether a signature can have the parameters. -/
def areValid (parameters : PssParameters) : Bool :=
  parameters.hasKnownDigests && parameters.saltLength.all (0 ≤ ·) &&
    parameters.trailer.all (· = 1)

end PssParameters

end TlsListener
