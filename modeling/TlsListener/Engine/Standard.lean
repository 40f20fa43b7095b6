import TlsListener.Engine
import TlsListener.Engine.Suite.Selection

/-!
# The standard engine

An engine in full: it reads PEM texts and PKCS#12 archives, tells keys apart by their public halves,
knows a fixed set of cipher suites, and refuses certificates whose key or signature is weaker than
its level of security asks for.
-/

namespace TlsListener.Engine

/-- Whether a certificate is strong enough for a level of security. Nothing rests on the signature
of a certificate that is signed with its own key. -/
def isStrongEnough (level : Nat) (certificate : Certificate) : Bool :=
  level = 0 || (Suite.minStrength level ≤ certificate.publicKey.strength &&
    (certificate.isSelfSigned || Suite.minStrength level ≤ certificate.signatureStrength))

/-- Whether a listener can make signatures with a key. -/
def canSign (key : PublicKey) : Bool := key.signerKind?.isSome

/-- The standard engine. -/
def standard : Engine where
  certificates bytes := Certificate.ofBlocks? (Pem.blocks bytes.toList)
  privateKey bytes password := PrivateKey.ofBlocks? password (Pem.blocks bytes.toList)
  archive bytes := Archive.open? <$> Archive.read? bytes.toList
  belongs key certificate := key.publicKey.isSame certificate.publicKey
  suiteName := Suite.engineName
  acceptsList := Suite.acceptsList
  acceptsSuites := Suite.acceptsSuites
  acceptsKey key := canSign key.publicKey
  acceptsLeaf list certificate :=
    canSign certificate.publicKey && isStrongEnough (Suite.level list) certificate
  acceptsAnchor _ := true

end TlsListener.Engine
