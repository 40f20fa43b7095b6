import TlsListener.Identity.CertificateReader
import TlsListener.Identity.PrivateKey

/-!
# Signed and enveloped messages

Contents in an archive may be messages that are signed, enveloped for recipients, or digested. None
of these can be opened with a password, so nothing in them counts; but a message that is not
well-formed makes the archive that holds it unreadable.
-/

namespace TlsListener.Message

open Ber

/-- The kinds of messages that have a form of their own. -/
inductive Kind where
  | signed | enveloped | signedAndEnveloped | digested
  deriving DecidableEq, Repr

/-- The kind of messages of an identifier. -/
def Kind.ofIdentifier? (identifier : Bytes) : Option Kind :=
  [(Identifier.signedData, signed), (Identifier.envelopedData, enveloped),
    (Identifier.signedAndEnvelopedData, signedAndEnveloped),
    (Identifier.digestedData, digested)].lookup identifier

/-- An encrypted part: its kind, the algorithm, and the encrypted bytes. -/
def encryptedPartItem : Item (Algorithm × Option Bytes) := .sequence do
  let _ ← .required .identifier
  let algorithm ← .required Algorithm.item
  return (algorithm, ← .optionalLast (.implicit 0 .octets))

/-- A certificate by its issuer and its serial number. -/
def referenceItem : Item Unit := .sequence do
  let _ ← .required DistinguishedName.item
  let _ ← .required .integer

/-- What is told of one signer. -/
def signerItem : Item Unit := .sequence do
  let _ ← .required .integer
  let _ ← .required referenceItem
  let _ ← .required Algorithm.item
  let _ ← .optional (.implicit 0 (.sequenceOf PrivateKey.attributeItem))
  let _ ← .required Algorithm.item
  let _ ← .required .octets
  let _ ← .optionalLast (.implicit 1 (.setOf PrivateKey.attributeItem))

/-- What is told of one recipient. -/
def recipientItem : Item Unit := .sequence do
  let _ ← .required .integer
  let _ ← .required referenceItem
  let _ ← .required Algorithm.item
  let _ ← .required .octets

/-- A certificate that has been revoked. -/
def revokedItem : Item Unit := .sequence do
  let _ ← .required .integer
  let _ ← .required Certificate.timeItem
  let _ ← .optionalLast (.sequenceOf Certificate.Extension.item)

/-- The part of a list of revoked certificates that is signed. -/
def revocationBodyItem : Item Unit := .sequence do
  let _ ← .optional .integer
  let _ ← .required Algorithm.item
  let _ ← .required DistinguishedName.item
  let _ ← .required Certificate.timeItem
  let _ ← .optional Certificate.timeItem
  let _ ← .optional (.sequenceOf revokedItem)
  let _ ← .optionalLast (.explicit 0 (.sequenceOf Certificate.Extension.item))

/-- A list of revoked certificates. -/
def revocationItem : Item Unit := .sequence do
  let _ ← .required revocationBodyItem
  let _ ← .required Algorithm.item
  let _ ← .required .bits

/-- The certificates, the lists of revoked ones, and the signers, with which a message ends. -/
def signatures : Fields Unit := do
  let _ ← .optional (.implicit 0 (.sequenceOf Certificate.item))
  let _ ← .optional (.implicit 1 (.setOf revocationItem))
  let _ ← .required (.setOf signerItem)

/-- The reader of messages of a kind, given the reader of contents with their kind. -/
def item (contents : Item α) : Kind → Item Unit
  | .signed => .sequence do
    let _ ← .required .integer
    let _ ← .required (.setOf Algorithm.item)
    let _ ← .required contents
    signatures
  | .enveloped => .sequence do
    let _ ← .required .integer
    let _ ← .required (.setOf recipientItem)
    let _ ← .required encryptedPartItem
  | .signedAndEnveloped => .sequence do
    let _ ← .required .integer
    let _ ← .required (.setOf recipientItem)
    let _ ← .required (.setOf Algorithm.item)
    let _ ← .required encryptedPartItem
    signatures
  | .digested => .sequence do
    let _ ← .required .integer
    let _ ← .required Algorithm.item
    let _ ← .required contents
    let _ ← .required .octets

end TlsListener.Message
