import TlsListener.Encoding.Pem
import TlsListener.Identity.Certificate
import TlsListener.Identity.SignatureAlgorithm

/-!
# Reading certificates

A certificate is read from its encoding. Its extensions tell further names of the subject, and
identifiers of its own key and of the key that it is signed with; an extension counts for nothing if
it cannot be read or occurs twice. A certificate is signed with its own key, as far as it tells, if
subject and issuer have the same name, what it says about the other key fits its own, and its key
suits the algorithm of the signature.
-/

namespace TlsListener.Certificate

open Ber

/-- An extension: its kind and its value. -/
structure Extension where
  kind : Bytes
  value : Bytes

/-- The reader of extensions. -/
def Extension.item : Item Extension := .sequence do
  let kind ← .required .identifier
  let _ ← .optional .boolean
  return ⟨kind, ← .required .octets⟩

/-- The value of the extension of a kind, if there is just one and it can be read. -/
def extension? (extensions : List Extension) (kind : Bytes) (item : Item α) : Option α :=
  match extensions.filter fun extension => extension.kind == kind with
  | [extension] => item.decode? extension.value
  | _ => none

/-- The part of a certificate that is signed. -/
structure Body where
  serial : Int
  signature : Algorithm
  issuer : DistinguishedName
  subject : DistinguishedName
  keyAlgorithm : Algorithm
  keyBits : Bytes
  extensions : List Extension

/-- A point in time. -/
def timeItem : Item Value := .ofTypes [typeShortTime, typeLongTime]

/-- From when until when a certificate is valid. -/
def validityItem : Item Unit := .sequence do
  let _ ← .required timeItem
  let _ ← .required timeItem

/-- A public key. -/
def keyItem : Item (Algorithm × Bytes) := .sequence do
  return (← .required Algorithm.item, ← .required .bits)

/-- The reader of the part that is signed. -/
def Body.item : Item Body := .sequence do
  let _ ← .optional (.explicit 0 .integer)
  let serial ← .required .integer
  let signature ← .required Algorithm.item
  let issuer ← .required DistinguishedName.item
  let _ ← .required validityItem
  let subject ← .required DistinguishedName.item
  let (keyAlgorithm, keyBits) ← .required keyItem
  let _ ← .optional (.implicit 1 .bits)
  let _ ← .optional (.implicit 2 .bits)
  let extensions ← .optionalLast (.explicit 3 (.sequenceOf Extension.item))
  return ⟨serial, signature, issuer, subject, keyAlgorithm, keyBits, extensions.getD []⟩

/-- What a certificate says about the key that it is signed with: the identifier of the key, and the
issuer and the serial number of the certificate of the key. -/
structure Authority where
  keyId : Option Bytes
  issuer : Option (List GeneralName)
  serial : Option Int

/-- The reader of what a certificate says about the other key. -/
def Authority.item : Item Authority := .sequence do
  let keyId ← .optional (.implicit 0 .octets)
  let issuer ← .optional (.implicit 1 GeneralName.listItem)
  return ⟨keyId, issuer, ← .optionalLast (.implicit 2 .integer)⟩

namespace Body

/-- The identifier of the own key. -/
def keyId? (body : Body) : Option Bytes :=
  extension? body.extensions Identifier.subjectKeyId .octets

/-- The first directory name of a list. -/
def directoryName? (names : List GeneralName) : Option DistinguishedName :=
  names.findSome? fun name =>
    match name with
    | .directory name => some name
    | _ => none

/-- Whether what is said about the other key fits the own one. -/
def fitsItself (body : Body) (authority : Authority) : Bool :=
  let fitsKey := match authority.keyId, body.keyId? with
    | some keyId, some own => keyId == own
    | _, _ => true
  fitsKey && authority.serial.all (· == body.serial) &&
    ((authority.issuer.bind directoryName?).all fun name => name.isSame body.issuer)

/-- Whether the part that is signed tells that it is signed with its own key. -/
def isSelfSigned (body : Body) (key : PublicKey) : Bool :=
  body.subject.isSame body.issuer &&
    (extension? body.extensions Identifier.authorityKeyId Authority.item).all body.fitsItself &&
    (SignatureAlgorithm.ofIdentifier? body.signature.name).any fun known => known.suits key

end Body

/-- The reader of certificates: the part that is signed, and the algorithm of the signature. -/
def item : Item (Body × Algorithm) := .sequence do
  let body ← .required Body.item
  let signature ← .required Algorithm.item
  let _ ← .required .bits
  return (body, signature)

/-- The certificate that bytes begin with. -/
def read? (bytes : Bytes) : Option Certificate := do
  let (((body, signature), encoding), _) ← item.withEncoding.read? bytes
  let key := (PublicKey.read? body.keyAlgorithm body.keyBits).getD .unknown
  return {
    encoding
    subject := body.subject.commonName?
    issuer := body.issuer.commonName?
    altNames :=
      (extension? body.extensions Identifier.alternativeNames GeneralName.listItem).getD []
    publicKey := key
    isSelfSigned := body.isSelfSigned key
    signatureStrength := SignatureAlgorithm.strengthOf signature key }

/-- The labels of blocks that hold certificates. -/
def labels : List Bytes := [ascii "CERTIFICATE", ascii "X509 CERTIFICATE"]

/-- The certificate of a block, which has no header. -/
def ofBlock? (block : Pem.Block) : Option Certificate := do
  guard block.header.isEmpty
  read? block.data

/-- The blocks that hold certificates, and those that are not well-formed. -/
def certificateBlocks (blocks : List (Option Pem.Block)) : List (Option Pem.Block) :=
  blocks.filter fun block => block.all fun block => labels.contains block.label

/-- The certificates of a text. There are none if any block is not well-formed. -/
def ofBlocks? (blocks : List (Option Pem.Block)) : Option (List Certificate) :=
  (certificateBlocks blocks).mapM fun block => block >>= ofBlock?

/-- The first certificate of a text. What follows it does not count. -/
def ofFirstBlock? (blocks : List (Option Pem.Block)) : Option Certificate :=
  match certificateBlocks blocks with
  | some block :: _ => ofBlock? block
  | _ => none

end TlsListener.Certificate
