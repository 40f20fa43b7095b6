import TlsListener.Identity.Message
import TlsListener.Identity.PrivateKeyReader

/-!
# PKCS#12 archives

An archive holds bags, some of them in contents that are encrypted as a whole. A bag holds a private
key, a certificate, or further bags; it may have a name. An archive may be sealed with a keyed
digest of its contents, and then only the password that it was sealed with opens it. An empty
password is also tried as an absent one.
-/

namespace TlsListener

/-- What an opened archive holds: a private key, the certificate that belongs to it, and the other
certificates in order. -/
structure ArchiveContents where
  key : Option PrivateKey
  certificate : Option Certificate
  others : List Certificate
  deriving DecidableEq, Repr

namespace Archive

open Ber

/-- The seal of an archive: the digest it is made with, its value, and how its key is made. -/
structure Seal where
  algorithm : Algorithm
  value : Bytes
  salt : Bytes
  iterations : Int

/-- Contents as they are kept, by their kind. -/
inductive Kept where
  /-- Bytes as they are, where there are any. -/
  | plain (bytes : Option Bytes)
  /-- Bytes encrypted under a password. -/
  | encrypted (algorithm : Algorithm) (bytes : Bytes)
  /-- Contents that are to be encrypted, but are not there. -/
  | missing
  /-- Contents of a kind that cannot hold bags. -/
  | other

end Archive

/-- An archive that has not been opened: its contents, and the seal. -/
structure Archive where
  contents : Archive.Kept
  integrity : Option Archive.Seal

namespace Archive

open Ber

/-- Encrypted contents: a version and the encrypted part. -/
def encryptedItem : Item Kept := .sequence do
  let _ ← .required .integer
  match ← .required Message.encryptedPartItem with
  | (algorithm, some bytes) => return .encrypted algorithm bytes
  | (_, none) => return .missing

/-- A reader that finds nothing. -/
def nothingItem : Item α := ⟨fun _ _ _ => .malformed⟩

/-- The reader of contents with their kind, where messages are nested to less than a given depth. -/
def Kept.item : Nat → Item Kept
  | 0 => nothingItem
  | depth + 1 => .sequence do
    let kind ← .required .identifier
    if kind = Identifier.plainData then return .plain (← .optionalLast (.explicit 0 .octets))
    else if kind = Identifier.encryptedData then
      return (← .optionalLast (.explicit 0 encryptedItem)).getD .missing
    else
      match Message.Kind.ofIdentifier? kind with
      | some kind =>
        let _ ← .optionalLast (.explicit 0 (Message.item (Kept.item depth) kind))
        return .other
      | none =>
        let _ ← .optionalLast (.explicit 0 .any)
        return .other

/-- The value of a seal: the algorithm and the keyed digest. -/
def sealedItem : Item (Algorithm × Bytes) := .sequence do
  return (← .required Algorithm.item, ← .required .octets)

/-- The reader of seals. -/
def Seal.item : Item Seal := .sequence do
  let (algorithm, value) ← .required sealedItem
  let salt ← .required .octets
  let iterations ← .optionalLast .integer
  return ⟨algorithm, value, salt, iterations.getD 1⟩

/-- The reader of archives. -/
def item : Item Archive := .sequence do
  let _ ← .required .integer
  let contents ← .required (Kept.item maxDepth)
  return ⟨contents, ← .optionalLast Seal.item⟩

/-- The archive that bytes begin with. -/
def read? (bytes : Bytes) : Option Archive := item.decode? bytes

/-! ## Seals -/

/-- The most bytes of a key for a seal. -/
def maxSealKey : Int := 64

/-- How the key of a seal is made, and which keyed digest is taken with it. -/
def namedSealItem : Item (Algorithm × Algorithm) := .sequence do
  return (← .required Algorithm.item, ← .required Algorithm.item)

/-- A keyed digest under a key that is made as the algorithm names it. -/
def namedDigest? (algorithm : Algorithm) (contents password : Bytes) : Option Bytes := do
  let (derivation, keyed) ← algorithm.decode? namedSealItem
  guard (derivation.name = Identifier.pbkdf2)
  let parameters ← derivation.decode? Protection.IteratedParameters.item
  let length ← parameters.length
  guard (1 ≤ length && length ≤ maxSealKey)
  let digest ← Digest.ofKeyedIdentifier? keyed.name
  return digest.hmac (← parameters.derive? password length.toNat) contents

/-- A keyed digest under a key that is made by the derivation of archives. -/
def Seal.digest? (given : Seal) (contents password : Bytes) : Option Bytes := do
  let digest ← Digest.ofIdentifier? given.algorithm.name
  let iterations := narrow given.iterations
  guard (0 ≤ iterations)
  let key := KeyDerivation.archive digest .integrity password given.salt iterations.toNat
    digest.size
  return digest.hmac key contents

/-- Whether a password is the one that an archive was sealed with. -/
def Seal.accepts (given : Seal) (contents : Bytes) (passphrase : Passphrase) : Bool :=
  let digest :=
    if given.algorithm.name = Identifier.pbmac1 then
      namedDigest? given.algorithm contents passphrase.bytes
    else given.digest? contents passphrase.wide
  digest == some given.value

/-- The form in which a password opens contents that may be sealed. -/
def passphrase? (integrity : Option Seal) (contents : Bytes) (password : String) :
    Option Passphrase :=
  match integrity with
  | none => some (if password.isEmpty then .absent else .ofString password)
  | some given =>
    let candidates :=
      if password.isEmpty then [.absent, .ofString password] else [.ofString password]
    candidates.find? (given.accepts contents)

/-! ## Bags -/

/-- What bags hold, as far as it counts. -/
inductive BagContent where
  | key (info : PrivateKey.Info)
  | protectedKey (algorithm : Algorithm) (data : Bytes)
  /-- A certificate with the name of its bag. -/
  | certificate (name : Option String) (encoding : Bytes)

/-- An attribute of a bag: its kind, and its values. -/
def attributeItem : Item (Bytes × List Value) := .sequence do
  return (← .required .identifier, ← .required (.setOf .any))

/-- The first value among attributes of a kind. -/
def attribute? (attributes : List (Bytes × List Value)) (kind : Bytes) : Option Value :=
  (attributes.lookup kind).bind List.head?

/-- The name that attributes give to a bag, which counts for certificates. There is no outcome to a
name that is no wide text, nor to an identifier of a key that is no string of bytes; a name that is
no well-formed text counts for nothing. -/
def bagName? (attributes : List (Bytes × List Value)) : Option (Option String) := do
  guard ((attribute? attributes Identifier.localKeyId).all (Value.isOf · typeOctets))
  match attribute? attributes Identifier.friendlyName with
  | none => return none
  | some value =>
    guard (value.isOf typeText16)
    return value.text?

/-- The contents of a bag that holds a certificate or something in its place: the encoding of a
certificate, if it is one of the kind that counts. -/
def certificateItem : Item (Option Bytes) := .sequence do
  let kind ← .required .identifier
  if kind = Identifier.x509Certificate then some <$> .required (.explicit 0 .octets)
  else if kind = Identifier.x509Revocations then
    (fun _ => none) <$> .required (.explicit 0 .octets)
  else if kind = Identifier.simpleCertificate then
    (fun _ => none) <$> .required (.explicit 0 (.simple typeAscii))
  else (fun _ => none) <$> .required (.explicit 0 .any)

/-- The value of a bag by the kind of the bag, given the reader of bags and the name of the bag. The
name is read after the value. -/
def bagValue (bags : Item (List BagContent)) (kind : Bytes) :
    Fields (Option String → List BagContent) :=
  if kind = Identifier.keyBag then
    (fun info _ => [.key info]) <$> .required (.explicit 0 PrivateKey.Info.item)
  else if kind = Identifier.protectedKeyBag then
    (fun (algorithm, data) _ => [.protectedKey algorithm data]) <$>
      .required (.explicit 0 PrivateKey.protectedItem)
  else if kind = Identifier.certificateBag then
    (fun encoding name => (encoding.map (BagContent.certificate name)).toList) <$>
      .required (.explicit 0 certificateItem)
  else if kind = Identifier.revocationBag || kind = Identifier.secretBag then
    (fun _ _ => []) <$> .required (.explicit 0 certificateItem)
  else if kind = Identifier.nestedBags then
    (fun contents _ => contents.flatten) <$> .required (.explicit 0 (.sequenceOf bags))
  else (fun _ _ => []) <$> .required (.explicit 0 .any)

/-- The reader of bags that are nested to less than a given depth. -/
def bagItem : Nat → Item (List BagContent)
  | 0 => nothingItem
  | depth + 1 => Item.mapM? (.sequence do
    let kind ← .required .identifier
    let value ← bagValue (bagItem depth) kind
    let attributes ← .optionalLast (.setOf attributeItem)
    return (bagName? (attributes.getD [])).map value) id

/-- The contents of the bags that bytes hold. -/
def bags? (bytes : Bytes) : Option (List BagContent) :=
  List.flatten <$> (Item.sequenceOf (bagItem maxDepth)).decode? bytes

/-! ## Opening -/

/-- The bags of a part of an archive that a password opens. -/
def Kept.bags? (passphrase : Passphrase) : Kept → Option (List BagContent)
  | plain bytes => bytes >>= Archive.bags?
  | encrypted algorithm data => Protection.decrypt? algorithm passphrase data >>= Archive.bags?
  | missing => none
  | other => some []

/-- The bags of all parts, in order. -/
def allBags? (passphrase : Passphrase) (contents : Bytes) : Option (List BagContent) := do
  let parts ← (Item.sequenceOf (Kept.item maxDepth)).decode? contents
  return (← parts.mapM (Kept.bags? passphrase)).flatten

/-- What has been taken out of bags: a key, and certificates with the last first. -/
structure Taken where
  key : Option PrivateKey := none
  certificates : List Certificate := []

/-- Take out what one bag holds. Only the first private key of an archive counts, and further ones
are not looked at. -/
def Taken.add (passphrase : Passphrase) (taken : Taken) : BagContent → Option Taken
  | .key info =>
    if taken.key.isSome then some taken else do return { taken with key := some (← info.key?) }
  | .protectedKey algorithm data =>
    if taken.key.isSome then some taken
    else do
      let encoding ← Protection.decrypt? algorithm passphrase data
      return { taken with key := some (← PrivateKey.read? encoding) }
  | .certificate name encoding => do
    let certificate ← Certificate.read? encoding
    return { taken with certificates := { certificate with name } :: taken.certificates }

/-- The certificate that belongs to a private key, the first one that does, and the others. -/
def splitOwn (key : PrivateKey) : List Certificate → Option Certificate × List Certificate
  | [] => (none, [])
  | certificate :: rest =>
    if certificate.publicKey.isSame key.publicKey then (some certificate, rest)
    else
      let (own, others) := splitOwn key rest
      (own, certificate :: others)

/-- Open an archive. -/
def open? (archive : Archive) (password : String) : Option ArchiveContents := do
  let .plain (some contents) := archive.contents | none
  let passphrase ← passphrase? archive.integrity contents password
  let bags ← allBags? passphrase contents
  let taken ← bags.foldlM (Taken.add passphrase) {}
  let certificates := taken.certificates.reverse
  match taken.key with
  | none => return ⟨none, none, certificates⟩
  | some key =>
    let (own, others) := splitOwn key certificates
    return ⟨some key, own, others⟩

end Archive

end TlsListener
