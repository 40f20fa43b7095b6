import TlsListener.Identity.BlockEncryption
import TlsListener.Identity.PrivateKey
import TlsListener.Identity.Protection

/-!
# Finding the private key of a PEM text

The key of a text is that of the first block whose label and contents agree. A block that cannot be
read is passed over, and so is one that is not well-formed, but one that stays locked ends the
search. Where the search finds nothing, the first block with the label of a private key is looked at
once more, unless one that is not well-formed stands before it; and then the label of a kind of key
may also stand above the common encoding of a key of that kind.
-/

namespace TlsListener.PrivateKey

open Ber

/-- What a look at a block finds. -/
inductive Finding where
  | key (key : PrivateKey)
  /-- Nothing that can be read. -/
  | unreadable
  /-- A block that the password does not open. -/
  | locked

/-- The longest password for a block, in bytes; of a longer one the beginning is taken. -/
def maxPasswordSize : Nat := 1024

/-- A password as the blocks of a text take it. -/
def passwordBytes (password : String) : Bytes :=
  (ascii password).take maxPasswordSize

/-- The labels of private keys. -/
def commonLabel : Bytes := ascii "PRIVATE KEY"
def protectedLabel : Bytes := ascii "ENCRYPTED PRIVATE KEY"
def rsaLabel : Bytes := ascii "RSA PRIVATE KEY"
def ecLabel : Bytes := ascii "EC PRIVATE KEY"
def dsaLabel : Bytes := ascii "DSA PRIVATE KEY"

/-- All labels of private keys. -/
def labels : List Bytes := [commonLabel, protectedLabel, rsaLabel, ecLabel, dsaLabel]

/-- A key in the common encoding, or nothing that can be read. -/
def Finding.ofOption (key : Option PrivateKey) : Finding :=
  match key with
  | some key => .key key
  | none => .unreadable

/-- The reader of protected keys: the algorithm of the protection, and the encrypted encoding. -/
def protectedItem : Item (Algorithm × Bytes) := .sequence do
  return (← .required Algorithm.item, ← .required .octets)

/-- A protected key. One that is not protected after all is read as it is. -/
def readProtected (password : Option Bytes) (encoding : Bytes) : Finding :=
  match protectedItem.decode? encoding with
  | none => .ofOption (read? encoding)
  | some (algorithm, data) =>
    match password with
    | none => .locked
    | some bytes =>
      match Protection.decrypt? algorithm ⟨some bytes⟩ data with
      | none => .locked
      | some inner => .ofOption (read? inner)

/-- What a block holds according to its label. -/
def readLabelled (password : Option Bytes) (label encoding : Bytes) : Finding :=
  if label = commonLabel then .ofOption (read? encoding)
  else if label = protectedLabel then readProtected password encoding
  else if label = rsaLabel then .ofOption (readRsa? encoding)
  else if label = dsaLabel then .ofOption (readDsa? encoding)
  else if label = ecLabel then .ofOption (readEc? none encoding)
  else .unreadable

/-- What a block holds according to its label, after it has been opened. -/
def readBlock (password : Option Bytes) (block : Pem.Block) : Finding :=
  match block.open? password with
  | none => .locked
  | some encoding => readLabelled password block.label encoding

/-- The first key, the search ending at a block that stays locked. -/
def search (password : Option Bytes) : List Pem.Block → Option PrivateKey
  | [] => none
  | block :: blocks =>
    match readBlock password block with
    | .key key => some key
    | .unreadable => search password blocks
    | .locked => none

/-- Whether a key is of the kind that a label names. -/
def isOfKind (label : Bytes) (key : PrivateKey) : Bool :=
  match key.publicKey with
  | .rsa _ _ => label == rsaLabel
  | .dsa _ _ _ _ => label == dsaLabel
  | .ec _ _ => label == ecLabel
  | _ => false

/-- The key of the first block with the label of a private key. -/
def ofFirstLabelled? (password : Option Bytes) (blocks : List Pem.Block) : Option PrivateKey := do
  let block ← blocks.find? fun block => labels.contains block.label
  match readBlock password block with
  | .key key => return key
  | .locked => none
  | .unreadable =>
    let key ← read? (← block.open? password)
    guard (isOfKind block.label key)
    return key

/-- The private key of the blocks of a text, those that are not well-formed among them. -/
def ofBlocks? (password : Option String) (blocks : List (Option Pem.Block)) : Option PrivateKey :=
  let password := password.map passwordBytes
  search password (blocks.filterMap id) <|>
    ofFirstLabelled? password ((blocks.takeWhile Option.isSome).filterMap id)

end TlsListener.PrivateKey
