import TlsListener.Identity.Name
import TlsListener.Network.Ip

/-!
# General names

The further names of a certificate's subject, and the names by which a certificate points to that of
its issuer, may be of several kinds, told apart by the number of their field. A summary lists the
DNS names and the internet addresses among them.
-/

namespace TlsListener

/-- A name of any kind. -/
inductive GeneralName where
  /-- A DNS name, as bytes that need not be a text. -/
  | dns (name : Bytes)
  /-- An internet address, of whatever length it was given. -/
  | address (bytes : Bytes)
  | directory (name : DistinguishedName)
  /-- A name of another kind. -/
  | other
  deriving DecidableEq, Repr

namespace GeneralName

open Ber

/-- The types of texts that the name of a party may have. -/
def partyTypes : List Nat :=
  [typeText8, typePrintable, typeTeletex, typeText32, typeText16]

/-- A name by its own identifier and value. -/
def identifiedItem : Item Unit := .sequence do
  let _ ← .required .identifier
  let _ ← .required (.explicit 0 .any)

/-- The name of a party, perhaps with the name of the one who assigned it. -/
def partyItem : Item Unit := .sequence do
  let _ ← .optional (.explicit 0 (.ofTypes partyTypes))
  let _ ← .required (.explicit 1 (.ofTypes partyTypes))

/-- The reader of names. -/
def item : Item GeneralName := .choice [
  (Item.implicit 0 identifiedItem).map fun _ => other,
  (Item.implicit 1 (.simple typeAscii)).map fun _ => other,
  (Item.implicit 2 (.simple typeAscii)).map dns,
  (Item.implicit 3 (.raw typeSequence)).map fun _ => other,
  (Item.explicit 4 DistinguishedName.item).map directory,
  (Item.implicit 5 partyItem).map fun _ => other,
  (Item.implicit 6 (.simple typeAscii)).map fun _ => other,
  (Item.implicit 7 .octets).map address,
  (Item.implicit 8 .identifier).map fun _ => other]

/-- The reader of lists of names. -/
def listItem : Item (List GeneralName) := .sequenceOf item

/-- A name in a summary. Of the addresses only those of four or sixteen bytes are listed, of the DNS
names only those that are texts. -/
def text? : GeneralName → Option String
  | dns name => (text8? name).map fun text => "DNS:" ++ text
  | address bytes => (Ip.ofBytes? bytes).map fun ip => "IP:" ++ ip.text
  | directory _ | other => none

end GeneralName

end TlsListener
