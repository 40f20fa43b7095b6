import TlsListener.Identity.GeneralName
import TlsListener.Identity.PublicKey

/-!
# Certificates

What is read off a certificate: the common names of its subject and issuer, the other names that it
is good for, and its public key. A summary of a certificate renders the names, in their order.
-/

namespace TlsListener

/-- A certificate. -/
structure Certificate where
  encoding : Bytes
  /-- The first common name of the subject, where there is one that is a text. -/
  subject : Option String
  issuer : Option String
  altNames : List GeneralName
  publicKey : PublicKey
  /-- Its own key is the one that it claims to be signed with. -/
  isSelfSigned : Bool
  /-- The strength of the signature in bits. -/
  signatureStrength : Nat
  /-- The name under which the certificate was stored. -/
  name : Option String := none
  deriving DecidableEq, Repr

/-- The summary of a certificate. -/
structure CertificateSummary where
  subject : String
  issuer : String
  altNames : List String
  deriving DecidableEq, Repr

namespace Certificate

/-- What stands for a common name that is absent. -/
def noName : String := "<undef>"

/-- The summary of a certificate. -/
def summary (certificate : Certificate) : CertificateSummary where
  subject := certificate.subject.getD noName
  issuer := certificate.issuer.getD noName
  altNames := certificate.altNames.filterMap GeneralName.text?

end Certificate

end TlsListener
