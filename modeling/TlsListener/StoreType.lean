import TlsListener.Text.Quoted
import TlsListener.Text.Upper

/-!
# Types of key and trust stores

Three types are known by name, each in any letter case and with blanks around it. Every other name
is a type of its own, kept as it was written apart from those blanks; such types are left to the
providers that an application registers.
-/

namespace TlsListener

/-- The type of a key or trust store. -/
inductive StoreType where
  /-- A PKCS#12 archive. -/
  | pkcs12
  /-- A PEM bundle of certificates with or without a private key. -/
  | pem
  /-- A hardware token. -/
  | pkcs11
  /-- Any other type. -/
  | other (name : String)
  deriving DecidableEq, Repr

namespace StoreType

/-- The type that a text names. -/
def parse (s : String) : StoreType :=
  match Text.canonical s with
  | "PKCS12" | "P12" | "PFX" => pkcs12
  | "PEM" => pem
  | "PKCS11" => pkcs11
  | _ => other (Text.trim s)

/-- The name of a type. -/
def name : StoreType → String
  | pkcs12 => "PKCS12"
  | pem => "PEM"
  | pkcs11 => "PKCS11"
  | other name => name

/-- A hardware token is reached through its provider alone and has no location. -/
def isHardware : StoreType → Bool
  | pkcs11 => true
  | _ => false

/-- A type in a diagnostic. -/
def debug : StoreType → String
  | pkcs12 => "Pkcs12"
  | pem => "Pem"
  | pkcs11 => "Pkcs11"
  | other name => "Other(" ++ Text.quoted name ++ ")"

end StoreType

end TlsListener
