import TlsListener.Store.Resolution
import TlsListener.Text.NameSet

/-!
# The TLS settings of a host

The settings from which a connector makes its TLS context when it starts. They begin as the defaults
of the platform; resolved stores and declared restrictions are then written over them.

The path of the platform's trust store is a text here, and shows as that text wherever it is told.
Paths whose bytes are no text, which a platform may also have, are left out.
-/

namespace TlsListener

/-- The trust settings of the platform, which every host begins with. -/
structure PlatformDefaults where
  /-- The path of the trust store. Paths that are no text are left out. -/
  trustFile : Option String := none
  trustType : StoreType := .pem
  trustPassword : Option Secret := none
  deriving DecidableEq

namespace PlatformDefaults

/-- The variables that hold the trust settings of the platform. -/
def trustFileVariable : String := "SSL_TRUST_STORE"
def trustTypeVariable : String := "SSL_TRUST_STORE_TYPE"
def trustPasswordVariable : String := "SSL_TRUST_STORE_PASSWORD"

/-- The trust settings that variables hold. -/
def ofVariables (valueOf : String → Option String) : PlatformDefaults where
  trustFile := valueOf trustFileVariable
  trustType := ((valueOf trustTypeVariable).map StoreType.parse).getD .pem
  trustPassword := (valueOf trustPasswordVariable).map Secret.mk

end PlatformDefaults

/-- How a connector verifies its clients. -/
inductive ClientVerify where
  | none
  /-- A certificate is asked for and need not be given. -/
  | optional
  /-- A certificate has to be given. -/
  | required
  deriving DecidableEq, Repr

namespace ClientVerify

/-- The verification that a declared mode asks for. -/
def ofClientAuth : ClientAuth → ClientVerify
  | .none => none
  | .want => optional
  | .need => required

/-- The bits by which the engine is told how to verify: ask, and refuse clients without one. -/
def engineMode : ClientVerify → Nat
  | none => 0
  | optional => 1
  | required => 3

/-- The name of a mode. -/
def name : ClientVerify → String
  | none => "None"
  | optional => "Optional"
  | required => "Required"

end ClientVerify

/-- The certificate of a host: the store it is taken from, and what opens and selects it. -/
structure HostCertificate where
  keyStore : StoreHandle
  keyStorePassword : Option Secret := none
  keyPassword : Option Secret := none
  keyAlias : Option String := none

/-- The protocol versions of a host for which none are set, by name. -/
def defaultEnabledProtocols : List String := ["TLSv1.2", "TLSv1.3"]

/-- The TLS settings of a host. -/
structure HostConfig where
  /-- The cipher suites, with colons between them. -/
  ciphers : Option String
  protocol : String
  enabledProtocols : NameSet
  certificate : Option HostCertificate
  /-- The path of the platform's trust store. Paths that are no text are left out. -/
  trustFile : Option String
  trustType : StoreType
  trustPassword : Option Secret
  trustStore : Option StoreHandle
  verification : ClientVerify

namespace HostConfig

/-- The settings of a host to which nothing has been written. -/
def ofDefaults (defaults : PlatformDefaults) : HostConfig where
  ciphers := none
  protocol := protocolFamily
  enabledProtocols := .ofList defaultEnabledProtocols
  certificate := none
  trustFile := defaults.trustFile
  trustType := defaults.trustType
  trustPassword := defaults.trustPassword
  trustStore := none
  verification := .none

/-- Set the cipher suites. -/
def setCiphers (host : HostConfig) (ciphers : String) : HostConfig :=
  { host with ciphers := some ciphers }

/-- Set the name of the protocol. -/
def setProtocol (host : HostConfig) (protocol : String) : HostConfig :=
  { host with protocol }

/-- Set the enabled protocol versions by name. -/
def setEnabledProtocols (host : HostConfig) (names : List String) : HostConfig :=
  { host with enabledProtocols := .ofList names }

/-- Set the certificate in place of any other. -/
def setCertificate (host : HostConfig) (certificate : HostCertificate) : HostConfig :=
  { host with certificate := some certificate }

/-- Set the trust store. -/
def setTrustStore (host : HostConfig) (store : Option StoreHandle) : HostConfig :=
  { host with trustStore := store }

/-- Set the password of the trust store. -/
def setTrustPassword (host : HostConfig) (password : Option Secret) : HostConfig :=
  { host with trustPassword := password }

/-- Set how clients are verified. -/
def setVerification (host : HostConfig) (verification : ClientVerify) : HostConfig :=
  { host with verification }

end HostConfig

end TlsListener
