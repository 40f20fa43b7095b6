import TlsListener.Connector.State
import TlsListener.Failure.Store
import TlsListener.Network.Address
import TlsListener.Settings.Document
import TlsListener.Version

/-!
# Failures

What the operations on settings, stores and connectors answer when they do not succeed. Every
failure is kept as its cause; the wording is one function of it. The failures that a start meets
before it succeeds form a category of their own.

An operation may also be cut short. A text is handed to the cryptographic engine as characters up to
a NUL, so one that holds a NUL character itself cannot be handed over, and the attempt ends the
operation where it stands. That is no failure with a cause and a text, and it is kept apart.
-/

namespace TlsListener

/-- What a store is for. -/
inductive StoreRole where
  /-- It holds the private key and certificate chain of the listener. -/
  | key
  /-- It holds the certificates that clients are verified against. -/
  | trust
  deriving DecidableEq, Repr

namespace StoreRole

/-- The name of a role. -/
def name : StoreRole → String
  | key => "key"
  | trust => "trust"

end StoreRole

/-- Why a configuration is refused. -/
inductive ConfigurationCause where
  /-- A hardware store was given a location. -/
  | locationOfHardware (type : StoreType)
  /-- No private key entry of the key store has the alias. -/
  | aliasAbsent (name : String)
  /-- The connector is in a state in which it cannot be changed. -/
  | notConfigurable (state : LifecycleState)
  /-- A cause reported by others. -/
  | reported (account : String)
  deriving DecidableEq, Repr

namespace ConfigurationCause

/-- The text of a cause. -/
def message : ConfigurationCause → String
  | locationOfHardware type =>
    "Input keystore location is not valid for keystore type '" ++ type.name ++ "'"
  | aliasAbsent name => "Keystore does not contain specified alias '" ++ name ++ "'"
  | notConfigurable state => "Connector cannot be customized in state " ++ state.name
  | reported account => account

end ConfigurationCause

/-- Why a connector does not start. -/
inductive StartupCause where
  /-- It is in a state from which it cannot start. -/
  | notStartable (state : LifecycleState)
  | noVersion
  /-- The engine knows none of the suites in the list. -/
  | noSuite (suites : String)
  /-- No enabled version can use any suite in the list. -/
  | noVersionForSuites (suites : String)
  | noCertificate
  | aliasAbsent (name : String)
  | noPrivateKey
  /-- The private key has no certificate. -/
  | noLeaf
  /-- The private key is not that of the certificate. -/
  | keyMismatch
  | cannotBind (address : Address) (failure : IoFailure)
  /-- A cause reported by others. -/
  | reported (account : String)
  deriving DecidableEq

namespace StartupCause

/-- The text of a cause. -/
def message : StartupCause → String
  | notStartable state => "Connector cannot start from state " ++ state.name
  | noVersion => "No TLS protocol versions enabled"
  | noSuite suites => "None of the configured cipher suites are supported: " ++ suites
  | noVersionForSuites suites =>
    "No enabled protocol version can use the configured cipher suites: " ++ suites
  | noCertificate => "No certificate configured for TLS host"
  | aliasAbsent name => "Keystore does not contain specified alias '" ++ name ++ "'"
  | noPrivateKey => "Keystore does not contain a private key entry"
  | noLeaf => "Private key entry has no certificate"
  | keyMismatch => "Private key does not match certificate: " ++ engineAccount
  | cannotBind address failure => "Failed to bind " ++ address.text ++ ": " ++ failure.message
  | reported account => account

end StartupCause

/-- Why a document of settings is refused. -/
inductive DocumentCause where
  | fault (fault : DocumentFault)
  /-- A cause reported by others. -/
  | reported (account : String)
  deriving DecidableEq, Repr

namespace DocumentCause

/-- The text of a cause. -/
def message : DocumentCause → String
  | fault .malformed => "TOML parse error"
  | fault (.rejected text rejection) =>
    Toml.excerpt text rejection.place rejection.complaint.message
  | reported account => account

end DocumentCause

/-- Why an operation on settings, stores or connectors failed. -/
inductive Failure where
  | invalidConfiguration (cause : ConfigurationCause)
  /-- A store could not be loaded from the location given, if one was. -/
  | storeLoad (role : StoreRole) (location : Option String) (source : StoreFailure)
  | startup (cause : StartupCause)
  | document (cause : DocumentCause)
  /-- A text names no protocol version. -/
  | invalidVersion (name : String)
  | handshakeFailed (account : String)
  | notStarted
  /-- The cryptographic engine refused what it was given. -/
  | engine
  | io (failure : IoFailure)
  deriving DecidableEq

namespace Failure

/-- A location in a text; `null` stands for none. -/
def locationText (location : Option String) : String :=
  location.getD "null"

/-- The text of a failure. -/
def message : Failure → String
  | invalidConfiguration cause => cause.message
  | storeLoad role location _ =>
    "Could not load " ++ role.name ++ " store '" ++ locationText location ++ "'"
  | startup cause => "Failed to start connector: " ++ cause.message
  | document cause => "Invalid TLS configuration file: " ++ cause.message
  | invalidVersion name => "Invalid TLS version: " ++ name
  | handshakeFailed account => "Handshake failed: " ++ account
  | notStarted => "Connector is not started"
  | engine => "OpenSSL error: " ++ engineAccount
  | io failure => "I/O error: " ++ failure.message

/-- The failures that keep a connector from being started. -/
def isStartup : Failure → Bool
  | storeLoad _ _ _ | startup _ | invalidVersion _ => true
  | _ => false

/-- The text of the failure below a failure, where there is one. -/
def sourceMessage? : Failure → Option String
  | storeLoad _ _ source => some source.message
  | io failure => some failure.message
  | engine => some engineAccount
  | _ => none

end Failure

/-- How an operation ends that does not succeed: with a failure, or cut short. -/
inductive Stop (ε : Type) where
  | failure (failure : ε)
  | cutShort
  deriving DecidableEq, Repr

/-- What an operation answers: a value, unless it is stopped. -/
abbrev Outcome (ε α : Type) := Except (Stop ε) α

namespace Outcome

/-- Stop with a failure. -/
def fail (failure : ε) : Outcome ε α := .error (.failure failure)

/-- Stop where no failure can be told. -/
def cutShort : Outcome ε α := .error .cutShort

/-- The same outcome with its failure seen from outside. -/
def mapFailure (f : ε → ε') : Outcome ε α → Outcome ε' α
  | .ok value => .ok value
  | .error (.failure failure) => .error (.failure (f failure))
  | .error .cutShort => .error .cutShort

/-- A value, or the failure that stands for its absence. -/
def ofOption (failure : ε) : Option α → Outcome ε α
  | some value => .ok value
  | none => .error (.failure failure)

end Outcome

namespace Settings

/-- The settings that a text declares, or why it declares none. -/
def parse (text : String) : Except Failure Settings :=
  (ofDocument text).mapError fun fault => .document (.fault fault)

end Settings

namespace Version

/-- The version that a text names, or the refusal of the text. -/
def parse (s : String) : Except Failure Version :=
  match parse? s with
  | some version => .ok version
  | none => .error (.invalidVersion s)

end Version

end TlsListener
