import TlsListener.Secret
import TlsListener.StoreType

/-!
# Declared settings

What an operator declares for a listener: whether TLS is on, which key store and trust store to
load, and the restrictions on protocol versions, cipher suites and clients. Settings are declared
one by one, each on top of those before it; of several declarations of the same setting the last
one counts.
-/

namespace TlsListener

/-- Whether a listener asks its clients for a certificate. -/
inductive ClientAuth where
  /-- It does not ask. -/
  | none
  /-- It asks, and accepts clients without one. -/
  | want
  /-- It asks, and refuses clients without one. -/
  | need
  deriving DecidableEq, Repr

namespace ClientAuth

/-- All modes. -/
def all : List ClientAuth := [none, want, need]

/-- The name of a mode. -/
def name : ClientAuth → String
  | none => "none"
  | want => "want"
  | need => "need"

/-- The mode of a name. -/
def ofName? (s : String) : Option ClientAuth :=
  all.find? fun mode => mode.name == s

/-- A mode in a diagnostic. -/
def debug : ClientAuth → String
  | none => "None"
  | want => "Want"
  | need => "Need"

end ClientAuth

/-- How to find and open a store. -/
structure StoreDescriptor where
  location : Option String := none
  password : Option Secret := none
  type : StoreType := .pkcs12
  provider : Option String := none
  deriving DecidableEq

/-- The only family of protocols that a listener negotiates. -/
def protocolFamily : String := "TLS"

/-- The settings of a listener. -/
structure Settings where
  enabled : Bool := true
  keyStore : StoreDescriptor := {}
  keyPassword : Option Secret := none
  keyAlias : Option String := none
  trustStore : StoreDescriptor := {}
  enabledProtocols : List String := []
  ciphers : List String := []
  protocol : String := protocolFamily
  clientAuth : ClientAuth := .none
  deriving DecidableEq

namespace Settings

/-- The settings of a listener for which nothing is declared. -/
def default : Settings := {}

/-- The password that opens the key store: its own, or else that of the private key. -/
def keyStorePassword (s : Settings) : Option Secret :=
  s.keyStore.password <|> s.keyPassword

/-- The password that protects the private key: its own, or else that of the key store. -/
def privateKeyPassword (s : Settings) : Option Secret :=
  s.keyPassword <|> s.keyStore.password

end Settings

/-- The declaration of one setting. -/
inductive Setting where
  | enabled (value : Bool)
  | keyStore (location : String)
  | keyStorePassword (password : Secret)
  | keyPassword (password : Secret)
  | keyStoreType (type : StoreType)
  | keyStoreProvider (provider : String)
  | keyAlias (name : String)
  | trustStore (location : String)
  | trustStorePassword (password : Secret)
  | trustStoreType (type : StoreType)
  | trustStoreProvider (provider : String)
  | enabledProtocols (names : List String)
  | ciphers (names : List String)
  | protocol (name : String)
  | clientAuth (mode : ClientAuth)
  deriving DecidableEq

namespace Settings

/-- The settings after one more declaration. -/
def declare (s : Settings) : Setting → Settings
  | .enabled value => { s with enabled := value }
  | .keyStore location => { s with keyStore := { s.keyStore with location := some location } }
  | .keyStorePassword password =>
    { s with keyStore := { s.keyStore with password := some password } }
  | .keyPassword password => { s with keyPassword := some password }
  | .keyStoreType type => { s with keyStore := { s.keyStore with type } }
  | .keyStoreProvider provider =>
    { s with keyStore := { s.keyStore with provider := some provider } }
  | .keyAlias name => { s with keyAlias := some name }
  | .trustStore location => { s with trustStore := { s.trustStore with location := some location } }
  | .trustStorePassword password =>
    { s with trustStore := { s.trustStore with password := some password } }
  | .trustStoreType type => { s with trustStore := { s.trustStore with type } }
  | .trustStoreProvider provider =>
    { s with trustStore := { s.trustStore with provider := some provider } }
  | .enabledProtocols names => { s with enabledProtocols := names }
  | .ciphers names => { s with ciphers := names }
  | .protocol name => { s with protocol := name }
  | .clientAuth mode => { s with clientAuth := mode }

/-- The settings that a list of declarations makes, in order. -/
def ofList (declarations : List Setting) : Settings :=
  declarations.foldl declare default

end Settings

end TlsListener
