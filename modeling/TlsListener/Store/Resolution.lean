import TlsListener.Store.Loader

/-!
# Which stores a connector uses

The key store and the trust store come from outside, if they are handed over, or are loaded as the
settings declare. The two sources are not mixed for the trust store: where only a key store is
handed over, the trust store that is declared does not count, and the platform's applies.
-/

namespace TlsListener

/-- Stores handed over from outside. -/
structure Material where
  keyStore : Option StoreHandle := none
  trustStore : Option StoreHandle := none

/-- Where a store came from. -/
inductive StoreSource where
  /-- It was handed over. -/
  | external
  /-- It was loaded as declared. -/
  | configured
  /-- There is none, and the platform's applies. -/
  | platformDefault
  deriving DecidableEq, Repr

namespace StoreSource

/-- The name of a source. -/
def name : StoreSource → String
  | external => "External"
  | configured => "Configured"
  | platformDefault => "PlatformDefault"

end StoreSource

/-- The stores that a connector is to use, with what opens them. -/
structure ResolvedStores where
  keyStore : StoreHandle
  keyStoreSource : StoreSource
  keyStorePassword : Option Secret
  keyPassword : Option Secret
  keyAlias : Option String
  trustStore : Option StoreHandle
  trustStoreSource : StoreSource
  trustStorePassword : Option Secret

namespace Loader

/-- The key store, and where it came from. -/
def resolveKey (loader : Loader) (machine : Machine) (settings : Settings)
    (external : Option StoreHandle) : Outcome Failure (StoreHandle × StoreSource) :=
  match external with
  | some store => .ok (store, .external)
  | none => do
    let store ← loader.load machine .key settings.keyStore.location settings.keyStorePassword
      settings.keyStore.type settings.keyStore.provider
    return (store, .configured)

/-- The trust store, where it came from, and the password it was opened with. -/
def resolveTrust (loader : Loader) (machine : Machine) (settings : Settings)
    (keySource : StoreSource) (external : Option StoreHandle) :
    Outcome Failure (Option StoreHandle × StoreSource × Option Secret) :=
  match external with
  | some store => .ok (some store, .external, none)
  | none =>
    if keySource = .external then .ok (none, .platformDefault, none)
    else match settings.trustStore.location with
      | none => .ok (none, .platformDefault, none)
      | some location => do
        let store ← loader.load machine .trust (some location) settings.trustStore.password
          settings.trustStore.type settings.trustStore.provider
        return (some store, .configured, settings.trustStore.password)

/-- An alias that is asked for has to be that of a private key. -/
def checkAlias (store : KeyStore) (name : Option String) : Outcome Failure Unit :=
  match name with
  | none => .ok ()
  | some name =>
    if (store.findPrivateKey? (some name)).isSome then .ok ()
    else .fail (.invalidConfiguration (.aliasAbsent name))

/-- The stores that a connector with given settings is to use. -/
def resolve (loader : Loader) (machine : Machine) (settings : Settings)
    (material : Option Material) : Outcome Failure ResolvedStores := do
  let (keyStore, keyStoreSource) ←
    loader.resolveKey machine settings (material.bind Material.keyStore)
  let (trustStore, trustStoreSource, trustStorePassword) ←
    loader.resolveTrust machine settings keyStoreSource (material.bind Material.trustStore)
  checkAlias keyStore.store settings.keyAlias
  return {
    keyStore, keyStoreSource
    keyStorePassword := settings.keyStorePassword
    keyPassword := settings.privateKeyPassword
    keyAlias := settings.keyAlias
    trustStore, trustStoreSource, trustStorePassword }

/-- The resolution of stores in a diagnostic. -/
def debugResolver (loader : Loader) : String :=
  Text.record "TrustMaterialResolver" [("loader", loader.debug)]

end Loader

end TlsListener
