import TlsListener.Event
import TlsListener.Host.Config

/-!
# The trust anchors of a context

Clients are verified against the certificates of the trust store that was written to a host, or else
of the platform's. The platform's trust store is loaded when the context is made; if it cannot be
loaded, that is logged, and there are no anchors.
-/

namespace TlsListener.HostConfig

/-- Whether the platform names a trust store at all: by a file, or by a type that needs none. -/
def hasPlatformTrust (host : HostConfig) : Bool :=
  host.trustFile.isSome || host.trustType.isHardware

/-- The trust store of the platform. -/
def platformTrust (machine : Machine) (loader : Loader) (host : HostConfig) :
    Traced (Option StoreHandle) :=
  if !host.hasPlatformTrust then .value none
  else
    match loader.load machine .trust host.trustFile host.trustPassword host.trustType none with
    | .ok store => .value (some store)
    | .error (.failure failure) =>
      ⟨[.platformTrustUnavailable host.trustFile failure], .ok none⟩
    | .error .cutShort => .ofOutcome .cutShort

/-- Check the password of a trust store, if one is set. A wrong one is logged and does not count. -/
def checkTrustPassword (engine : Engine) (host : HostConfig) (store : KeyStore) : Traced Unit :=
  match host.trustPassword with
  | none => .value ()
  | some password => do
    let verified ← (store.verifyPassword engine password : Outcome Failure Bool)
    if verified then .value () else .emit .trustPasswordRefused

/-- The trust store that clients are verified against. -/
def trustMaterial (engine : Engine) (machine : Machine) (loader : Loader) (host : HostConfig) :
    Traced (Option StoreHandle) :=
  match host.trustStore with
  | some store => do
    host.checkTrustPassword engine store.store
    return some store
  | none => host.platformTrust machine loader

/-- The anchors in a trust store, where there is one. -/
def anchorsOf (store : Option StoreHandle) : List Certificate :=
  store.elim [] fun handle => handle.store.trustedCertificates

/-- The certificates that clients are verified against. -/
def anchors (engine : Engine) (machine : Machine) (loader : Loader) (host : HostConfig) :
    Traced (List Certificate) := do
  let store ← host.trustMaterial engine machine loader
  if (anchorsOf store).all engine.acceptsAnchor then return anchorsOf store
  else .fail .engine

end TlsListener.HostConfig
