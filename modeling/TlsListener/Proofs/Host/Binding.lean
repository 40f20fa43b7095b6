import TlsListener.Host.Binding
import TlsListener.Proofs.Context.Anchors
import TlsListener.Proofs.Store.Resolution

/-!
# What is written to a host

A trust store is resolved from what was handed over and from what is declared, and the key store
that was handed over has a say in it too: with it, what is declared no longer counts. `TrustChoice`
has one rule for each of the four cases, which exclude one another.

Binding writes the trust store that was resolved, with its password, over whatever the host has.
Where none was resolved the host keeps what it says of the platform's trust store. The suites are
written in the same manner, and nothing else that is written touches either of them.
-/

namespace TlsListener

/-- The trust store that is chosen, where it comes from, and the password that it was opened
with. -/
inductive TrustChoice (loader : Loader) (machine : Machine) (settings : Settings)
    (material : Option Material) :
    Option StoreHandle → StoreSource → Option Secret → Prop where
  | handedOver {store : StoreHandle} (trust : material.bind Material.trustStore = some store) :
      TrustChoice loader machine settings material (some store) .external none
  | keyHandedOver {key : StoreHandle} (trust : material.bind Material.trustStore = none)
      (key : material.bind Material.keyStore = some key) :
      TrustChoice loader machine settings material none .platformDefault none
  | declared {location : String} {store : StoreHandle}
      (trust : material.bind Material.trustStore = none)
      (key : material.bind Material.keyStore = none)
      (declared : settings.trustStore.location = some location)
      (loaded : loader.load machine .trust (some location) settings.trustStore.password
        settings.trustStore.type settings.trustStore.provider = .ok store) :
      TrustChoice loader machine settings material (some store) .configured
        settings.trustStore.password
  | undeclared (trust : material.bind Material.trustStore = none)
      (key : material.bind Material.keyStore = none)
      (undeclared : settings.trustStore.location = none) :
      TrustChoice loader machine settings material none .platformDefault none

section

variable {loader : Loader} {machine : Machine} {settings : Settings} {material : Option Material}

/-- No two trust stores are chosen. -/
theorem TrustChoice.unique {store other : Option StoreHandle} {source source' : StoreSource}
    {password password' : Option Secret}
    (h : TrustChoice loader machine settings material store source password)
    (h' : TrustChoice loader machine settings material other source' password') :
    store = other := by
  cases h with
  | handedOver trust =>
      cases h' with
      | handedOver trust' => exact trust.symm.trans trust'
      | keyHandedOver trust' => cases trust.symm.trans trust'
      | declared trust' => cases trust.symm.trans trust'
      | undeclared trust' => cases trust.symm.trans trust'
  | keyHandedOver trust key =>
      cases h' with
      | handedOver trust' => cases trust.symm.trans trust'
      | keyHandedOver => rfl
      | declared _ key' => cases key.symm.trans key'
      | undeclared => rfl
  | declared trust key declared loaded =>
      cases h' with
      | handedOver trust' => cases trust.symm.trans trust'
      | keyHandedOver _ key' => cases key.symm.trans key'
      | declared _ _ declared' loaded' =>
          cases declared.symm.trans declared'
          cases loaded.symm.trans loaded'
          rfl
      | undeclared _ _ undeclared => cases declared.symm.trans undeclared
  | undeclared trust key undeclared =>
      cases h' with
      | handedOver trust' => cases trust.symm.trans trust'
      | keyHandedOver => rfl
      | declared _ _ declared => cases undeclared.symm.trans declared
      | undeclared => rfl

/-- The source of a key store tells whether it was handed over. -/
theorem resolveKey_source {external : Option StoreHandle} {store : StoreHandle}
    {source : StoreSource}
    (h : loader.resolveKey machine settings external = .ok (store, source)) :
    source = .external ↔ external.isSome := by
  rcases Loader.resolveKey_eq_ok.mp h with ⟨rfl, rfl⟩ | ⟨rfl, rfl, -⟩
  · simp
  · simp

theorem trustChoice_of_resolveTrust {source : StoreSource} {store : Option StoreHandle}
    {trustSource : StoreSource} {password : Option Secret}
    (key : source = .external ↔ (material.bind Material.keyStore).isSome)
    (h : loader.resolveTrust machine settings source (material.bind Material.trustStore) =
      .ok (store, trustSource, password)) :
    TrustChoice loader machine settings material store trustSource password := by
  cases trust : material.bind Material.trustStore with
  | some handed =>
      rw [trust] at h
      cases h
      exact .handedOver trust
  | none =>
      rw [trust, Loader.resolveTrust] at h
      split at h
      · next external =>
          obtain ⟨keys, handed⟩ := Option.isSome_iff_exists.mp (key.mp external)
          cases h
          exact .keyHandedOver trust handed
      · next internal =>
          have unkeyed : material.bind Material.keyStore = none := by
            simpa using mt key.mpr internal
          split at h
          · next undeclared =>
              cases h
              exact .undeclared trust unkeyed undeclared
          · next declared =>
              obtain ⟨loaded, load, h⟩ := Outcome.bind_eq_ok.mp h
              cases h
              exact .declared trust unkeyed declared load

/-- What is resolved for trust is what is chosen. -/
theorem trustChoice_of_resolve {stores : ResolvedStores}
    (h : loader.resolve machine settings material = .ok stores) :
    TrustChoice loader machine settings material stores.trustStore stores.trustStoreSource
      stores.trustStorePassword := by
  have resolves := Loader.resolve_eq_ok.mp h
  exact trustChoice_of_resolveTrust (resolveKey_source resolves.key) resolves.trust

end

namespace HostConfig

variable {host : HostConfig} {settings : Settings} {stores : ResolvedStores}

@[simp] theorem trust_setProtocol (protocol : String) :
    (host.setProtocol protocol).trust = host.trust := rfl

@[simp] theorem trust_setCertificate (certificate : HostCertificate) :
    (host.setCertificate certificate).trust = host.trust := rfl

@[simp] theorem trust_setVerification (verification : ClientVerify) :
    (host.setVerification verification).trust = host.trust := rfl

@[simp] theorem trust_setTrustPassword {store : Option StoreHandle} {password : Option Secret} :
    ((host.setTrustStore store).setTrustPassword password).trust =
      (store, { host.trust.2 with trustPassword := password }) := rfl

@[simp] theorem trust_bindCiphers : (host.bindCiphers settings).trust = host.trust := by
  rw [bindCiphers]
  split <;> rfl

@[simp] theorem trust_bindProtocols : (host.bindProtocols settings).trust = host.trust := by
  rw [bindProtocols]
  split <;> rfl

/-- A host keeps what it has for trust where no trust store was resolved. -/
theorem trust_bind_of_none (resolved : stores.trustStore = none) :
    (host.bind settings stores).trust = host.trust := by
  simp [bind, bindTrust, resolved]

/-- A trust store that was resolved is the host's own from then on, with its password. -/
theorem trust_bind_of_some {store : StoreHandle} (resolved : stores.trustStore = some store) :
    (host.bind settings stores).trust =
      (some store, { host.trust.2 with trustPassword := stores.trustStorePassword }) := by
  simp [bind, bindTrust, resolved]

theorem trustStore_bind_of_none (resolved : stores.trustStore = none) :
    (host.bind settings stores).trustStore = host.trustStore :=
  congrArg Prod.fst (trust_bind_of_none resolved)

theorem trustStore_bind_of_some {store : StoreHandle} (resolved : stores.trustStore = some store) :
    (host.bind settings stores).trustStore = some store :=
  congrArg Prod.fst (trust_bind_of_some resolved)

theorem trustPassword_bind_of_none (resolved : stores.trustStore = none) :
    (host.bind settings stores).trustPassword = host.trustPassword :=
  congrArg (fun trust => trust.2.trustPassword) (trust_bind_of_none resolved)

theorem trustPassword_bind_of_some {store : StoreHandle}
    (resolved : stores.trustStore = some store) :
    (host.bind settings stores).trustPassword = stores.trustStorePassword :=
  congrArg (fun trust => trust.2.trustPassword) (trust_bind_of_some resolved)

/-- A host has the suites that are declared, joined by colons, or else those it had. -/
theorem ciphers_bind : (host.bind settings stores).ciphers =
    if settings.ciphers.isEmpty then host.ciphers
    else some (String.intercalate ":" settings.ciphers) := by
  have kept : (host.bind settings stores).ciphers = (host.bindCiphers settings).ciphers := by
    rw [bind, bindTrust, bindProtocols]
    split <;> split <;> rfl
  rw [kept, bindCiphers]
  split <;> rfl

/-- The certificate of a host is that of the stores that were written to it last. -/
theorem certificate_bind :
    (host.bind settings stores).certificate = some (certificateOf stores) := by
  rw [bind, bindTrust]
  split <;> rfl

end HostConfig

end TlsListener
