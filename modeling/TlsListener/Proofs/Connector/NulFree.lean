import TlsListener.Proofs.Connector.Run
import TlsListener.Proofs.Host.Binding
import TlsListener.Proofs.Text.Passable

/-!
# Runs without NUL characters

A start is interrupted by nothing but a NUL character that is handed to the engine. The suites and
the trust password of a host come from what is declared, from what is written to the host, and from
the platform. If none of these holds a NUL character, then no connector that is reached does, and
every start has an answer.
-/

namespace TlsListener

/-- The texts of a host that a start hands to the engine hold no NUL characters. -/
structure HostConfig.NulFree (host : HostConfig) : Prop where
  suites : ∀ suites, host.ciphers = some suites → isPassable suites = true
  password : isPassable (KeyStore.passwordText host.trustPassword) = true

/-- The texts of a customizer that end up in a host hold no NUL characters, and only these cut the
loading of a store short. -/
structure Customizer.NulFree (customizer : Customizer) : Prop where
  suites : ∀ suite ∈ customizer.settings.ciphers, isPassable suite = true
  password : isPassable (KeyStore.passwordText customizer.settings.trustStore.password) = true
  loads : customizer.loader.StopsOnlyAtNul

/-- An operation brings no NUL characters into a connector. -/
def Operation.NulFree : Operation → Prop
  | customize _ customizer => customizer.NulFree
  | setLoader loader => loader.StopsOnlyAtNul
  | modifyHost change => ∀ host : HostConfig, host.NulFree → (change host).NulFree
  | start _ | stop | accept _ => True

/-- A password that was chosen with a trust store is one that is declared. -/
theorem TrustChoice.passwordText_nulFree {loader : Loader} {machine : Machine} {settings : Settings}
    {material : Option Material} {store : Option StoreHandle} {source : StoreSource}
    {password : Option Secret}
    (choice : TrustChoice loader machine settings material store source password)
    (declared : isPassable (KeyStore.passwordText settings.trustStore.password) = true) :
    isPassable (KeyStore.passwordText password) = true := by
  cases choice with
  | declared => exact declared
  | _ => decide

theorem HostConfig.nulFree_ofDefaults {defaults : PlatformDefaults}
    (platform : isPassable (KeyStore.passwordText defaults.trustPassword) = true) :
    (ofDefaults defaults).NulFree where
  suites suites set := by cases set
  password := platform

theorem HostConfig.NulFree.bind {host : HostConfig} {customizer : Customizer} {machine : Machine}
    {stores : ResolvedStores} (h : host.NulFree) (free : customizer.NulFree)
    (resolved : customizer.loader.resolve machine customizer.settings customizer.material =
      .ok stores) : (host.bind customizer.settings stores).NulFree where
  suites suites set := by
    rw [ciphers_bind] at set
    split at set
    · exact h.suites suites set
    · cases set
      exact isPassable_intercalate.mpr free.suites
  password := by
    cases chosen : stores.trustStore with
    | none =>
        rw [trustPassword_bind_of_none chosen]
        exact h.password
    | some store =>
        rw [trustPassword_bind_of_some chosen]
        exact (trustChoice_of_resolve resolved).passwordText_nulFree free.password

namespace Connector

variable {engine : Engine} {connector : Connector}

/-- A connector has no NUL characters to hand to the engine, now or after a stop. -/
structure NulFree (connector : Connector) : Prop where
  host : connector.host.NulFree
  platform : isPassable (KeyStore.passwordText connector.defaults.trustPassword) = true
  loads : connector.loader.StopsOnlyAtNul

namespace NulFree

theorem create (engine : Engine) (address : Address) {defaults : PlatformDefaults}
    (platform : isPassable (KeyStore.passwordText defaults.trustPassword) = true) :
    (Connector.create engine address defaults).NulFree where
  host := HostConfig.nulFree_ofDefaults platform
  platform := platform
  loads := Loader.stopsOnlyAtNul_default engine

theorem apply (engine : Engine) (h : connector.NulFree) {operation : Operation}
    (free : operation.NulFree) : (operation.apply engine connector).NulFree := by
  cases operation with
  | customize machine customizer =>
      have ends := customizeEnds_customize machine connector customizer
      rw [Operation.apply]
      generalize connector.customize machine customizer = ended at ends ⊢
      cases ends with
      | bound _ _ resolved => exact ⟨h.host.bind free resolved, h.platform, free.loads⟩
      | failed => exact ⟨h.host, h.platform, h.loads⟩
      | _ => exact h
  | start machine =>
      rw [Operation.apply, start_eq_with]
      exact ⟨h.host, h.platform, h.loads⟩
  | stop => exact ⟨HostConfig.nulFree_ofDefaults h.platform, h.platform, h.loads⟩
  | setLoader loader => exact ⟨h.host, h.platform, free⟩
  | accept handshake => exact h
  | modifyHost change => exact ⟨free _ h.host, h.platform, h.loads⟩

theorem run (engine : Engine) (h : connector.NulFree) {operations : List Operation}
    (free : ∀ operation ∈ operations, operation.NulFree) :
    (connector.run engine operations).NulFree := by
  induction operations generalizing connector with
  | nil => exact h
  | cons operation operations ih =>
      have first := h.apply engine (free operation List.mem_cons_self)
      exact ih first fun later member => free later (List.mem_cons_of_mem _ member)

/-- A start of a connector without NUL characters is not interrupted. -/
theorem not_startInterrupted (h : connector.NulFree) (machine : Machine) :
    ¬connector.StartInterrupted engine machine := by
  rintro ⟨-, interrupted⟩
  refine ServerContext.not_interrupted h.loads ?_ h.host.password interrupted
  intro suites set name member
  exact isPassable_of_mem_suiteNames (h.host.suites suites set) member

end NulFree

end Connector

end TlsListener
