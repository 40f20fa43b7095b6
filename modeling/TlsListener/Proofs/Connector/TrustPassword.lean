import TlsListener.Proofs.Connector.Run
import TlsListener.Proofs.Context.TrustWarning
import TlsListener.Proofs.Host.Binding
import TlsListener.Proofs.Store.Verification

/-!
# The password of a trust store is the right one

A connector has its trust store from a customizer, and with the store the password. A store that was
handed over comes without a password, and a store that is declared comes with the very password that
it was loaded with, if any. Until then the connector has the password of the platform and no store.
The two are written together and taken back together, so no sequence of customizers, starts and
stops pairs a store with the password of another. Therefore no start warns of a trust password that
was refused, unless somebody writes to the settings of the host by hand.
-/

namespace TlsListener

/-- The trust store of a host and its password belong together: they are as the platform has them,
or one of the customizers among some operations brought both. -/
inductive TrustPair (defaults : PlatformDefaults) (operations : List Operation) :
    Option StoreHandle → Option Secret → Prop where
  | platform : TrustPair defaults operations none defaults.trustPassword
  | handedOver {machine : Machine} {customizer : Customizer} {store : StoreHandle}
      (applied : .customize machine customizer ∈ operations)
      (trust : customizer.material.bind Material.trustStore = some store) :
      TrustPair defaults operations (some store) none
  | declared {machine : Machine} {customizer : Customizer} {location : String}
      {store : StoreHandle} (applied : .customize machine customizer ∈ operations)
      (declared : customizer.settings.trustStore.location = some location)
      (loaded : customizer.loader.load machine .trust (some location)
        customizer.settings.trustStore.password customizer.settings.trustStore.type
        customizer.settings.trustStore.provider = .ok store) :
      TrustPair defaults operations (some store) customizer.settings.trustStore.password

/-- An operation loads the stores that it writes to a host with plain providers only. -/
def Operation.LoadsPlainly (engine : Engine) : Operation → Prop
  | customize _ customizer => customizer.loader.IsPlain engine
  | start _ | stop | setLoader _ | accept _ | modifyHost _ => True

namespace TrustPair

variable {defaults : PlatformDefaults} {operations : List Operation}

/-- Operations that are done later part nothing. -/
theorem concat {store : Option StoreHandle} {password : Option Secret}
    (h : TrustPair defaults operations store password) (last : Operation) :
    TrustPair defaults (operations ++ [last]) store password := by
  cases h with
  | platform => exact .platform
  | handedOver applied trust => exact .handedOver (List.mem_append_left _ applied) trust
  | declared applied declared loaded =>
      exact .declared (List.mem_append_left _ applied) declared loaded

/-- What is resolved is bound as a pair, and where nothing is the pair of the host remains. -/
theorem bind {host : HostConfig} {machine : Machine} {customizer : Customizer}
    {stores : ResolvedStores} (h : TrustPair defaults operations host.trustStore host.trustPassword)
    (resolved : customizer.loader.resolve machine customizer.settings customizer.material =
      .ok stores) :
    TrustPair defaults (operations ++ [.customize machine customizer])
      (host.bind customizer.settings stores).trustStore
      (host.bind customizer.settings stores).trustPassword := by
  have applied : .customize machine customizer ∈ operations ++ [.customize machine customizer] :=
    List.mem_append_right _ (List.mem_singleton.mpr rfl)
  have choice := trustChoice_of_resolve resolved
  cases trust : stores.trustStore with
  | none =>
      rw [HostConfig.trustStore_bind_of_none trust, HostConfig.trustPassword_bind_of_none trust]
      exact h.concat _
  | some store =>
      rw [HostConfig.trustStore_bind_of_some trust, HostConfig.trustPassword_bind_of_some trust]
      rw [trust] at choice
      generalize stores.trustStoreSource = source, stores.trustStorePassword = password at choice ⊢
      cases choice with
      | handedOver trust => exact .handedOver applied trust
      | declared _ _ declared loaded => exact .declared applied declared loaded

/-- A trust store does not refuse the password that it was paired with. -/
theorem not_refuses {engine : Engine} {host : HostConfig} {store : StoreHandle} {password : Secret}
    (h : TrustPair defaults operations host.trustStore host.trustPassword)
    (plain : ∀ operation ∈ operations, operation.LoadsPlainly engine) :
    ¬host.RefusesTrustPassword engine store password := by
  rintro ⟨own, set, refused⟩
  rw [own, set] at h
  generalize given : some password = paired at h
  cases h with
  | handedOver => cases given
  | declared applied _ loaded =>
      rw [← given] at loaded
      have verified : (store.store.verifyPassword engine password : Outcome Failure Bool) =
          .ok true :=
        Loader.IsPlain.verifyPassword (plain _ applied) loaded
      cases refused.symm.trans verified

end TrustPair

namespace Connector

variable {engine : Engine} {machine : Machine} {connector : Connector}

theorem mem_events_prepare {event : Event} :
    event ∈ (connector.prepare engine machine).events ↔
      event ∈ (ServerContext.ofHost engine machine connector.loader connector.host).events := by
  rw [prepare, Traced.mem_events_bind, or_iff_left_iff_imp]
  rintro ⟨context, -, logged⟩
  rcases Traced.mem_events_bind.mp logged with logged | ⟨address, -, logged⟩ <;> cases logged

/-- A start warns of nothing but a password that the host's trust store refuses. -/
theorem refusesTrustPassword_of_mem_events
    (logged : .trustPasswordRefused ∈ (connector.start engine machine).2.events) :
    ∃ store password, connector.host.RefusesTrustPassword engine store password := by
  have ends := startEnds_start engine machine connector
  generalize connector.start engine machine = ended at ends logged
  have prepared (logged : .trustPasswordRefused ∈ (connector.prepare engine machine).events) :
      ∃ store password, connector.host.RefusesTrustPassword engine store password :=
    ServerContext.refusesTrustPassword_of_mem_events (mem_events_prepare.mp logged)
  cases ends with
  | refused => cases logged
  | started => exact prepared logged
  | failed => exact prepared (by simpa using logged)
  | cut => exact prepared logged

/-- The trust store of a new connector and its password belong together after every run in which
nobody writes to the settings of its host by hand. -/
theorem trustPair_run {operations : List Operation}
    (initial : connector.host = .ofDefaults connector.defaults)
    (unwritten : ∀ change, .modifyHost change ∉ operations) :
    TrustPair connector.defaults operations (connector.run engine operations).host.trustStore
      (connector.run engine operations).host.trustPassword := by
  induction operations using List.reverseRecOn with
  | nil =>
      rw [run_nil, initial]
      exact .platform
  | append_singleton operations last ih =>
      simp only [List.mem_append, not_or] at unwritten
      have h := ih fun change => (unwritten change).1
      have ends := hostEnds_apply engine (connector.run engine operations) last
      rw [run_concat]
      generalize (last.apply engine (connector.run engine operations)).host = host at ends ⊢
      cases ends with
      | kept => exact h.concat _
      | bound _ _ resolved => exact h.bind resolved
      | stopped =>
          rw [(run_keeps operations).2]
          exact .platform
      | modified change => exact absurd (List.mem_singleton.mpr rfl) (unwritten change).2

/-- After every run of a new connector in which nobody writes to the settings of its host by hand,
its trust store and the password belong together, and no start warns that the one has refused the
other, where every provider is the one that is built in or builds its stores itself. -/
theorem trustPasswordRefused_not_mem (engine : Engine) (address : Address)
    (defaults : PlatformDefaults) {operations : List Operation}
    (unwritten : ∀ change, .modifyHost change ∉ operations)
    (plain : ∀ operation ∈ operations, operation.LoadsPlainly engine) :
    TrustPair defaults operations
      ((create engine address defaults).run engine operations).host.trustStore
      ((create engine address defaults).run engine operations).host.trustPassword ∧
    ∀ machine, .trustPasswordRefused ∉
      (((create engine address defaults).run engine operations).start engine machine).2.events := by
  have paired : TrustPair defaults operations
      ((create engine address defaults).run engine operations).host.trustStore
      ((create engine address defaults).run engine operations).host.trustPassword :=
    have initial : (create engine address defaults).host =
        .ofDefaults (create engine address defaults).defaults :=
      rfl
    trustPair_run initial unwritten
  refine ⟨paired, fun machine logged => ?_⟩
  obtain ⟨store, password, refuses⟩ := refusesTrustPassword_of_mem_events logged
  exact paired.not_refuses plain refuses

end Connector

/-- A connector is customized with a key store and a trust store that are declared. -/
def Sample.declared : List Operation :=
  [.customize machine
    { settings :=
        { keyStore := { location := some "server.p12", password := some ⟨"secret"⟩ }
          trustStore := { location := some "clients.p12", password := some ⟨"secret"⟩ } }
      material := none
      loader := .default archivist }]

/-- A trust store that was loaded with a password is started with, and the password is still the
right one. -/
theorem Connector.trustPasswordRefused_not_mem_sample :
    (∀ change, .modifyHost change ∉ Sample.declared) ∧
    (∀ operation ∈ Sample.declared, operation.LoadsPlainly Sample.archivist) ∧
    ((create Sample.archivist Sample.address {}).run Sample.archivist
      Sample.declared).host.trustPassword = some ⟨"secret"⟩ ∧
    (((create Sample.archivist Sample.address {}).run Sample.archivist Sample.declared).start
      Sample.archivist Sample.machine).2.outcome = .ok () ∧
    TrustPair {} Sample.declared
      ((create Sample.archivist Sample.address {}).run Sample.archivist
        Sample.declared).host.trustStore
      ((create Sample.archivist Sample.address {}).run Sample.archivist
        Sample.declared).host.trustPassword ∧
    ∀ machine, .trustPasswordRefused ∉
      (((create Sample.archivist Sample.address {}).run Sample.archivist Sample.declared).start
        Sample.archivist machine).2.events := by
  have unwritten : ∀ change, .modifyHost change ∉ Sample.declared := by simp [Sample.declared]
  have plain : ∀ operation ∈ Sample.declared, operation.LoadsPlainly Sample.archivist := by
    intro operation member
    obtain rfl := List.mem_singleton.mp member
    exact Loader.isPlain_default Sample.archivist
  refine ⟨unwritten, plain, by decide +kernel, by decide +kernel, ?_⟩
  exact trustPasswordRefused_not_mem Sample.archivist Sample.address {} unwritten plain

end TlsListener
