import TlsListener.Proofs.Connector.Run
import TlsListener.Proofs.Store.Resolution

/-!
# When customizing and starting settle

Customizing and starting are to end with an answer: with success, or with a failure that the state
of the connector tells as well. As long as the providers of stores answer, there is one thing only
that keeps them from it, a NUL character in a text that they hand to the engine. Such a text may be
the password of a key store or of a trust store, and at a start also the name of a suite.

Not every text with a NUL character is handed over. The rules below tell when it is: a password if
the built-in provider is chosen for a file that asks for one, and whatever comes later in the order
of the steps if none of the earlier steps has failed.
-/

namespace TlsListener

variable {engine : Engine} {machine : Machine}

/-- A customizer hands a password with a NUL character to the engine, for the key store, or after
that has been loaded for the trust store. -/
inductive Customizer.HandsNul (engine : Engine) (machine : Machine) (customizer : Customizer) :
    Prop where
  | key (key : customizer.material.bind Material.keyStore = none)
      (hands : customizer.loader.HandsNul engine machine customizer.settings.keyStore.location
        customizer.settings.keyStorePassword customizer.settings.keyStore.type
        customizer.settings.keyStore.provider) :
      HandsNul engine machine customizer
  | trust {keyStore : StoreHandle} {location : String}
      (key : customizer.material.bind Material.keyStore = none)
      (loaded : customizer.loader.load machine .key customizer.settings.keyStore.location
        customizer.settings.keyStorePassword customizer.settings.keyStore.type
        customizer.settings.keyStore.provider = .ok keyStore)
      (trust : customizer.material.bind Material.trustStore = none)
      (declared : customizer.settings.trustStore.location = some location)
      (hands : customizer.loader.HandsNul engine machine (some location)
        customizer.settings.trustStore.password customizer.settings.trustStore.type
        customizer.settings.trustStore.provider) :
      HandsNul engine machine customizer

theorem Customizer.resolve_eq_cutShort {customizer : Customizer}
    (reliable : customizer.loader.IsReliable engine) :
    customizer.loader.resolve machine customizer.settings customizer.material = .error .cutShort ↔
      customizer.HandsNul engine machine := by
  rw [Loader.resolve_eq_error]
  constructor
  · intro stops
    cases stops with
    | key unheld cut => exact .key unheld (reliable.cutShort_iff_handsNul.mp cut)
    | trust unheld loaded untrusted declared cut =>
        exact .trust unheld loaded untrusted declared (reliable.cutShort_iff_handsNul.mp cut)
  · intro hands
    cases hands with
    | key unheld hands => exact .key unheld (reliable.cutShort_iff_handsNul.mpr hands)
    | trust unheld loaded untrusted declared hands =>
        exact .trust unheld loaded untrusted declared (reliable.cutShort_iff_handsNul.mpr hands)

/-- The password of a trust store with a NUL character is handed to the engine: when it is checked
against the host's own trust store, or when the trust store of the platform is loaded with it. -/
inductive HostConfig.HandsNul (engine : Engine) (machine : Machine) (loader : Loader)
    (host : HostConfig) : Prop where
  | checking {store : StoreHandle} {password : Secret} (own : host.trustStore = some store)
      (set : host.trustPassword = some password) (tried : store.store.isTried engine = true)
      (nul : isPassable password.expose = false) :
      HandsNul engine machine loader host
  | loading (unset : host.trustStore = none) (named : host.hasPlatformTrust = true)
      (hands : loader.HandsNul engine machine host.trustFile host.trustPassword host.trustType
        none) :
      HandsNul engine machine loader host

theorem HostConfig.trustCutShort_iff_handsNul {loader : Loader} {host : HostConfig}
    (reliable : loader.IsReliable engine) :
    host.TrustCutShort engine machine loader ↔ host.HandsNul engine machine loader := by
  constructor
  · intro cut
    cases cut with
    | checking own set tried nul => exact .checking own set tried nul
    | loading unset named cut =>
        exact .loading unset named (reliable.cutShort_iff_handsNul.mp cut)
  · intro hands
    cases hands with
    | checking own set tried nul => exact .checking own set tried nul
    | loading unset named hands =>
        exact .loading unset named (reliable.cutShort_iff_handsNul.mpr hands)

/-- The making of a context hands a text with a NUL character to the engine: the name of a suite, or
once all else has succeeded the password of a trust store. -/
inductive ServerContext.HandsNul (engine : Engine) (machine : Machine) (loader : Loader)
    (host : HostConfig) : Prop where
  | suite {enabled : List Version} {suites name : String}
      (parsed : enabledVersions host.enabledProtocols = .ok enabled)
      (set : host.ciphers = some suites) (member : name ∈ suiteNames suites)
      (nul : isPassable name = false) :
      HandsNul engine machine loader host
  | trust {enabled versions : List Version} {lists : SuiteLists} {range : VersionRange}
      {identity : ServerIdentity}
      (parsed : enabledVersions host.enabledProtocols = .ok enabled)
      (chosen : (chooseSuites engine host.ciphers enabled).outcome = .ok (lists, versions))
      (ranged : VersionRange.ofVersions versions = .ok range)
      (identified : ServerIdentity.ofHost engine lists.classic host = .ok identity)
      (hands : host.HandsNul engine machine loader) :
      HandsNul engine machine loader host

theorem ServerContext.interrupted_iff_handsNul {loader : Loader} {host : HostConfig}
    (reliable : loader.IsReliable engine) :
    Interrupted engine machine loader host ↔ HandsNul engine machine loader host := by
  constructor
  · intro cut
    cases cut with
    | suite parsed set member nul => exact .suite parsed set member nul
    | trust parsed chosen ranged identified cut =>
        exact .trust parsed chosen ranged identified
          ((HostConfig.trustCutShort_iff_handsNul reliable).mp cut)
  · intro hands
    cases hands with
    | suite parsed set member nul => exact .suite parsed set member nul
    | trust parsed chosen ranged identified hands =>
        exact .trust parsed chosen ranged identified
          ((HostConfig.trustCutShort_iff_handsNul reliable).mpr hands)

namespace Connector

variable {connector : Connector}

/-- Customizing ends with an answer, and a failure with a connector that has failed. -/
def CustomizeSettles (ended : Connector × Traced Unit) : Prop :=
  ended.2.outcome = .ok () ∨
    ∃ failure, ended.2.outcome = .error (.failure failure) ∧ ended.1.state = .failed

/-- A start ends with an answer, success with a connector that is started and a failure with one
that has failed. -/
def StartSettles (ended : Connector × Traced Unit) : Prop :=
  (ended.2.outcome = .ok () ∧ ended.1.state = .started) ∨
    ∃ failure, ended.2.outcome = .error (.failure failure) ∧ ended.1.state = .failed

theorem customizeSettles_iff {customizer : Customizer} (state : connector.isConfigurable = true)
    (reliable : customizer.loader.IsReliable engine) :
    CustomizeSettles (connector.customize machine customizer) ↔
      ¬(customizer.settings.enabled = true ∧ customizer.HandsNul engine machine) := by
  rw [← Customizer.resolve_eq_cutShort reliable]
  have ends := customizeEnds_customize machine connector customizer
  generalize connector.customize machine customizer = ended at ends ⊢
  cases ends with
  | disabled disabled => simp [CustomizeSettles, disabled]
  | refused _ refused => cases state.symm.trans refused
  | bound _ _ resolved => simp [CustomizeSettles, resolved, Traced.log]
  | failed _ _ resolved => simp [CustomizeSettles, resolved, Outcome.fail, markFailed]
  | cut enabled _ resolved => simp [CustomizeSettles, enabled, resolved, Outcome.cutShort]

theorem startSettles_iff (state : connector.isConfigurable = true)
    (reliable : connector.loader.IsReliable engine) :
    StartSettles (connector.start engine machine) ↔
      ¬ServerContext.HandsNul engine machine connector.loader connector.host := by
  rw [← ServerContext.interrupted_iff_handsNul reliable, ← prepare_eq_cutShort]
  have ends := startEnds_start engine machine connector
  generalize connector.start engine machine = ended at ends ⊢
  cases ends with
  | refused refused => cases state.symm.trans refused
  | started _ prepared => simp [StartSettles, prepared]
  | failed _ prepared => simp [StartSettles, prepared, markFailed]
  | cut _ prepared => simp [StartSettles, prepared]

/-- Customizing and starting settle exactly if they hand no text with a NUL character to the engine,
as long as the providers answer. A start that does not is left in its middle. -/
theorem settles_iff_not_handsNul (engine : Engine) (machine : Machine)
    (state : connector.isConfigurable = true) (reliable : connector.loader.IsReliable engine) :
    (∀ customizer : Customizer, customizer.loader.IsReliable engine →
      (CustomizeSettles (connector.customize machine customizer) ↔
        ¬(customizer.settings.enabled = true ∧ customizer.HandsNul engine machine))) ∧
    (StartSettles (connector.start engine machine) ↔
      ¬ServerContext.HandsNul engine machine connector.loader connector.host) ∧
    ((connector.start engine machine).1.state = .starting ↔
      ServerContext.HandsNul engine machine connector.loader connector.host) := by
  refine ⟨fun customizer => customizeSettles_iff state, startSettles_iff state reliable, ?_⟩
  rw [(start_state engine machine state).2.2, start_eq_cutShort, StartInterrupted,
    ServerContext.interrupted_iff_handsNul reliable]
  exact and_iff_right state

/-- A connector whose host has one suite that the engine knows and one with a NUL character in its
name is left in the middle of its start. -/
theorem settles_iff_not_handsNul_sample :
    (Sample.connector ["TLSv1.2"] "A:a\x00b").isConfigurable = true ∧
    (Sample.connector ["TLSv1.2"] "A:a\x00b").loader.IsReliable Sample.engine ∧
    Sample.customizer.loader.IsReliable Sample.engine ∧
    (CustomizeSettles
        ((Sample.connector ["TLSv1.2"] "A:a\x00b").customize Sample.machine Sample.customizer) ↔
      ¬(Sample.customizer.settings.enabled = true ∧
        Sample.customizer.HandsNul Sample.engine Sample.machine)) ∧
    ¬StartSettles ((Sample.connector ["TLSv1.2"] "A:a\x00b").start Sample.engine Sample.machine) ∧
    ((Sample.connector ["TLSv1.2"] "A:a\x00b").start Sample.engine Sample.machine).1.state =
      .starting ∧
    ServerContext.HandsNul Sample.engine Sample.machine
      (Sample.connector ["TLSv1.2"] "A:a\x00b").loader
      (Sample.connector ["TLSv1.2"] "A:a\x00b").host := by
  have reliable : (Loader.default Sample.engine).IsReliable Sample.engine :=
    Loader.isReliable_default Sample.engine
  have starting : ((Sample.connector ["TLSv1.2"] "A:a\x00b").start Sample.engine
      Sample.machine).1.state = .starting := by
    decide +kernel
  have configurable : (Sample.connector ["TLSv1.2"] "A:a\x00b").isConfigurable = true := rfl
  obtain ⟨customized, settles, middle⟩ :=
    settles_iff_not_handsNul Sample.engine Sample.machine configurable reliable
  have hands := middle.mp starting
  exact ⟨configurable, reliable, reliable, customized Sample.customizer reliable,
    fun settled => settles.mp settled hands, starting, hands⟩

end Connector

namespace Sample

/-- A password with a NUL character for the archive that holds the key store. -/
def nulPassword : Customizer where
  settings := { keyStore := { location := some "server.p12", password := some ⟨"a\x00b"⟩ } }
  material := none
  loader := .default archivist

/-- The name of a suite with a NUL character, beside a key store that was handed over. -/
def nulSuite : Customizer :=
  { customizer with settings := { customizer.settings with ciphers := ["a\x00b"] } }

end Sample

/-- Neither settles: the password leaves a connector as it was, and the suite leaves one in the
middle of its start. -/
theorem Connector.not_settles_nul :
    ¬CustomizeSettles ((create Sample.archivist Sample.address {}).customize Sample.machine
      Sample.nulPassword) ∧
    ¬StartSettles (((create Sample.engine Sample.address {}).customize Sample.machine
      Sample.nulSuite).1.start Sample.engine Sample.machine) ∧
    (((create Sample.engine Sample.address {}).customize Sample.machine
      Sample.nulSuite).1.start Sample.engine Sample.machine).1.state = .starting := by
  have customized : ((create Sample.archivist Sample.address {}).customize Sample.machine
      Sample.nulPassword).2.outcome = .error .cutShort := by
    decide +kernel
  have started : (((create Sample.engine Sample.address {}).customize Sample.machine
      Sample.nulSuite).1.start Sample.engine Sample.machine).2.outcome = .error .cutShort := by
    decide +kernel
  refine ⟨?_, ?_, by decide +kernel⟩
  · simp [CustomizeSettles, customized]
  · simp [StartSettles, started]

end TlsListener
