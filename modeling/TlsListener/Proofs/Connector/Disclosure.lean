import TlsListener.Connector.Display
import TlsListener.Proofs.Connector.Run
import TlsListener.Proofs.Store.Alike

/-!
# Passwords are not disclosed

Everything that an operator gets to see of a connector that is customized and started is the same
for any two runs that differ in nothing but the texts of passwords, as long as whoever is asked to
open a store or to check a password answers both runs alike. So what is seen tells no more about a
password than those answers do.

It is shown of each operation that what it leaves behind is the same once the passwords are taken
out. The only steps that read the text of a password are those that ask: the loading of the key
store and of the trust store when stores are resolved, and of the platform's trust store when a
context is made, and the check of the password against a trust store that was bound.
-/

namespace TlsListener

namespace HostConfig

variable {engine : Engine} {machine : Machine} {loader : Loader} {host host' : HostConfig}

/-- Whoever is asked in the making of anchors answers the same to the trust passwords of two
hosts. -/
structure AnchorsAlike (engine : Engine) (machine : Machine) (loader : Loader)
    (host host' : HostConfig) : Prop where
  checked : ∀ {store password password'}, host.trustStore = some store →
    host.trustPassword = some password → host'.trustPassword = some password' →
    (store.store.verifyPassword engine password : Outcome Failure Bool) =
      store.store.verifyPassword engine password'
  loaded : host.trustStore = none → host.hasPlatformTrust = true →
    loader.AnswersAlike machine host.trustFile host.trustType none host.trustPassword
      host'.trustPassword

theorem checkTrustPassword_congr {store : KeyStore}
    (same : Secret.redact host.trustPassword = Secret.redact host'.trustPassword)
    (checked : ∀ {password password'}, host.trustPassword = some password →
      host'.trustPassword = some password' →
      (store.verifyPassword engine password : Outcome Failure Bool) =
        store.verifyPassword engine password') :
    host.checkTrustPassword engine store = host'.checkTrustPassword engine store := by
  rw [checkTrustPassword, checkTrustPassword]
  cases first : host.trustPassword with
  | none =>
      cases second : host'.trustPassword with
      | none => rfl
      | some password' => simp [first, second, Secret.redact] at same
  | some password =>
      cases second : host'.trustPassword with
      | none => simp [first, second, Secret.redact] at same
      | some password' => simp only [checked first second]

theorem platformTrust_congr (same : host.redact = host'.redact)
    (alike : host.hasPlatformTrust = true → loader.AnswersAlike machine host.trustFile
      host.trustType none host.trustPassword host'.trustPassword) :
    host.platformTrust machine loader = host'.platformTrust machine loader := by
  obtain ⟨-, -, -, -, file, type, -⟩ := redact_inj.mp same
  have named : host.hasPlatformTrust = host'.hasPlatformTrust := by
    rw [hasPlatformTrust, hasPlatformTrust, file, type]
  rw [platformTrust, platformTrust, ← named]
  cases has : host.hasPlatformTrust with
  | false => rfl
  | true => rw [Loader.load_congr (alike has), file, type]

theorem anchors_congr (same : host.redact = host'.redact)
    (alike : AnchorsAlike engine machine loader host host') :
    host.anchors engine machine loader = host'.anchors engine machine loader := by
  obtain ⟨-, -, -, -, -, -, password, own, -⟩ := redact_inj.mp same
  have material : host.trustMaterial engine machine loader =
      host'.trustMaterial engine machine loader := by
    rw [trustMaterial, trustMaterial, ← own]
    cases held : host.trustStore with
    | some store =>
        have checked := checkTrustPassword_congr password (alike.checked held)
        simp only [checked]
    | none => exact platformTrust_congr same (alike.loaded held)
  rw [anchors, anchors, material]

end HostConfig

theorem ServerIdentity.ofHost_redact {engine : Engine} {list : Option String} {host : HostConfig} :
    ofHost engine list host.redact = ofHost engine list host := by
  have same : host.redact.certificate = host.certificate.map HostCertificate.redact := rfl
  rw [ofHost, ofHost, same]
  cases host.certificate <;> rfl

/-- Up to the anchors nothing of the passwords of a host goes into its context. -/
theorem ServerContext.unanchored_redact {engine : Engine} {host : HostConfig} :
    unanchored engine host.redact = unanchored engine host := by
  simp only [unanchored, ServerIdentity.ofHost_redact]
  rfl

/-- A customizer with its passwords taken out. -/
def Customizer.redact (customizer : Customizer) : Customizer :=
  { customizer with settings := customizer.settings.redact }

theorem Customizer.redact_inj {customizer customizer' : Customizer} :
    customizer.redact = customizer'.redact ↔
      customizer.settings.redact = customizer'.settings.redact ∧
      customizer.material = customizer'.material ∧ customizer.loader = customizer'.loader := by
  simp [redact]

theorem Customizer.debug_redact {customizer : Customizer} :
    customizer.redact.debug = customizer.debug := by
  rw [debug, debug]
  simp only [redact, Settings.debug_redact]

namespace Connector

variable {engine : Engine} {machine later : Machine} {connector connector' : Connector}
variable {customizer customizer' : Customizer}

/-- A connector with its passwords taken out. -/
def redact (connector : Connector) : Connector :=
  { connector with
    defaults := connector.defaults.redact
    host := connector.host.redact }

theorem redact_inj :
    connector.redact = connector'.redact ↔
      connector.address = connector'.address ∧
      connector.defaults.redact = connector'.defaults.redact ∧
      connector.host.redact = connector'.host.redact ∧
      connector.state = connector'.state ∧
      connector.loader = connector'.loader ∧
      connector.listener = connector'.listener ∧
      connector.context = connector'.context := by
  simp [redact]

theorem debug_redact : connector.redact.debug = connector.debug := by
  rw [debug, debug]
  simp only [redact, HostConfig.debug_redact]
  rfl

theorem redact_bindStores {stores : ResolvedStores} :
    (connector.bindStores customizer stores).redact =
      connector.redact.bindStores customizer.redact stores.redact := by
  change ({ connector.redact with
    host := (connector.host.bind customizer.settings stores).redact
    loader := customizer.loader } : Connector) = _
  rw [HostConfig.redact_bind]
  rfl

/-- An attempt to prepare is settled without a look at any password. -/
theorem redact_settle {attempt : Traced (ServerContext × Address)} :
    (connector.settle attempt).map redact id = connector.redact.settle attempt := by
  rcases attempt with ⟨events, (failure | _) | ⟨context, address⟩⟩ <;> rfl

/-- What is done to a connector with the stores that were resolved for it, or without them. -/
def conclude (connector : Connector) (customizer : Customizer)
    (resolved : Outcome Failure ResolvedStores) : Connector × Traced Unit :=
  match resolved with
  | .ok stores =>
    (connector.bindStores customizer stores, .log (HostConfig.bindEvents customizer.settings))
  | .error (.failure failure) => (connector.markFailed, .fail failure)
  | .error .cutShort => (connector, .ofOutcome .cutShort)

theorem customize_eq_conclude :
    connector.customize machine customizer =
      if !customizer.settings.enabled then (connector, .value ())
      else if !connector.isConfigurable then
        (connector, .fail (.invalidConfiguration (.notConfigurable connector.state)))
      else connector.conclude customizer
        (customizer.loader.resolve machine customizer.settings customizer.material) := rfl

theorem redact_conclude {resolved : Outcome Failure ResolvedStores} :
    (connector.conclude customizer resolved).map redact id =
      connector.redact.conclude customizer.redact (resolved.map ResolvedStores.redact) := by
  rcases resolved with (failure | _) | stores
  · rfl
  · rfl
  · exact congrArg (fun left => (left, _)) redact_bindStores

/-- In a customizing, whoever is asked answers the same to the passwords of two customizers. -/
def CustomizesAlike (machine : Machine) (connector : Connector)
    (customizer customizer' : Customizer) : Prop :=
  customizer.settings.enabled = true → connector.isConfigurable = true →
    customizer.loader.ResolvesAlike machine customizer.material customizer.settings
      customizer'.settings

/-- In a start, whoever is asked answers the same to the passwords of two connectors. Nobody is
asked unless all but the anchors of the context is made. -/
def PreparesAlike (engine : Engine) (machine : Machine) (connector connector' : Connector) : Prop :=
  ∀ {context}, connector.isConfigurable = true →
    (ServerContext.unanchored engine connector.host).outcome = .ok context →
    connector.host.AnchorsAlike engine machine connector.loader connector'.host

/-- Two customizers that differ in the texts of passwords only are answered the same, and leave
behind connectors that differ in them only. -/
theorem customize_congr (connectors : connector.redact = connector'.redact)
    (customizers : customizer.redact = customizer'.redact)
    (alike : CustomizesAlike machine connector customizer customizer') :
    (connector.customize machine customizer).1.redact =
        (connector'.customize machine customizer').1.redact ∧
      (connector.customize machine customizer).2 =
        (connector'.customize machine customizer').2 := by
  suffices same : (connector.customize machine customizer).map redact id =
      (connector'.customize machine customizer').map redact id from Prod.ext_iff.mp same
  obtain ⟨settings, material, loader⟩ := Customizer.redact_inj.mp customizers
  obtain ⟨enabled, -⟩ := Settings.redact_inj.mp settings
  obtain ⟨-, -, -, state, -⟩ := redact_inj.mp connectors
  have configurable : connector.isConfigurable = connector'.isConfigurable := by
    rw [isConfigurable, isConfigurable, state]
  rw [customize_eq_conclude, customize_eq_conclude, ← enabled, ← configurable]
  split
  · exact congrArg (fun left => (left, _)) connectors
  · next on =>
      split
      · rw [state]
        exact congrArg (fun left => (left, _)) connectors
      · next allowed =>
          have resolved := Loader.resolve_congr settings
            (alike (by simpa using on) (by simpa using allowed))
          rw [redact_conclude, redact_conclude, resolved, connectors, customizers, loader, material]

theorem prepare_congr (connectors : connector.redact = connector'.redact)
    (state : connector.isConfigurable = true)
    (alike : PreparesAlike engine machine connector connector') :
    connector.prepare engine machine = connector'.prepare engine machine := by
  obtain ⟨address, -, host, -, loader, -, -⟩ := redact_inj.mp connectors
  have unanchored : ServerContext.unanchored engine connector.host =
      ServerContext.unanchored engine connector'.host := by
    rw [← ServerContext.unanchored_redact, host, ServerContext.unanchored_redact]
  have made : ServerContext.ofHost engine machine connector.loader connector.host =
      ServerContext.ofHost engine machine connector'.loader connector'.host := by
    rw [ServerContext.ofHost_eq_unanchored, ServerContext.ofHost_eq_unanchored, ← unanchored]
    -- nobody is asked anything until a context lacks nothing but its anchors
    refine Traced.bind_congr_of_ok fun context ready => ?_
    rw [HostConfig.anchors_congr host (alike state ready), loader]
  rw [prepare, prepare, made, bindAddress, bindAddress, address]

theorem start_congr (connectors : connector.redact = connector'.redact)
    (alike : PreparesAlike engine machine connector connector') :
    (connector.start engine machine).1.redact = (connector'.start engine machine).1.redact ∧
      (connector.start engine machine).2 = (connector'.start engine machine).2 := by
  suffices same : (connector.start engine machine).map redact id =
      (connector'.start engine machine).map redact id from Prod.ext_iff.mp same
  obtain ⟨-, -, -, state, -, -, -⟩ := redact_inj.mp connectors
  have configurable : connector.isConfigurable = connector'.isConfigurable := by
    rw [isConfigurable, isConfigurable, state]
  rw [start, start, ← configurable]
  split
  · next allowed =>
      rw [redact_settle, redact_settle, connectors, prepare_congr connectors allowed alike]
  · rw [state]
    exact congrArg (fun left => (left, _)) connectors

/-- All that is told of a connector that is customized and then started. A failure is told by its
text and an event by its level, wording and fields, which have no need of places of their own. -/
structure Diagnostics where
  customized : Traced Unit
  started : Traced Unit
  /-- The settings of the customizer as they are shown. -/
  settings : String
  customizer : String
  /-- The host as it is shown after the start. -/
  host : String
  connector : String

/-- What is told of a connector that is customized on one machine, and later started on another. -/
def diagnostics (engine : Engine) (machine later : Machine) (connector : Connector)
    (customizer : Customizer) : Diagnostics :=
  let customized := connector.customize machine customizer
  let started := customized.1.start engine later
  { customized := customized.2
    started := started.2
    settings := customizer.settings.debug
    customizer := customizer.debug
    host := started.1.host.debug
    connector := started.1.debug }

/-- The texts of passwords show in nothing that is told, unless somebody who is asked for a store or
for a check answers differently to them. -/
theorem diagnostics_eq_of_alike (connectors : connector.redact = connector'.redact)
    (customizers : customizer.redact = customizer'.redact)
    (customizing : CustomizesAlike machine connector customizer customizer')
    (starting : PreparesAlike engine later (connector.customize machine customizer).1
      (connector'.customize machine customizer').1) :
    connector.diagnostics engine machine later customizer =
      connector'.diagnostics engine machine later customizer' := by
  obtain ⟨left, customized⟩ := customize_congr connectors customizers customizing
  obtain ⟨left, started⟩ := start_congr left starting
  obtain ⟨settings, -⟩ := Customizer.redact_inj.mp customizers
  obtain ⟨-, -, host, -⟩ := redact_inj.mp left
  have settingsShown : customizer.settings.debug = customizer'.settings.debug := by
    rw [← Settings.debug_redact, settings, Settings.debug_redact]
  have customizerShown : customizer.debug = customizer'.debug := by
    rw [← Customizer.debug_redact, customizers, Customizer.debug_redact]
  have hostShown : ((connector.customize machine customizer).1.start engine later).1.host.debug =
      ((connector'.customize machine customizer').1.start engine later).1.host.debug := by
    rw [← HostConfig.debug_redact, host, HostConfig.debug_redact]
  have connectorShown : ((connector.customize machine customizer).1.start engine later).1.debug =
      ((connector'.customize machine customizer').1.start engine later).1.debug := by
    rw [← debug_redact, left, debug_redact]
  simp only [diagnostics, customized, started, settingsShown, customizerShown, hostShown,
    connectorShown]

end Connector

/-! ### A store that opens with any password -/

namespace Sample

/-- An engine that finds a key and its certificate in every archive, with any password. -/
def opener : Engine :=
  { engine with archive _ := some fun _ => some ⟨some ⟨.unknown, []⟩, some certificate, []⟩ }

/-- A customizer that loads a key store with a password. -/
def customizerWith (password : String) : Customizer where
  settings := { keyStore := { location := some "server.p12", password := some ⟨password⟩ } }
  material := none
  loader := .default opener

/-- A connector on a platform with a trust store and a password. -/
def connectorWith (password : String) : Connector :=
  .create opener address
    { trustFile := some "ca.p12", trustType := .pkcs12, trustPassword := some ⟨password⟩ }

theorem answersAlike {location : Option String} {password password' : String}
    (passable : isPassable password = true) (passable' : isPassable password' = true) :
    (Loader.default opener).AnswersAlike machine location .pkcs12 none (some ⟨password⟩)
      (some ⟨password'⟩) := by
  intro chosen input selected given
  obtain rfl := Registry.mem_default.mp (Registry.mem_of_select selected)
  cases given with
  | nothing hardware => cases hardware
  | @contents _ bytes =>
      change KeyStore.ofArchive opener bytes _ _ = KeyStore.ofArchive opener bytes _ _
      simp [KeyStore.ofArchive, KeyStore.openArchive, KeyStore.passwordText, opener, passable,
        passable']

/-- The connector after it was customized, with the same password for both stores. -/
def customizedWith (password : String) : Connector :=
  ((connectorWith password).customize machine (customizerWith password)).1

theorem loader_customizedWith {password : String} :
    (customizedWith password).loader = .default opener := by
  have ends := Connector.customizeEnds_customize machine (connectorWith password)
    (customizerWith password)
  rw [customizedWith]
  generalize (connectorWith password).customize machine (customizerWith password) = ended
    at ends ⊢
  cases ends <;> rfl

end Sample

/-- With either of two passwords that open every store the connector starts, and nothing tells
which one it was. -/
theorem Connector.diagnostics_eq_of_alike_sample :
    (Sample.connectorWith "one").diagnostics Sample.opener Sample.machine Sample.machine
        (Sample.customizerWith "one") =
      (Sample.connectorWith "two").diagnostics Sample.opener Sample.machine Sample.machine
        (Sample.customizerWith "two") ∧
    ((Sample.customizedWith "one").start Sample.opener Sample.machine).2.outcome = .ok () := by
  refine ⟨diagnostics_eq_of_alike rfl rfl ?_ ?_, by decide +kernel⟩
  · intro _ _
    exact ⟨fun _ => Sample.answersAlike rfl rfl, fun _ _ _ declared => absurd rfl declared⟩
  · intro context _ _
    change (Sample.customizedWith "one").host.AnchorsAlike Sample.opener Sample.machine
      (Sample.customizedWith "one").loader (Sample.customizedWith "two").host
    have type : (Sample.customizedWith "one").host.trustType = .pkcs12 := by decide +kernel
    have first : (Sample.customizedWith "one").host.trustPassword = some ⟨"one"⟩ := by
      decide +kernel
    have second : (Sample.customizedWith "two").host.trustPassword = some ⟨"two"⟩ := by
      decide +kernel
    have unheld : (Sample.customizedWith "one").host.trustStore.isNone = true := by decide +kernel
    refine ⟨fun held => ?_, fun _ _ => ?_⟩
    · simp [held] at unheld
    · rw [Sample.loader_customizedWith, type, first, second]
      exact Sample.answersAlike rfl rfl

end TlsListener
