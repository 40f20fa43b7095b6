import TlsListener.Proofs.Connector.Settling

/-!
# Customizing does all or nothing

Customizing writes to a connector after everything that can go wrong has gone well. Up to then
stores are loaded, but they are not bound: the host and the loader of the connector are written
together, at the end, or not at all. What may be left of an attempt before that is a connector that
has failed, and only if it could have been customized.

Nothing can go wrong but what is declared and the loading of the stores. In between a provider may
be cut short. Then there is no answer, and the connector is as it was.
-/

namespace TlsListener

/-- The failures of customizing: something is wrong with what is declared, or a store cannot be
loaded. -/
inductive Failure.OfCustomizing : Failure → Prop where
  | configuration (cause : ConfigurationCause) : OfCustomizing (.invalidConfiguration cause)
  | store (role : StoreRole) (location : Option String) (source : StoreFailure) :
      OfCustomizing (.storeLoad role location source)

section

variable {loader : Loader} {machine : Machine} {role : StoreRole} {location : Option String}
variable {password : Option Secret} {type : StoreType} {provider : Option String}
variable {settings : Settings} {material : Option Material} {failure : Failure}

theorem Loader.ofCustomizing_of_load
    (h : loader.load machine role location password type provider = .error (.failure failure)) :
    failure.OfCustomizing := by
  rcases load_eq_failure h with ⟨-, rfl⟩ | ⟨source, rfl⟩
  · exact .configuration _
  · exact .store role location source

theorem Loader.StopsResolving.ofCustomizing
    (h : loader.StopsResolving machine settings material (.failure failure)) :
    failure.OfCustomizing := by
  cases h with
  | key _ stopped => exact ofCustomizing_of_load stopped
  | trust _ _ _ _ stopped => exact ofCustomizing_of_load stopped
  | aliasAbsent => exact .configuration _

end

namespace Connector

variable {engine : Engine} {machine : Machine} {connector : Connector} {customizer : Customizer}

/-- What customizing does to a connector, in each of the ways in which it ends. -/
structure CustomizesAtomically (engine : Engine) (machine : Machine) (connector : Connector)
    (customizer : Customizer) (ended : Connector × Traced Unit) : Prop where
  /-- Where TLS is not enabled it succeeds in every state, and leaves everything as it was. -/
  disabled : customizer.settings.enabled = false → ended = (connector, .value ())
  /-- A state that does not allow it is told, and everything is left as it was. -/
  refused : customizer.settings.enabled = true → connector.isConfigurable = false →
    ended = (connector, .fail (.invalidConfiguration (.notConfigurable connector.state)))
  /-- Where the stores fail to be resolved, at whichever step, their failure is the answer, and
  nothing is written but the state. -/
  failed : customizer.settings.enabled = true → connector.isConfigurable = true → ∀ {failure},
    customizer.loader.resolve machine customizer.settings customizer.material =
      .error (.failure failure) →
    customizer.loader.StopsResolving machine customizer.settings customizer.material
        (.failure failure) ∧
      ended = ({ connector with state := .failed }, .fail failure)
  /-- With the stores that are resolved the host and the loader are written, and nothing else. -/
  bound : customizer.settings.enabled = true → connector.isConfigurable = true → ∀ {stores},
    customizer.loader.resolve machine customizer.settings customizer.material = .ok stores →
    ended =
      ({ connector with
          host := connector.host.bind customizer.settings stores
          loader := customizer.loader },
        .log (HostConfig.bindEvents customizer.settings))
  /-- Without success the host, the loader, and all else but the state are left as they were. -/
  kept : ended.2.outcome ≠ .ok () → ended.1 = { connector with state := ended.1.state }
  /-- The state is written by a failure only, and only in a state that allows it. -/
  state : ended.1.state ≠ connector.state → ended.1.state = .failed ∧
    connector.isConfigurable = true ∧ ∃ failure, ended.2.outcome = .error (.failure failure)
  /-- No failure is an answer but those of customizing. -/
  failure : ∀ {failure}, ended.2.outcome = .error (.failure failure) → failure.OfCustomizing
  /-- Without an answer everything is left as it was. -/
  cut : ended.2.outcome = .error .cutShort → ended.1 = connector
  /-- There is an answer, unless the engine is handed a password with a NUL character. -/
  answered : customizer.loader.IsReliable engine →
    (ended.2.outcome = .error .cutShort ↔
      customizer.settings.enabled = true ∧ connector.isConfigurable = true ∧
        customizer.HandsNul engine machine)

theorem customize_of_disabled (disabled : customizer.settings.enabled = false) :
    connector.customize machine customizer = (connector, .value ()) := by
  simp [customize, disabled]

theorem customize_of_refused (enabled : customizer.settings.enabled = true)
    (state : connector.isConfigurable = false) :
    connector.customize machine customizer =
      (connector, .fail (.invalidConfiguration (.notConfigurable connector.state))) := by
  simp [customize, enabled, state]

theorem customize_of_failure (enabled : customizer.settings.enabled = true)
    (state : connector.isConfigurable = true) {failure : Failure}
    (stopped : customizer.loader.resolve machine customizer.settings customizer.material =
      .error (.failure failure)) :
    connector.customize machine customizer =
      ({ connector with state := .failed }, .fail failure) := by
  simp [customize, enabled, state, stopped, markFailed]

theorem customize_of_stores (enabled : customizer.settings.enabled = true)
    (state : connector.isConfigurable = true) {stores : ResolvedStores}
    (resolved : customizer.loader.resolve machine customizer.settings customizer.material =
      .ok stores) :
    connector.customize machine customizer =
      ({ connector with
          host := connector.host.bind customizer.settings stores
          loader := customizer.loader },
        .log (HostConfig.bindEvents customizer.settings)) := by
  simp [customize, enabled, state, resolved, bindStores, setLoader, modifyHost]

theorem customize_of_not_ok (h : (connector.customize machine customizer).2.outcome ≠ .ok ()) :
    (connector.customize machine customizer).1 =
      { connector with state := (connector.customize machine customizer).1.state } := by
  have ends := customizeEnds_customize machine connector customizer
  generalize connector.customize machine customizer = ended at ends h ⊢
  cases ends with
  | disabled => rfl
  | refused => rfl
  | bound => exact absurd rfl h
  | failed => rfl
  | cut => rfl

theorem customize_state
    (h : (connector.customize machine customizer).1.state ≠ connector.state) :
    (connector.customize machine customizer).1.state = .failed ∧
      connector.isConfigurable = true ∧
      ∃ failure, (connector.customize machine customizer).2.outcome =
        .error (.failure failure) := by
  have ends := customizeEnds_customize machine connector customizer
  generalize connector.customize machine customizer = ended at ends h ⊢
  cases ends with
  | disabled => exact absurd rfl h
  | refused => exact absurd rfl h
  | bound => exact absurd rfl h
  | failed _ state => exact ⟨rfl, state, _, rfl⟩
  | cut => exact absurd rfl h

theorem ofCustomizing_of_customize {failure : Failure}
    (h : (connector.customize machine customizer).2.outcome = .error (.failure failure)) :
    failure.OfCustomizing := by
  have ends := customizeEnds_customize machine connector customizer
  generalize connector.customize machine customizer = ended at ends h
  cases ends with
  | disabled => cases h
  | refused =>
      cases h
      exact .configuration _
  | bound => cases h
  | failed _ _ resolved =>
      cases h
      exact (Loader.resolve_eq_error.mp resolved).ofCustomizing
  | cut => cases h

theorem customize_eq_cutShort (reliable : customizer.loader.IsReliable engine) :
    (connector.customize machine customizer).2.outcome = .error .cutShort ↔
      customizer.settings.enabled = true ∧ connector.isConfigurable = true ∧
        customizer.HandsNul engine machine := by
  rw [← Customizer.resolve_eq_cutShort reliable]
  have ends := customizeEnds_customize machine connector customizer
  generalize connector.customize machine customizer = ended at ends ⊢
  cases ends with
  | disabled disabled => simp [disabled]
  | refused _ state => simp [state]
  | bound _ _ resolved => simp [resolved, Traced.log]
  | failed _ _ resolved => simp [resolved, Outcome.fail]
  | cut enabled state resolved => simp [enabled, state, resolved, Outcome.cutShort]

/-- Any customizer does all or nothing to any connector. -/
theorem customizesAtomically (engine : Engine) (machine : Machine) (connector : Connector)
    (customizer : Customizer) :
    CustomizesAtomically engine machine connector customizer
      (connector.customize machine customizer) where
  disabled := customize_of_disabled
  refused := customize_of_refused
  failed enabled state _ stopped :=
    ⟨Loader.resolve_eq_error.mp stopped, customize_of_failure enabled state stopped⟩
  bound enabled state _ resolved := customize_of_stores enabled state resolved
  kept := customize_of_not_ok
  state := customize_state
  failure := ofCustomizing_of_customize
  cut := customize_of_cutShort
  answered := customize_eq_cutShort

end Connector

end TlsListener
