import TlsListener.Connector.Customize
import TlsListener.Connector.Session
import TlsListener.Proofs.Connector.Start

/-!
# Runs of operations on a connector

Whoever holds a connector may customize it, start it, stop it, hand it another loader, accept
connections, and write to the settings of its host, in any order. Each customizing and each start
has a machine of its own, since files come and go between them.

Here it is said what one operation does to the lifecycle of a connector. Outside of the states in
which it may be changed, only a stop does anything to it; within them, only a start gives it a
listener. The settings of its host change in three ways only: stores are bound, a stop takes
everything back, or somebody writes to them by hand.
-/

namespace TlsListener

/-- An operation on a connector. -/
inductive Operation where
  | customize (machine : Machine) (customizer : Customizer)
  | start (machine : Machine)
  | stop
  | setLoader (loader : Loader)
  | accept (handshake : Address → ServerContext → Except Failure Arrival)
  | modifyHost (change : HostConfig → HostConfig)

/-- The connector after an operation on it. -/
def Operation.apply (engine : Engine) (connector : Connector) : Operation → Connector
  | customize machine customizer => (connector.customize machine customizer).1
  | start machine => (connector.start engine machine).1
  | stop => connector.stop
  | setLoader loader => connector.setLoader loader
  | accept _ => connector
  | modifyHost change => connector.modifyHost change

namespace Connector

variable {engine : Engine} {machine : Machine} {connector : Connector}

/-- The connector after some operations on it, one after the other. -/
def run (engine : Engine) (connector : Connector) (operations : List Operation) : Connector :=
  operations.foldl (Operation.apply engine) connector

@[simp] theorem run_nil : connector.run engine [] = connector := rfl

theorem run_cons (operation : Operation) (operations : List Operation) :
    connector.run engine (operation :: operations) =
      (operation.apply engine connector).run engine operations := rfl

theorem run_append (first second : List Operation) :
    connector.run engine (first ++ second) = (connector.run engine first).run engine second :=
  List.foldl_append

theorem run_concat (operations : List Operation) (operation : Operation) :
    connector.run engine (operations ++ [operation]) =
      operation.apply engine (connector.run engine operations) :=
  run_append operations [operation]

/-- Among some operations one was done, after those before it, and no stop came later. -/
def DoneSinceStop (operations before : List Operation) (operation : Operation) : Prop :=
  ∃ after, operations = before ++ operation :: after ∧ .stop ∉ after

theorem not_doneSinceStop_nil {before : List Operation} {operation : Operation} :
    ¬DoneSinceStop [] before operation := by
  rintro ⟨after, empty, -⟩
  simp at empty

/-- What was done since the last stop is the last operation, or was done before it and it is no
stop. -/
theorem doneSinceStop_concat {operations before : List Operation} {last operation : Operation} :
    DoneSinceStop (operations ++ [last]) before operation ↔
      (DoneSinceStop operations before operation ∧ last ≠ .stop) ∨
        (before = operations ∧ operation = last) := by
  constructor
  · rintro ⟨after, split, unstopped⟩
    rcases List.eq_nil_or_concat after with rfl | ⟨after, final, rfl⟩
    · obtain ⟨rfl, same⟩ := List.append_inj' split rfl
      cases same
      exact .inr ⟨rfl, rfl⟩
    · have split : operations ++ [last] = (before ++ operation :: after) ++ [final] := by
        simpa using split
      obtain ⟨rfl, same⟩ := List.append_inj' split rfl
      cases same
      rw [List.concat_eq_append, List.mem_append, List.mem_singleton, not_or] at unstopped
      exact .inl ⟨⟨after, rfl, unstopped.1⟩, Ne.symm unstopped.2⟩
  · rintro (⟨⟨after, rfl, unstopped⟩, stays⟩ | ⟨rfl, rfl⟩)
    · refine ⟨after ++ [last], by simp, ?_⟩
      simp only [List.mem_append, List.mem_singleton, not_or]
      exact ⟨unstopped, Ne.symm stays⟩
    · exact ⟨[], rfl, by simp⟩

theorem DoneSinceStop.length_lt {operations before : List Operation} {operation : Operation}
    (h : DoneSinceStop operations before operation) : before.length < operations.length := by
  obtain ⟨after, rfl, -⟩ := h
  simp

/-- The ways in which customizing ends: the connector that it leaves behind, and what it answers. -/
inductive CustomizeEnds (machine : Machine) (connector : Connector) (customizer : Customizer) :
    Connector × Traced Unit → Prop where
  | disabled (enabled : customizer.settings.enabled = false) :
      CustomizeEnds machine connector customizer (connector, .value ())
  | refused (enabled : customizer.settings.enabled = true)
      (state : connector.isConfigurable = false) :
      CustomizeEnds machine connector customizer
        (connector, .fail (.invalidConfiguration (.notConfigurable connector.state)))
  | bound {stores : ResolvedStores} (enabled : customizer.settings.enabled = true)
      (state : connector.isConfigurable = true)
      (resolved : customizer.loader.resolve machine customizer.settings customizer.material =
        .ok stores) :
      CustomizeEnds machine connector customizer
        (connector.bindStores customizer stores, .log (HostConfig.bindEvents customizer.settings))
  | failed {failure : Failure} (enabled : customizer.settings.enabled = true)
      (state : connector.isConfigurable = true)
      (resolved : customizer.loader.resolve machine customizer.settings customizer.material =
        .error (.failure failure)) :
      CustomizeEnds machine connector customizer (connector.markFailed, .fail failure)
  | cut (enabled : customizer.settings.enabled = true) (state : connector.isConfigurable = true)
      (resolved : customizer.loader.resolve machine customizer.settings customizer.material =
        .error .cutShort) :
      CustomizeEnds machine connector customizer (connector, .ofOutcome .cutShort)

theorem customizeEnds_customize (machine : Machine) (connector : Connector)
    (customizer : Customizer) :
    CustomizeEnds machine connector customizer (connector.customize machine customizer) := by
  rw [customize]
  split
  · next disabled => exact .disabled (by simpa using disabled)
  · next enabled =>
      have enabled : customizer.settings.enabled = true := by simpa using enabled
      split
      · next refused => exact .refused enabled (by simpa using refused)
      · next state =>
          have state : connector.isConfigurable = true := by simpa using state
          split
          · next resolved => exact .bound enabled state resolved
          · next resolved => exact .failed enabled state resolved
          · next resolved => exact .cut enabled state resolved

/-- A connector that was customized has the stores that were resolved written to its host. -/
theorem exists_stores_of_customize {customizer : Customizer}
    (enabled : customizer.settings.enabled = true)
    (h : (connector.customize machine customizer).2.outcome = .ok ()) :
    ∃ stores,
      customizer.loader.resolve machine customizer.settings customizer.material = .ok stores ∧
      (connector.customize machine customizer).1 = connector.bindStores customizer stores := by
  have ends := customizeEnds_customize machine connector customizer
  generalize connector.customize machine customizer = ended at ends h ⊢
  cases ends with
  | disabled disabled => cases enabled.symm.trans disabled
  | refused => cases h
  | bound _ _ resolved => exact ⟨_, resolved, rfl⟩
  | failed => cases h
  | cut => cases h

/-- Outside of the states in which a connector may be changed, customizing it changes nothing. -/
theorem customize_of_not_configurable (state : connector.isConfigurable = false)
    (customizer : Customizer) : (connector.customize machine customizer).1 = connector := by
  have ends := customizeEnds_customize machine connector customizer
  generalize connector.customize machine customizer = ended at ends ⊢
  cases ends with
  | disabled => rfl
  | refused => rfl
  | bound _ state' => cases state.symm.trans state'
  | failed _ state' => cases state.symm.trans state'
  | cut => rfl

theorem customize_of_cutShort {customizer : Customizer}
    (cut : (connector.customize machine customizer).2.outcome = .error .cutShort) :
    (connector.customize machine customizer).1 = connector := by
  have ends := customizeEnds_customize machine connector customizer
  generalize connector.customize machine customizer = ended at ends cut ⊢
  cases ends with
  | disabled => rfl
  | refused => rfl
  | bound => cases cut
  | failed => cases cut
  | cut => rfl

/-- Outside of the states in which a connector may be changed, only a stop has an effect on the
state, the listener or the context. -/
theorem apply_of_not_configurable (state : connector.isConfigurable = false)
    {operation : Operation} (stays : operation ≠ .stop) :
    (operation.apply engine connector).state = connector.state ∧
      (operation.apply engine connector).listener = connector.listener ∧
      (operation.apply engine connector).context = connector.context := by
  cases operation with
  | customize machine customizer =>
      rw [Operation.apply, customize_of_not_configurable state]
      exact ⟨rfl, rfl, rfl⟩
  | start machine =>
      rw [Operation.apply, start_of_not_configurable state]
      exact ⟨rfl, rfl, rfl⟩
  | stop => exact absurd rfl stays
  | setLoader loader => exact ⟨rfl, rfl, rfl⟩
  | accept handshake => exact ⟨rfl, rfl, rfl⟩
  | modifyHost change => exact ⟨rfl, rfl, rfl⟩

/-- Outside of the states in which a connector may be changed, nothing leads anywhere but a stop. -/
theorem run_of_not_configurable {operations : List Operation}
    (state : connector.isConfigurable = false) (unstopped : .stop ∉ operations) :
    (connector.run engine operations).state = connector.state ∧
      (connector.run engine operations).listener = connector.listener ∧
      (connector.run engine operations).context = connector.context := by
  induction operations generalizing connector with
  | nil => exact ⟨rfl, rfl, rfl⟩
  | cons operation operations ih =>
      rw [List.mem_cons, not_or] at unstopped
      obtain ⟨stays, listener, context⟩ :
          (operation.apply engine connector).state = connector.state ∧
            (operation.apply engine connector).listener = connector.listener ∧
            (operation.apply engine connector).context = connector.context :=
        apply_of_not_configurable state (Ne.symm unstopped.1)
      have closed : (operation.apply engine connector).isConfigurable = false := by
        rw [isConfigurable, stays]
        exact state
      obtain ⟨stays', listener', context'⟩ := ih closed unstopped.2
      exact ⟨stays'.trans stays, listener'.trans listener, context'.trans context⟩

/-- The address and the defaults of the platform are those a connector was created with. -/
theorem apply_keeps (operation : Operation) :
    (operation.apply engine connector).address = connector.address ∧
      (operation.apply engine connector).defaults = connector.defaults := by
  cases operation with
  | customize machine customizer =>
      have ends := customizeEnds_customize machine connector customizer
      rw [Operation.apply]
      generalize connector.customize machine customizer = ended at ends ⊢
      cases ends <;> exact ⟨rfl, rfl⟩
  | start machine =>
      rw [Operation.apply, start_eq_with]
      exact ⟨rfl, rfl⟩
  | stop => exact ⟨rfl, rfl⟩
  | setLoader loader => exact ⟨rfl, rfl⟩
  | accept handshake => exact ⟨rfl, rfl⟩
  | modifyHost change => exact ⟨rfl, rfl⟩

theorem run_keeps (operations : List Operation) :
    (connector.run engine operations).address = connector.address ∧
      (connector.run engine operations).defaults = connector.defaults := by
  induction operations generalizing connector with
  | nil => exact ⟨rfl, rfl⟩
  | cons operation operations ih =>
      have first : (operation.apply engine connector).address = connector.address ∧
          (operation.apply engine connector).defaults = connector.defaults :=
        apply_keeps operation
      exact ⟨ih.1.trans first.1, ih.2.trans first.2⟩

/-- The ways in which an operation leaves the settings of the host. -/
inductive HostEnds (connector : Connector) : Operation → HostConfig → Prop where
  | kept {operation : Operation} (stays : operation ≠ .stop)
      (unbound : ∀ machine customizer, operation = .customize machine customizer →
        customizer.settings.enabled = true →
        (connector.customize machine customizer).2.outcome ≠ .ok ()) :
      HostEnds connector operation connector.host
  | bound {machine : Machine} {customizer : Customizer} {stores : ResolvedStores}
      (enabled : customizer.settings.enabled = true)
      (answered : (connector.customize machine customizer).2.outcome = .ok ())
      (resolved : customizer.loader.resolve machine customizer.settings customizer.material =
        .ok stores) :
      HostEnds connector (.customize machine customizer)
        (connector.host.bind customizer.settings stores)
  | stopped : HostEnds connector .stop (.ofDefaults connector.defaults)
  | modified (change : HostConfig → HostConfig) :
      HostEnds connector (.modifyHost change) (change connector.host)

theorem hostEnds_customize (machine : Machine) (customizer : Customizer) :
    HostEnds connector (.customize machine customizer)
      (connector.customize machine customizer).1.host := by
  by_cases bound : customizer.settings.enabled = true ∧
      (connector.customize machine customizer).2.outcome = .ok ()
  · obtain ⟨stores, resolved, made⟩ := exists_stores_of_customize bound.1 bound.2
    rw [made]
    exact .bound bound.1 bound.2 resolved
  · have kept : (connector.customize machine customizer).1.host = connector.host := by
      have ends := customizeEnds_customize machine connector customizer
      generalize connector.customize machine customizer = ended at ends bound ⊢
      cases ends with
      | bound enabled => exact absurd ⟨enabled, rfl⟩ bound
      | _ => rfl
    rw [kept]
    refine .kept (by simp) ?_
    rintro _ _ ⟨⟩ enabled answered
    exact bound ⟨enabled, answered⟩

theorem hostEnds_apply (engine : Engine) (connector : Connector) (operation : Operation) :
    HostEnds connector operation (operation.apply engine connector).host := by
  cases operation with
  | customize machine customizer => exact hostEnds_customize machine customizer
  | start machine =>
      rw [Operation.apply, start_eq_with]
      exact .kept (by simp) fun _ _ h => nomatch h
  | stop => exact .stopped
  | setLoader loader => exact .kept (by simp) fun _ _ h => nomatch h
  | accept handshake => exact .kept (by simp) fun _ _ h => nomatch h
  | modifyHost change => exact .modified change

end Connector

/-- Settings that declare a trust store, with a key store that was handed over. -/
def Sample.customizer : Customizer where
  settings := { trustStore := { location := some "other.p12" } }
  material := some { keyStore := some store }
  loader := .default engine

end TlsListener
