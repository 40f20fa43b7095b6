import TlsListener.Proofs.Connector.NulFree

/-!
# The lifecycle of a connector

Whatever is done to a connector and in whatever order, it has a listener and a context exactly while
it is started. What carries this is that the one operation that gives it both leads to the state
`started`, and that of the operations that lead away from there, stopping takes both away and no
other leads anywhere. `Orderly` collects what follows for accepting, starting and stopping.

A start is the one operation that can stop in its middle. A connector is left in the state
`starting` exactly if a start after the last stop was interrupted, and it takes a NUL character in
the name of a suite or in the trust password to do that.
-/

namespace TlsListener.Connector

variable {engine : Engine} {connector : Connector}

/-- There is a listener while the connector is started and at no other time, and so with the
context. -/
structure Equipped (connector : Connector) : Prop where
  listening : connector.listener.isSome ↔ connector.state = .started
  context : connector.context.isSome ↔ connector.state = .started

namespace Equipped

theorem create (engine : Engine) (address : Address) (defaults : PlatformDefaults) :
    (Connector.create engine address defaults).Equipped where
  listening := by simp [Connector.create]
  context := by simp [Connector.create]

/-- A connector that is not started has neither. -/
theorem eq_none (h : connector.Equipped) (state : connector.state ≠ .started) :
    connector.listener = none ∧ connector.context = none := by
  have listener := mt h.listening.mp state
  have context := mt h.context.mp state
  exact ⟨by simpa using listener, by simpa using context⟩

/-- A state other than `started` may be written to a connector that is not started. -/
theorem of_state (h : connector.Equipped) (state : connector.state ≠ .started)
    {after : LifecycleState} (stays : after ≠ .started) :
    ({ connector with state := after } : Connector).Equipped := by
  obtain ⟨listener, context⟩ := h.eq_none state
  constructor
  · simp [listener, stays]
  · simp [context, stays]

end Equipped

theorem ne_started_of_isConfigurable (state : connector.isConfigurable = true) :
    connector.state ≠ .started := by
  intro started
  simp [isConfigurable, started, LifecycleState.isConfigurable] at state

theorem Equipped.apply (h : connector.Equipped) (operation : Operation) :
    (operation.apply engine connector).Equipped := by
  cases operation with
  | customize machine customizer =>
      have ends := customizeEnds_customize machine connector customizer
      rw [Operation.apply]
      generalize connector.customize machine customizer = ended at ends ⊢
      cases ends with
      | disabled => exact h
      | refused => exact h
      | bound => exact ⟨h.listening, h.context⟩
      | failed _ state => exact h.of_state (ne_started_of_isConfigurable state) (by decide)
      | cut => exact h
  | start machine =>
      have ends := startEnds_start engine machine connector
      rw [Operation.apply]
      generalize connector.start engine machine = ended at ends ⊢
      -- Only here is `started` written, and the listener and the context with it.
      cases ends with
      | refused => exact h
      | started => exact ⟨by simp, by simp⟩
      | failed state => exact h.of_state (ne_started_of_isConfigurable state) (by decide)
      | cut state => exact h.of_state (ne_started_of_isConfigurable state) (by decide)
  | stop => exact ⟨by simp [Operation.apply, stop], by simp [Operation.apply, stop]⟩
  | setLoader loader => exact ⟨h.listening, h.context⟩
  | accept handshake => exact h
  | modifyHost change => exact ⟨h.listening, h.context⟩

theorem Equipped.run (h : connector.Equipped) (operations : List Operation) :
    (connector.run engine operations).Equipped := by
  induction operations generalizing connector with
  | nil => exact h
  | cons operation operations ih => exact ih (h.apply operation)

/-- What the state of a connector says about it and about what may be done to it. -/
structure Orderly (engine : Engine) (connector : Connector) : Prop extends Equipped connector where
  /-- A connector that is not started accepts nothing. -/
  closed : connector.state ≠ .started → ∀ handshake,
    connector.accept handshake = .error .notStarted
  /-- A connector that is started leaves everything to the handshake. -/
  opened : connector.state = .started → ∃ address context,
    connector.listener = some address ∧ connector.context = some context ∧ ∀ handshake,
      connector.accept handshake = (handshake address context).map Arrival.session
  /-- A connector that is started or has failed cannot be started, and nothing about it changes. -/
  refusing : connector.state = .started ∨ connector.state = .failed → ∀ machine,
    connector.start engine machine = (connector, .fail (.startup (.notStartable connector.state)))
  /-- A start writes the state, the listener and the context only. -/
  frame : ∀ machine, (connector.start engine machine).1 =
    { connector with
      state := (connector.start engine machine).1.state
      listener := (connector.start engine machine).1.listener
      context := (connector.start engine machine).1.context }
  /-- A connector that was created or stopped is started or has failed after a start, as the start
  tells. -/
  starting : connector.state = .created ∨ connector.state = .stopped → ∀ machine,
    ((connector.start engine machine).1.state = .started ↔
      (connector.start engine machine).2.outcome = .ok ()) ∧
    ((connector.start engine machine).1.state = .failed ↔
      ∃ failure, (connector.start engine machine).2.outcome = .error (.failure failure))
  /-- Only a stop leads away from a connector that is started or has failed. -/
  staying : connector.state = .started ∨ connector.state = .failed → ∀ operation : Operation,
    operation ≠ .stop → (operation.apply engine connector).state = connector.state

theorem isConfigurable_iff :
    connector.isConfigurable = true ↔ connector.state = .created ∨ connector.state = .stopped := by
  rw [isConfigurable]
  cases connector.state <;> decide

theorem not_configurable_of_settled
    (state : connector.state = .started ∨ connector.state = .failed) :
    connector.isConfigurable = false := by
  rw [isConfigurable]
  rcases state with state | state <;> rw [state] <;> rfl

theorem Equipped.orderly (h : connector.Equipped) : Orderly engine connector where
  toEquipped := h
  closed state handshake := accept_of_listener_eq_none (h.eq_none state).1 handshake
  opened state := by
    obtain ⟨address, listener⟩ := Option.isSome_iff_exists.mp (h.listening.mpr state)
    obtain ⟨context, equipped⟩ := Option.isSome_iff_exists.mp (h.context.mpr state)
    refine ⟨address, context, listener, equipped, fun handshake => ?_⟩
    rw [accept, endpoint, listener, equipped]
    change (do return (← handshake address context).session) = _
    cases handshake address context <;> rfl
  refusing state machine := start_of_not_configurable (not_configurable_of_settled state)
  frame machine := start_eq_with engine machine connector
  starting state machine := by
    obtain ⟨started, failed, -⟩ := start_state engine machine (isConfigurable_iff.mpr state)
    exact ⟨started, failed⟩
  staying state operation stays :=
    (apply_of_not_configurable (not_configurable_of_settled state) stays).1

/-- A start after the last stop was interrupted. -/
def LeftStarting (engine : Engine) (connector : Connector) (operations : List Operation) : Prop :=
  ∃ before machine after, operations = before ++ .start machine :: after ∧ .stop ∉ after ∧
    (connector.run engine before).StartInterrupted engine machine

theorem leftStarting_iff {operations : List Operation} :
    LeftStarting engine connector operations ↔ ∃ before machine,
      DoneSinceStop operations before (.start machine) ∧
        (connector.run engine before).StartInterrupted engine machine := by
  constructor
  · rintro ⟨before, machine, after, split, unstopped, cut⟩
    exact ⟨before, machine, ⟨after, split, unstopped⟩, cut⟩
  · rintro ⟨before, machine, ⟨after, split, unstopped⟩, cut⟩
    exact ⟨before, machine, after, split, unstopped, cut⟩

theorem not_leftStarting_nil : ¬LeftStarting engine connector [] := by
  rw [leftStarting_iff]
  rintro ⟨before, machine, done, -⟩
  exact not_doneSinceStop_nil done

theorem leftStarting_concat {operations : List Operation} {operation : Operation} :
    LeftStarting engine connector (operations ++ [operation]) ↔
      (LeftStarting engine connector operations ∧ operation ≠ .stop) ∨
      ∃ machine, operation = .start machine ∧
        (connector.run engine operations).StartInterrupted engine machine := by
  simp only [leftStarting_iff, doneSinceStop_concat]
  constructor
  · rintro ⟨before, machine, ⟨done, stays⟩ | ⟨rfl, same⟩, cut⟩
    · exact .inl ⟨⟨before, machine, done, cut⟩, stays⟩
    · exact .inr ⟨machine, same.symm, cut⟩
  · rintro (⟨⟨before, machine, done, cut⟩, stays⟩ | ⟨machine, same, cut⟩)
    · exact ⟨before, machine, .inl ⟨done, stays⟩, cut⟩
    · exact ⟨operations, machine, .inr ⟨rfl, same.symm⟩, cut⟩

/-- Nothing leads to a start or into the middle of one but a start. -/
theorem apply_state_of_not_start {target : LifecycleState}
    (busy : target = .starting ∨ target = .started) {operation : Operation}
    (other : ∀ machine, operation ≠ .start machine) :
    (operation.apply engine connector).state = target ↔
      connector.state = target ∧ operation ≠ .stop := by
  cases operation with
  | customize machine customizer =>
      have ends := customizeEnds_customize machine connector customizer
      rw [Operation.apply]
      generalize connector.customize machine customizer = ended at ends ⊢
      cases ends with
      | disabled => simp
      | refused => simp
      | bound => simp [bindStores, setLoader, modifyHost]
      | failed _ state =>
          rcases isConfigurable_iff.mp state with state | state <;>
            rcases busy with rfl | rfl <;> simp [markFailed, state]
      | cut => simp
  | start machine => exact absurd rfl (other machine)
  | stop => rcases busy with rfl | rfl <;> simp [Operation.apply, stop]
  | setLoader loader => simp [Operation.apply, setLoader]
  | accept handshake => simp [Operation.apply]
  | modifyHost change => simp [Operation.apply, modifyHost]

/-- A start that is interrupted leaves the connector in the middle of it, where the connector then
stays until it is stopped. -/
theorem apply_state_eq_starting {operation : Operation} :
    (operation.apply engine connector).state = .starting ↔
      (connector.state = .starting ∧ operation ≠ .stop) ∨
      ∃ machine, operation = .start machine ∧ connector.StartInterrupted engine machine := by
  cases operation with
  | start machine =>
      have ends := startEnds_start engine machine connector
      simp only [Operation.apply, Operation.start.injEq, exists_eq_left', ← start_eq_cutShort]
      generalize connector.start engine machine = ended at ends ⊢
      cases ends with
      | refused => simp
      | started state =>
          rcases isConfigurable_iff.mp state with state | state <;> simp [state]
      | failed state =>
          rcases isConfigurable_iff.mp state with state | state <;> simp [markFailed, state]
      | cut => simp
  | _ => simp [apply_state_of_not_start (.inl rfl)]

/-- A start that succeeds leaves the connector started until it is stopped. -/
theorem apply_state_eq_started {operation : Operation} :
    (operation.apply engine connector).state = .started ↔
      (connector.state = .started ∧ operation ≠ .stop) ∨
      ∃ machine, operation = .start machine ∧
        (connector.start engine machine).2.outcome = .ok () := by
  cases operation with
  | start machine =>
      have ends := startEnds_start engine machine connector
      simp only [Operation.apply, Operation.start.injEq, exists_eq_left']
      generalize connector.start engine machine = ended at ends ⊢
      cases ends with
      | refused => simp [Outcome.fail]
      | started => simp
      | failed state =>
          rcases isConfigurable_iff.mp state with state | state <;> simp [markFailed, state]
      | cut state =>
          rcases isConfigurable_iff.mp state with state | state <;> simp [state]
  | _ => simp [apply_state_of_not_start (.inr rfl)]

theorem run_state_eq_starting (begun : connector.state ≠ .starting) (operations : List Operation) :
    (connector.run engine operations).state = .starting ↔
      LeftStarting engine connector operations := by
  -- The last operation decides, so they are taken off the end.
  induction operations using List.reverseRecOn with
  | nil => simp [begun, not_leftStarting_nil]
  | append_singleton operations operation ih =>
      rw [run_concat, apply_state_eq_starting, ih, leftStarting_concat]

/-- Every run of operations on a new connector leaves an orderly one. It is left in the middle of a
start exactly if a start after the last stop was interrupted, which does not happen as long as
neither the platform nor any operation brings in a NUL character. -/
theorem orderly_run (engine : Engine) (address : Address) (defaults : PlatformDefaults)
    (operations : List Operation) :
    Orderly engine ((create engine address defaults).run engine operations) ∧
    (((create engine address defaults).run engine operations).state = .starting ↔
      LeftStarting engine (create engine address defaults) operations) ∧
    (isPassable (KeyStore.passwordText defaults.trustPassword) = true →
      (∀ operation ∈ operations, operation.NulFree) →
      ((create engine address defaults).run engine operations).state ≠ .starting) := by
  have begun : (create engine address defaults).state ≠ .starting := by
    intro starting
    cases starting
  refine ⟨((Equipped.create engine address defaults).run operations).orderly,
    run_state_eq_starting begun operations, fun platform free starting => ?_⟩
  obtain ⟨before, machine, after, rfl, -, interrupted⟩ :=
    (run_state_eq_starting begun operations).mp starting
  have reached := (NulFree.create engine address platform).run engine
    fun operation member => free operation (List.mem_append_left _ member)
  exact reached.not_startInterrupted machine interrupted

/-- A NUL character in the password of a PEM text leaves a connector in the middle of its start. No
suites are set, and there is no archive. -/
theorem state_eq_starting_nul :
    ((create Sample.engine Sample.address
        { trustFile := some "ca.pem", trustType := .pem, trustPassword := some ⟨"a\x00b"⟩ }).run
      Sample.engine [.customize Sample.machine Sample.customizer]).host.ciphers = none ∧
    ((create Sample.engine Sample.address
        { trustFile := some "ca.pem", trustType := .pem, trustPassword := some ⟨"a\x00b"⟩ }).run
      Sample.engine [.customize Sample.machine Sample.customizer, .start Sample.machine]).state =
        .starting := by
  decide +kernel

end TlsListener.Connector
