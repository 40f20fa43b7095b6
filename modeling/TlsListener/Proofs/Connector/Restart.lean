import TlsListener.Proofs.Connector.Run

/-!
# A connector that was stopped is as good as a new one

Stopping keeps the address, the defaults of the platform and the loader of stores, and of these only
the loader can have come from an operation. So a connector that was stopped differs from a new one
with that loader in nothing but its state, which says that it was stopped and not that it was
created. No operation tells these two states apart: where the state decides whether something may be
done, it may be done in both, and neither is mentioned in an answer.

The state itself differs until something writes it. A start does, whatever comes of it, and so do
another stop and a customizer that fails.
-/

namespace TlsListener

/-- What an operation on a connector answers. -/
inductive Answer where
  | traced (answer : Traced Unit)
  | session (answer : Except Failure Session)
  | done

namespace Operation

variable {engine : Engine} {connector : Connector}

/-- The answer of a connector to an operation on it. -/
def answer (engine : Engine) (connector : Connector) : Operation → Answer
  | customize machine customizer => .traced (connector.customize machine customizer).2
  | start machine => .traced (connector.start engine machine).2
  | accept handshake => .session (connector.accept handshake)
  | stop | setLoader _ | modifyHost _ => .done

/-- An operation writes the state of a connector that may be changed. -/
def Marks (connector : Connector) : Operation → Prop
  | customize machine customizer =>
    ∃ failure, (connector.customize machine customizer).2.outcome = .error (.failure failure)
  | start _ | stop => True
  | setLoader _ | accept _ | modifyHost _ => False

end Operation

namespace Connector

variable {engine : Engine} {connector : Connector}

/-- The answers of a connector to operations on it, one after the other. -/
def answers (engine : Engine) (connector : Connector) : List Operation → List Answer
  | [] => []
  | operation :: operations =>
    operation.answer engine connector ::
      (operation.apply engine connector).answers engine operations

/-- Some operation of a run writes the state. -/
def Marked (engine : Engine) (connector : Connector) : List Operation → Prop
  | [] => False
  | operation :: operations =>
    operation.Marks connector ∨ (operation.apply engine connector).Marked engine operations

/-- A connector whose state is overwritten with that of a new one. -/
def asCreated (connector : Connector) : Connector :=
  { connector with state := .created }

theorem stop_asCreated (engine : Engine) (connector : Connector) :
    connector.stop.asCreated =
      (create engine connector.address connector.defaults).setLoader connector.stop.loader :=
  rfl

/-- A customizer that fails writes the state, and any other leaves it. Neither depends on what the
state is, as long as it allows for customizing. -/
theorem customize_asCreated (allowed : connector.isConfigurable = true) (machine : Machine)
    (customizer : Customizer) :
    (∃ failure,
      connector.customize machine customizer = (connector.markFailed, .fail failure) ∧
      connector.asCreated.customize machine customizer = (connector.markFailed, .fail failure)) ∨
    ∃ after answer,
      connector.customize machine customizer = (after, answer) ∧
      connector.asCreated.customize machine customizer = (after.asCreated, answer) ∧
      after.state = connector.state ∧ ∀ failure, answer.outcome ≠ .error (.failure failure) := by
  cases enabled : customizer.settings.enabled with
  | false =>
      refine .inr ⟨connector, .value (), ?_, ?_, rfl, ?_⟩
      · rw [customize, if_pos (by simp [enabled])]
      · rw [customize, if_pos (by simp [enabled])]
      · simp
  | true =>
      have allowed' : connector.asCreated.isConfigurable = true := rfl
      simp only [customize, enabled, allowed, allowed', Bool.not_true, Bool.false_eq_true, if_false]
      cases customizer.loader.resolve machine customizer.settings customizer.material with
      | ok stores => exact .inr ⟨_, _, rfl, rfl, rfl, fun _ failed => by cases failed⟩
      | error stop =>
          cases stop with
          | failure failure => exact .inl ⟨failure, rfl, rfl⟩
          | cutShort => exact .inr ⟨_, _, rfl, rfl, rfl, fun _ failed => by cases failed⟩

/-- A start writes the state whatever comes of it, and reads it only to see that it is allowed. -/
theorem start_asCreated (allowed : connector.isConfigurable = true) (machine : Machine) :
    connector.asCreated.start engine machine = connector.start engine machine := by
  have prepared : connector.asCreated.prepare engine machine = connector.prepare engine machine :=
    rfl
  have allowed' : connector.asCreated.isConfigurable = true := rfl
  rw [start, start, if_pos allowed, if_pos allowed', prepared, settle, settle]
  cases (connector.prepare engine machine).outcome with
  | ok made => rfl
  | error stop => cases stop <;> rfl

/-- An operation on a connector that was stopped and the same operation on one that was created have
the same answer, and they lead to connectors that differ in the state at most. -/
inductive StepsAlike (engine : Engine) (connector : Connector) (operation : Operation) : Prop where
  | marked (marks : operation.Marks connector)
      (answer : operation.answer engine connector.asCreated = operation.answer engine connector)
      (applied : operation.apply engine connector.asCreated = operation.apply engine connector) :
      StepsAlike engine connector operation
  | unmarked (marks : ¬operation.Marks connector)
      (answer : operation.answer engine connector.asCreated = operation.answer engine connector)
      (applied : operation.apply engine connector.asCreated =
        (operation.apply engine connector).asCreated)
      (state : (operation.apply engine connector).state = .stopped) :
      StepsAlike engine connector operation

theorem stepsAlike (engine : Engine) (state : connector.state = .stopped) (operation : Operation) :
    StepsAlike engine connector operation := by
  have allowed : connector.isConfigurable = true := by rw [isConfigurable, state]; rfl
  cases operation with
  | customize machine customizer =>
      rcases customize_asCreated allowed machine customizer with
        ⟨failure, ended, ended'⟩ | ⟨after, answer, ended, ended', stays, unfailed⟩
      · refine .marked ⟨failure, by rw [ended]; rfl⟩ ?_ ?_
        · rw [Operation.answer, Operation.answer, ended, ended']
        · rw [Operation.apply, Operation.apply, ended, ended']
      · refine .unmarked ?_ ?_ ?_ ?_
        · rintro ⟨failure, failed⟩
          rw [ended] at failed
          exact unfailed failure failed
        · rw [Operation.answer, Operation.answer, ended, ended']
        · rw [Operation.apply, Operation.apply, ended, ended']
        · rw [Operation.apply, ended, stays, state]
  | start machine =>
      refine .marked trivial ?_ ?_
      · rw [Operation.answer, Operation.answer, start_asCreated allowed]
      · rw [Operation.apply, Operation.apply, start_asCreated allowed]
  | stop => exact .marked trivial rfl rfl
  | setLoader loader => exact .unmarked id rfl rfl state
  | accept handshake => exact .unmarked id rfl rfl state
  | modifyHost change => exact .unmarked id rfl rfl state

/-- A connector that was stopped cannot be told from a fresh one by what they answer to operations
or by what these make of them, except that until something writes the state one of them is stopped
and the other is created. -/
structure Indistinguishable (engine : Engine) (stopped fresh : Connector)
    (operations : List Operation) : Prop where
  answers : stopped.answers engine operations = fresh.answers engine operations
  alike : (stopped.run engine operations).asCreated = (fresh.run engine operations).asCreated
  marked : Marked engine stopped operations →
    (stopped.run engine operations).state = (fresh.run engine operations).state
  unmarked : ¬Marked engine stopped operations →
    (stopped.run engine operations).state = .stopped ∧
      (fresh.run engine operations).state = .created

theorem indistinguishable_asCreated (state : connector.state = .stopped)
    (operations : List Operation) :
    Indistinguishable engine connector connector.asCreated operations := by
  induction operations generalizing connector with
  | nil => exact ⟨rfl, rfl, False.elim, fun _ => ⟨state, rfl⟩⟩
  | cons operation operations ih =>
      cases stepsAlike engine state operation with
      | marked marks answer applied =>
          -- From here on the two are one and the same.
          refine ⟨?_, ?_, fun _ => ?_, fun unmarked => absurd (.inl marks) unmarked⟩
          · rw [Connector.answers, Connector.answers, answer, applied]
          · rw [run_cons, run_cons, applied]
          · rw [run_cons, run_cons, applied]
      | unmarked marks answer applied stays =>
          have rest : Indistinguishable engine (operation.apply engine connector)
              (operation.apply engine connector).asCreated operations :=
            ih stays
          refine ⟨?_, ?_, fun marked => ?_, fun unmarked => ?_⟩
          · rw [Connector.answers, Connector.answers, answer, applied, rest.answers]
          · rw [run_cons, run_cons, applied, rest.alike]
          · rw [run_cons, run_cons, applied, rest.marked (marked.resolve_left marks)]
          · rw [run_cons, run_cons, applied]
            exact rest.unmarked fun marked => unmarked (.inr marked)

/-- Whatever was done to a connector, a new one or any other, once it is stopped it cannot be told
from a new one with its address, its platform and its loader. -/
theorem indistinguishable_stop (engine : Engine) (connector : Connector)
    (operations later : List Operation) :
    Indistinguishable engine (connector.run engine operations).stop
      ((create engine connector.address connector.defaults).setLoader
        (connector.run engine operations).stop.loader) later := by
  have kept : (connector.run engine operations).address = connector.address ∧
      (connector.run engine operations).defaults = connector.defaults :=
    run_keeps operations
  rw [← kept.1, ← kept.2, ← stop_asCreated]
  exact indistinguishable_asCreated rfl later

end Connector

end TlsListener
