import TlsListener.Event

/-!
# Taking operations apart

An operation is a chain of steps, and any step may stop it. The rules here take the outcome of a
chain back to the outcomes of its steps: a chain has a value exactly if every step has one, and it
is stopped exactly as some step is that the steps before it lead to. Being cut short, which is asked
about most, has its own form of the rule.

Chains may be bracketed in any way, with what they log as well, so that a part of one can be given a
name of its own. Two chains are compared step by step, each step through what is to be seen of it.
-/

namespace TlsListener

namespace Outcome

variable {ε ε' α β : Type}

theorem bind_eq_ok {first : Outcome ε α} {next : α → Outcome ε β} {b : β} :
    first >>= next = .ok b ↔ ∃ a, first = .ok a ∧ next a = .ok b := by
  constructor
  · intro h
    cases first with
    | error stop => cases h
    | ok a => exact ⟨a, rfl, h⟩
  · rintro ⟨a, rfl, h⟩
    exact h

theorem bind_eq_error {first : Outcome ε α} {next : α → Outcome ε β} {stop : Stop ε} :
    first >>= next = .error stop ↔
      first = .error stop ∨ ∃ a, first = .ok a ∧ next a = .error stop := by
  constructor
  · intro h
    cases first with
    | error stop =>
        cases h
        exact .inl rfl
    | ok a => exact .inr ⟨a, rfl, h⟩
  · rintro (rfl | ⟨a, rfl, h⟩)
    · rfl
    · exact h

theorem bind_eq_cutShort {first : Outcome ε α} {next : α → Outcome ε β} :
    first >>= next = .error .cutShort ↔
      first = .error .cutShort ∨ ∃ a, first = .ok a ∧ next a = .error .cutShort :=
  bind_eq_error

/-- Two chains come to the same, seen through a function, if their first steps come to the same,
seen through another, and what follows on values that look the same does so too. -/
theorem map_bind_congr {γ δ : Type} {first first' : Outcome ε α} {next next' : α → Outcome ε β}
    {f : α → γ} {g : β → δ} (begun : first.map f = first'.map f)
    (continued : ∀ {a a'}, first = .ok a → first' = .ok a' → f a = f a' →
      (next a).map g = (next' a').map g) :
    (first >>= next).map g = (first' >>= next').map g := by
  cases first with
  | error stop =>
      cases first' with
      | error stop' =>
          cases begun
          rfl
      | ok a' => cases begun
  | ok a =>
      cases first' with
      | error stop' => cases begun
      | ok a' => exact continued rfl rfl (Except.ok.inj begun)

@[simp] theorem ofOption_eq_ok {failure : ε} {value : Option α} {a : α} :
    ofOption failure value = .ok a ↔ value = some a := by
  cases value <;> simp [ofOption]

theorem ofOption_eq_failure {failure failure' : ε} {value : Option α} :
    ofOption failure value = .error (.failure failure') ↔ value = none ∧ failure = failure' := by
  cases value <;> simp [ofOption]

@[simp] theorem ofOption_ne_cutShort {failure : ε} {value : Option α} :
    ofOption failure value ≠ .error .cutShort := by
  cases value <;> simp [ofOption]

@[simp] theorem mapFailure_eq_cutShort {f : ε → ε'} {outcome : Outcome ε α} :
    mapFailure f outcome = .error .cutShort ↔ outcome = .error .cutShort := by
  rcases outcome with (_ | _) | _ <;> simp [mapFailure]

theorem mapFailure_eq_failure {f : ε → ε'} {outcome : Outcome ε α} {failure : ε'} :
    mapFailure f outcome = .error (.failure failure) ↔
      ∃ source, outcome = .error (.failure source) ∧ f source = failure := by
  rcases outcome with (_ | _) | _ <;> simp [mapFailure]

theorem mapFailure_eq_ok {f : ε → ε'} {outcome : Outcome ε α} {a : α} :
    mapFailure f outcome = .ok a ↔ outcome = .ok a := by
  rcases outcome with (_ | _) | _ <;> simp [mapFailure]

@[simp] theorem mapError_eq_ok {result : Except ε α} {a : α} :
    result.mapError Stop.failure = .ok a ↔ result = .ok a := by
  constructor
  · intro h
    cases result with
    | error failure => cases h
    | ok b =>
        cases h
        rfl
  · rintro rfl
    rfl

/-- What is only a failure, if it is anything but a value, is not cut short. -/
@[simp] theorem mapError_ne_cutShort {result : Except ε α} :
    result.mapError Stop.failure ≠ .error .cutShort := by
  cases result <;> exact fun h => nomatch h

@[simp] theorem fail_ne_cutShort {failure : ε} :
    (fail failure : Outcome ε α) ≠ .error .cutShort := by
  simp [fail]

end Outcome

namespace Traced

variable {α β : Type}

instance : LawfulMonad Traced := LawfulMonad.mk' Traced
  (by
    intro α first
    rcases first with ⟨events, stop | a⟩
    · rfl
    · change (⟨events ++ [], .ok a⟩ : Traced α) = ⟨events, .ok a⟩
      rw [List.append_nil])
  (by intro α β a next; rfl)
  (by
    intro α β γ first next last
    rcases first with ⟨events, stop | a⟩
    · rfl
    · simp only [bind_ok]
      rcases next a with ⟨later, stop | b⟩
      · rfl
      · simp [List.append_assoc])

@[simp] theorem outcome_value (a : α) : (value a).outcome = .ok a := rfl

@[simp] theorem outcome_ofOutcome (outcome : Outcome Failure α) :
    (ofOutcome outcome).outcome = outcome := rfl

@[simp] theorem outcome_fail (failure : Failure) :
    (fail failure : Traced α).outcome = Outcome.fail failure := rfl

@[simp] theorem liftM_ok (a : α) :
    (liftM (Except.ok a : Except (Stop Failure) α) : Traced α) = ⟨[], .ok a⟩ := rfl

@[simp] theorem liftM_error (stop : Stop Failure) :
    (liftM (Except.error stop : Except (Stop Failure) α) : Traced α) = ⟨[], .error stop⟩ := rfl

/-- A chain that logs nothing may be taken step by step. -/
theorem liftM_bind {first : Except (Stop Failure) α} {next : α → Except (Stop Failure) β} :
    (liftM (first >>= next) : Traced β) =
      (liftM first : Traced α) >>= fun a => (liftM (next a) : Traced β) := by
  cases first <;> rfl

theorem outcome_bind (first : Traced α) (next : α → Traced β) :
    (first >>= next).outcome = first.outcome >>= fun a => (next a).outcome := by
  rw [bind_eq, andThen]
  cases h : first.outcome <;> rfl

/-- What follows a step matters only for the value that the step has. -/
theorem bind_congr_of_ok {first : Traced α} {next next' : α → Traced β}
    (same : ∀ a, first.outcome = .ok a → next a = next' a) : first >>= next = first >>= next' := by
  rcases first with ⟨events, stop | a⟩
  · rfl
  · rw [bind_ok, bind_ok, same a rfl]

theorem outcome_bind_eq_ok {first : Traced α} {next : α → Traced β} {b : β} :
    (first >>= next).outcome = .ok b ↔
      ∃ a, first.outcome = .ok a ∧ (next a).outcome = .ok b := by
  rw [outcome_bind, Outcome.bind_eq_ok]

theorem outcome_bind_eq_failure {first : Traced α} {next : α → Traced β} {failure : Failure} :
    (first >>= next).outcome = .error (.failure failure) ↔
      first.outcome = .error (.failure failure) ∨
        ∃ a, first.outcome = .ok a ∧ (next a).outcome = .error (.failure failure) := by
  rw [outcome_bind, Outcome.bind_eq_error]

theorem outcome_bind_eq_cutShort {first : Traced α} {next : α → Traced β} :
    (first >>= next).outcome = .error .cutShort ↔
      first.outcome = .error .cutShort ∨
        ∃ a, first.outcome = .ok a ∧ (next a).outcome = .error .cutShort := by
  rw [outcome_bind, Outcome.bind_eq_cutShort]

/-- A chain logs what its first step does if the others log nothing. -/
theorem events_bind_of_quiet {first : Traced α} {next : α → Traced β}
    (quiet : ∀ a, (next a).events = []) : (first >>= next).events = first.events := by
  rcases first with ⟨events, stop | a⟩
  · rfl
  · rw [bind_ok, quiet, List.append_nil]

/-- What a chain logs is what its first step logs, and then what those after it do if it has a
value. -/
theorem mem_events_bind {first : Traced α} {next : α → Traced β} {event : Event} :
    event ∈ (first >>= next).events ↔
      event ∈ first.events ∨ ∃ a, first.outcome = .ok a ∧ event ∈ (next a).events := by
  rw [bind_eq, andThen]
  cases first.outcome with
  | ok a => simp
  | error stop => simp

end Traced

end TlsListener
