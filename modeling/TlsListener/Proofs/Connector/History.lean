import TlsListener.Proofs.Connector.Run
import TlsListener.Proofs.Host.Binding

/-!
# What customizing has made of a host

A stop takes the settings of a host back to the defaults of the platform, so that only what was done
since the last stop counts. Of the customizers that were applied since then, each was answered in
one of three ways: its stores were bound, it failed, or it was cut short. The certificate of the
host is that of the stores that were bound last, and without any such stores nothing was written to
the host at all. A customizer that fails ends the time in which the connector may be changed.

All of this is told of runs in which nobody writes to the settings of the host by hand.
-/

namespace TlsListener.Connector

variable {engine : Engine} {connector : Connector} {operations before : List Operation}
variable {last : Operation} {machine : Machine} {customizer : Customizer}
variable {answer : Outcome Failure Unit}

/-- A customizer for which TLS is enabled was applied since the last stop, after the operations
before it, and was given an answer. -/
structure Attempted (engine : Engine) (connector : Connector)
    (operations before : List Operation) (machine : Machine) (customizer : Customizer)
    (answer : Outcome Failure Unit) : Prop where
  done : DoneSinceStop operations before (.customize machine customizer)
  enabled : customizer.settings.enabled = true
  answered : ((connector.run engine before).customize machine customizer).2.outcome = answer

theorem not_attempted_nil : ¬Attempted engine connector [] before machine customizer answer :=
  fun h => not_doneSinceStop_nil h.done

theorem attempted_concat :
    Attempted engine connector (operations ++ [last]) before machine customizer answer ↔
      (Attempted engine connector operations before machine customizer answer ∧ last ≠ .stop) ∨
      (before = operations ∧ last = .customize machine customizer ∧
        customizer.settings.enabled = true ∧
        ((connector.run engine operations).customize machine customizer).2.outcome = answer) := by
  constructor
  · rintro ⟨done, enabled, answered⟩
    rcases doneSinceStop_concat.mp done with ⟨done, stays⟩ | ⟨rfl, same⟩
    · exact .inl ⟨⟨done, enabled, answered⟩, stays⟩
    · exact .inr ⟨rfl, same.symm, enabled, answered⟩
  · rintro (⟨⟨done, enabled, answered⟩, stays⟩ | ⟨rfl, rfl, enabled, answered⟩)
    · exact ⟨doneSinceStop_concat.mpr (.inl ⟨done, stays⟩), enabled, answered⟩
    · exact ⟨doneSinceStop_concat.mpr (.inr ⟨rfl, rfl⟩), enabled, answered⟩

theorem attempted_last :
    Attempted engine connector (operations ++ [last]) operations machine customizer answer ↔
      last = .customize machine customizer ∧ customizer.settings.enabled = true ∧
        ((connector.run engine operations).customize machine customizer).2.outcome = answer := by
  rw [attempted_concat]
  constructor
  · rintro (⟨earlier, -⟩ | ⟨-, same, enabled, answered⟩)
    · exact absurd earlier.done.length_lt (Nat.lt_irrefl _)
    · exact ⟨same, enabled, answered⟩
  · rintro ⟨same, enabled, answered⟩
    exact .inr ⟨rfl, same, enabled, answered⟩

theorem not_attempted_stop :
    ¬Attempted engine connector (operations ++ [.stop]) before machine customizer answer := by
  simp [attempted_concat]

/-- The customizer whose stores were bound last since the last stop. -/
structure LastBound (engine : Engine) (connector : Connector)
    (operations before : List Operation) (machine : Machine) (customizer : Customizer) :
    Prop where
  bound : Attempted engine connector operations before machine customizer (.ok ())
  last : ∀ {later machine customizer},
    Attempted engine connector operations later machine customizer (.ok ()) →
      later.length ≤ before.length

/-- What the customizers since the last stop have written to a host. -/
inductive Written (engine : Engine) (connector : Connector) (operations : List Operation)
    (host : HostConfig) : Prop where
  | untouched
      (none : ∀ before machine customizer,
        ¬Attempted engine connector operations before machine customizer (.ok ()))
      (initial : host = .ofDefaults connector.defaults) :
      Written engine connector operations host
  | bound {before : List Operation} {machine : Machine} {customizer : Customizer}
      {stores : ResolvedStores}
      (last : LastBound engine connector operations before machine customizer)
      (resolved : customizer.loader.resolve machine customizer.settings customizer.material =
        .ok stores)
      (certificate : host.certificate = some (HostConfig.certificateOf stores)) :
      Written engine connector operations host

namespace Written

variable {host : HostConfig}

/-- An operation that binds nothing and is no stop leaves it to those before it. -/
theorem concat (h : Written engine connector operations host) (stays : last ≠ .stop)
    (quiet : ∀ machine customizer,
      ¬Attempted engine connector (operations ++ [last]) operations machine customizer (.ok ())) :
    Written engine connector (operations ++ [last]) host := by
  have same {before machine customizer} :
      Attempted engine connector (operations ++ [last]) before machine customizer (.ok ()) ↔
        Attempted engine connector operations before machine customizer (.ok ()) := by
    constructor
    · intro attempted
      rcases attempted_concat.mp attempted with ⟨attempted, -⟩ | ⟨rfl, -⟩
      · exact attempted
      · exact absurd attempted (quiet _ _)
    · exact fun attempted => attempted_concat.mpr (.inl ⟨attempted, stays⟩)
  cases h with
  | untouched none initial =>
      exact .untouched (fun _ _ _ attempted => none _ _ _ (same.mp attempted)) initial
  | bound last resolved certificate =>
      refine .bound ⟨same.mpr last.bound, fun attempted => ?_⟩ resolved certificate
      exact last.last (same.mp attempted)

theorem concat_bound {stores : ResolvedStores}
    (attempted : Attempted engine connector (operations ++ [last]) operations machine customizer
      (.ok ()))
    (resolved : customizer.loader.resolve machine customizer.settings customizer.material =
      .ok stores)
    (certificate : host.certificate = some (HostConfig.certificateOf stores)) :
    Written engine connector (operations ++ [last]) host := by
  refine .bound ⟨attempted, fun later => ?_⟩ resolved certificate
  simpa [Nat.lt_succ_iff] using later.done.length_lt

theorem concat_stop :
    Written engine connector (operations ++ [.stop]) (.ofDefaults connector.defaults) :=
  .untouched (fun _ _ _ => not_attempted_stop) rfl

end Written

/-- What is written to the host of a new connector is what the customizers since the last stop have
written. -/
theorem written_run (initial : connector.host = .ofDefaults connector.defaults)
    (unwritten : ∀ change, .modifyHost change ∉ operations) :
    Written engine connector operations (connector.run engine operations).host := by
  -- What was done last decides, so the operations are taken off the end.
  induction operations using List.reverseRecOn with
  | nil => exact .untouched (fun _ _ _ => not_attempted_nil) initial
  | append_singleton operations last ih =>
      simp only [List.mem_append, not_or] at unwritten
      have h := ih fun change => (unwritten change).1
      have ends := hostEnds_apply engine (connector.run engine operations) last
      rw [run_concat]
      generalize (last.apply engine (connector.run engine operations)).host = host at ends ⊢
      cases ends with
      | kept stays unbound =>
          refine h.concat stays fun machine customizer attempted => ?_
          obtain ⟨same, enabled, answered⟩ := attempted_last.mp attempted
          exact unbound machine customizer same enabled answered
      | bound enabled answered resolved =>
          have attempted := attempted_last.mpr ⟨rfl, enabled, answered⟩
          exact .concat_bound attempted resolved HostConfig.certificate_bind
      | stopped =>
          rw [(run_keeps operations).2]
          exact .concat_stop
      | modified change => exact absurd (List.mem_singleton.mpr rfl) (unwritten change).2

/-- A customizer that fails leaves a connector that may not be changed. -/
theorem not_configurable_of_customize {failure : Failure}
    (failed : (connector.customize machine customizer).2.outcome = .error (.failure failure)) :
    (connector.customize machine customizer).1.isConfigurable = false := by
  have ends := customizeEnds_customize machine connector customizer
  generalize connector.customize machine customizer = ended at ends failed ⊢
  cases ends with
  | disabled => cases failed
  | refused _ state => exact state
  | bound => cases failed
  | failed => rfl
  | cut => cases failed

/-- No customizer has failed since the last stop if the connector may be changed. -/
theorem not_attempted_failure {failure : Failure}
    (state : (connector.run engine operations).isConfigurable = true) :
    ¬Attempted engine connector operations before machine customizer
      (.error (.failure failure)) := by
  -- What comes after the failure holds no stop, and nothing else leads out of the state it left.
  rintro ⟨⟨after, rfl, unstopped⟩, -, failed⟩
  have closed : (Operation.apply engine (connector.run engine before)
      (.customize machine customizer)).isConfigurable = false :=
    not_configurable_of_customize failed
  rw [run_append, run_cons, isConfigurable, (run_of_not_configurable closed unstopped).1] at state
  cases state.symm.trans closed

end TlsListener.Connector
