import Mathlib.Data.List.Forall2
import TlsListener.Proofs.Connector.StageSteps

/-!
# The order of the stages

A start goes through its stages one after the other until one of them is not passed. So what it
answers is decided by the first stage that is not passed, whatever is wrong with those after it, and
what it logs are the warnings of the stages that it has reached, in their order.

`GoesThrough` says this of any list of stages. Carrying out one stage and going on with the others
is going through all of them, and the steps that a start is made of carry out all stages in turn.
What comes of a start is then read off by induction on the stages.
-/

namespace TlsListener.Connector

section

variable (engine : Engine) (machine : Machine) (connector : Connector)

/-- Stages are gone through one after the other: what is logged meanwhile, and how it ends. -/
inductive GoesThrough : List StartStage → List Event → Outcome Failure Unit → Prop where
  | done : GoesThrough [] [] (.ok ())
  | stopped {stage : StartStage} {rest : List StartStage} {events : List Event}
      {stop : Stop Failure} (stops : Stops engine machine connector stage stop)
      (warns : Warns engine machine connector stage events) :
      GoesThrough (stage :: rest) events (.error stop)
  | passed {stage : StartStage} {rest : List StartStage} {events later : List Event}
      {ending : Outcome Failure Unit} (passes : Passes engine machine connector stage)
      (warns : Warns engine machine connector stage events)
      (goes : GoesThrough rest later ending) :
      GoesThrough (stage :: rest) (events ++ later) ending

/-- An operation goes through some stages. -/
def Follows {α : Type} (stages : List StartStage) (attempt : Traced α) : Prop :=
  GoesThrough engine machine connector stages attempt.events (attempt.outcome.map fun _ => ())

/-- A stage is reached: all stages before it are passed. -/
def Reaches (stage : StartStage) : Prop :=
  ∀ earlier ∈ StartStage.all.takeWhile (· ≠ stage), Passes engine machine connector earlier

/-- What is logged of a stage: its warnings, if it is reached, and else nothing. -/
inductive Logs (stage : StartStage) : List Event → Prop where
  | reached {events : List Event} (reaches : Reaches engine machine connector stage)
      (warns : Warns engine machine connector stage events) : Logs stage events
  | unreached (unreached : ¬Reaches engine machine connector stage) : Logs stage []

end

variable {engine : Engine} {machine : Machine} {connector : Connector} {α β : Type}
  {stage : StartStage} {stages rest : List StartStage} {events : List Event}
  {ending : Outcome Failure Unit} {stop stop' : Stop Failure}

/-! ## Going through the stages -/

/-- One stage is carried out, and then the others are gone through. -/
theorem Follows.bind {first : Traced α} {next : α → Traced β}
    (carries : CarriesOut engine machine connector stage first)
    (continued : ∀ a, first.outcome = .ok a → Follows engine machine connector rest (next a)) :
    Follows engine machine connector (stage :: rest) (first >>= next) := by
  rcases first with ⟨events, stop | a⟩
  · exact .stopped (carries.stops_iff.mp rfl) carries.warns
  · exact .passed (fun stop stops => nomatch carries.stops_iff.mpr stops) carries.warns
      (continued a rfl)

/-- Where some versions are left there is a range of them. -/
theorem exists_ofVersions {versions : List Version} (some : versions ≠ []) :
    ∃ range, VersionRange.ofVersions versions = .ok range := by
  cases versions with
  | nil => exact absurd rfl some
  | cons oldest later => exact ⟨_, rfl⟩

theorem ne_nil_of_chooseSuites {suites : Option String} {versions left : List Version}
    {lists : SuiteLists} (some : versions ≠ [])
    (chosen : (chooseSuites engine suites versions).outcome = .ok (lists, left)) : left ≠ [] := by
  cases suites with
  | none =>
      cases chosen
      exact some
  | some text =>
      have passable : ∀ name ∈ suiteNames text, isPassable name = true := by
        refine Decidable.byContradiction fun nul => ?_
        cases (restrictToSuites_eq_cutShort nul).symm.trans chosen
      exact ((restriction_restrictToSuites versions passable).kept chosen).1

/-- A start goes through all stages. -/
theorem follows_prepare (engine : Engine) (machine : Machine) (connector : Connector) :
    Follows engine machine connector StartStage.all (connector.prepare engine machine) := by
  simp only [prepare, ServerContext.ofHost, ServerIdentity.ofHost, ofEntry_eq_install,
    Traced.liftM_bind, bind_assoc, pure_bind]
  refine .bind carriesOut_versions fun enabled parsed => ?_
  obtain ⟨-, some, rfl⟩ := enabledVersions_eq_ok.mp parsed
  refine .bind carriesOut_suites fun sorted chosen => ?_
  obtain ⟨lists, left⟩ := sorted
  obtain ⟨range, ranged⟩ := exists_ofVersions (ne_nil_of_chooseSuites some chosen)
  have ranges : (liftM (VersionRange.ofVersions left) : Traced VersionRange) = pure range := by
    rw [ranged]
    rfl
  dsimp only
  rw [ranges, pure_bind]
  refine .bind carriesOut_certificate fun certificate set => ?_
  have set : connector.host.certificate = .some certificate := Outcome.ofOption_eq_ok.mp set
  refine .bind (carriesOut_entry set) fun entry found => ?_
  have selected : connector.host.Selects entry :=
    ⟨certificate, set, KeyStore.findPrivateKey?_eq_some.mp
      (ServerIdentity.findPrivateKey?_of_entry found)⟩
  refine .bind (carriesOut_leaf selected) fun parts first => ?_
  obtain ⟨leaf, chain⟩ := parts
  have first : entry.chain = leaf :: chain := leafOf_eq_ok.mp first
  have listed : connector.host.SetsClassic engine lists.classic :=
    HostConfig.setsClassic_of_chooseSuites chosen
  refine .bind (carriesOut_identity selected first listed) fun identity _ => ?_
  refine .bind carriesOut_anchors fun anchors _ => ?_
  refine .bind carriesOut_address fun address _ => ?_
  exact .done

/-! ## The first stage that is not passed -/

/-- Going through some stages is stopped by the first of them that is not passed, and by nothing
else. -/
theorem GoesThrough.eq_error_iff
    (goes : GoesThrough engine machine connector stages events ending) :
    ending = .error stop ↔ ∃ stage ∈ stages, Stops engine machine connector stage stop ∧
      ∀ earlier ∈ stages.takeWhile (· ≠ stage), Passes engine machine connector earlier := by
  induction goes with
  | done => simp
  | @stopped first rest events stop' stops warns =>
      constructor
      · rintro ⟨⟩
        exact ⟨first, List.mem_cons_self, stops, by simp⟩
      · rintro ⟨stage, member, stops', passed⟩
        by_cases same : first = stage
        · subst same
          rw [stops.unique stops']
        · have earlier : first ∈ (first :: rest).takeWhile (· ≠ stage) := by simp [same]
          exact absurd stops (passed first earlier stop')
  | @passed first rest events later ending passes warns goes ih =>
      have different {stage : StartStage} (stops : Stops engine machine connector stage stop) :
          first ≠ stage := by
        rintro rfl
        exact passes stop stops
      have before {stage : StartStage} (stops : Stops engine machine connector stage stop) :
          (first :: rest).takeWhile (· ≠ stage) = first :: rest.takeWhile (· ≠ stage) :=
        List.takeWhile_cons_of_pos (by simpa using different stops)
      rw [ih]
      constructor
      · rintro ⟨stage, member, stops, passed⟩
        refine ⟨stage, List.mem_cons_of_mem first member, stops, ?_⟩
        rw [before stops]
        exact List.forall_mem_cons.mpr ⟨passes, passed⟩
      · rintro ⟨stage, member, stops, passed⟩
        rw [before stops] at passed
        have later : stage ∈ rest := (List.mem_cons.mp member).resolve_left (different stops).symm
        exact ⟨stage, later, stops, (List.forall_mem_cons.mp passed).2⟩

/-- Some stages are gone through to the end exactly if each of them is passed. -/
theorem GoesThrough.eq_ok_iff
    (goes : GoesThrough engine machine connector stages events ending) :
    ending = .ok () ↔ ∀ stage ∈ stages, Passes engine machine connector stage := by
  induction goes with
  | done => simp
  | @stopped first rest events stop stops =>
      refine iff_of_false nofun fun passed => ?_
      exact passed first List.mem_cons_self stop stops
  | passed passes _ _ ih => simp [ih, passes]

/-! ## What is logged -/

theorem mem_all (stage : StartStage) : stage ∈ StartStage.all := by
  cases stage <;> decide

/-- The stages before a stage. -/
theorem takeWhile_all {before : List StartStage}
    (whole : StartStage.all = before ++ stage :: rest) :
    StartStage.all.takeWhile (· ≠ stage) = before := by
  have distinct : StartStage.all.Nodup := by decide
  rw [whole] at distinct ⊢
  have others : ∀ earlier ∈ before, decide (earlier ≠ stage) = true := by
    intro earlier member
    have apart := (List.nodup_append.mp distinct).2.2 earlier member stage List.mem_cons_self
    simpa using apart
  rw [List.takeWhile_append_of_pos others, List.takeWhile_cons_of_neg (by simp), List.append_nil]

/-- What is logged are the warnings of the stages that are reached. -/
theorem GoesThrough.logs {before : List StartStage}
    (goes : GoesThrough engine machine connector stages events ending)
    (whole : StartStage.all = before ++ stages)
    (passed : ∀ earlier ∈ before, Passes engine machine connector earlier) :
    ∃ parts, List.Forall₂ (Logs engine machine connector) stages parts ∧
      events = parts.flatten := by
  induction goes generalizing before with
  | done => exact ⟨[], .nil, rfl⟩
  | @stopped stage rest events stop stops warns =>
      have reaches : Reaches engine machine connector stage := by
        rw [Reaches, takeWhile_all whole]
        exact passed
      have unreached : ∀ later ∈ rest, Logs engine machine connector later [] := by
        intro later member
        obtain ⟨between, after, rfl⟩ := List.append_of_mem member
        refine .unreached fun reaches => reaches stage ?_ stop stops
        have whole : StartStage.all = (before ++ stage :: between) ++ later :: after := by
          rw [whole, List.append_assoc, List.cons_append]
        rw [takeWhile_all whole]
        simp
      refine ⟨events :: rest.map fun _ => [], .cons (.reached reaches warns) ?_, by simp⟩
      rw [List.forall₂_map_right_iff, List.forall₂_same]
      exact unreached
  | @passed stage rest events later ending passes warns goes ih =>
      have reaches : Reaches engine machine connector stage := by
        rw [Reaches, takeWhile_all whole]
        exact passed
      have whole : StartStage.all = (before ++ [stage]) ++ rest := by
        rw [whole, List.append_assoc, List.singleton_append]
      have passed : ∀ earlier ∈ before ++ [stage], Passes engine machine connector earlier := by
        intro earlier member
        rcases List.mem_append.mp member with member | member
        · exact passed earlier member
        · rw [List.mem_singleton.mp member]
          exact passes
      obtain ⟨parts, logs, rfl⟩ := ih whole passed
      exact ⟨events :: parts, .cons (.reached reaches warns) logs, rfl⟩

theorem Logs.eq_nil (h : Logs engine machine connector stage events) (suites : stage ≠ .suites)
    (anchors : stage ≠ .anchors) : events = [] := by
  cases h with
  | reached _ warns =>
      cases warns with
      | quiet => rfl
      | _ => contradiction
  | unreached => rfl

/-- A stage has one log only. -/
theorem Logs.unique {events' : List Event} (h : Logs engine machine connector stage events)
    (h' : Logs engine machine connector stage events') : events = events' := by
  cases h with
  | unreached unreached =>
      cases h' with
      | unreached => rfl
      | reached reaches => exact absurd reaches unreached
  | reached reaches warns =>
      cases h' with
      | unreached unreached => exact absurd reaches unreached
      | reached _ warns' => exact warns.unique warns'

theorem Logs.iff_eq {events' : List Event} (h : Logs engine machine connector stage events) :
    Logs engine machine connector stage events' ↔ events' = events := by
  constructor
  · intro h'
    exact h'.unique h
  · rintro rfl
    exact h

/-- Only suites and trust are warned of, and in this order. -/
theorem GoesThrough.exists_logs
    (goes : GoesThrough engine machine connector StartStage.all events ending) :
    ∃ suites trust, events = suites ++ trust ∧
      Logs engine machine connector .suites suites ∧
        Logs engine machine connector .anchors trust := by
  have whole : StartStage.all = [] ++ StartStage.all := rfl
  obtain ⟨parts, logs, rfl⟩ := goes.logs whole nofun
  obtain _ | ⟨versions, _ | ⟨sorted, _ | ⟨certificate, _ | ⟨entry, _ | ⟨leaf,
    _ | ⟨identity, _ | ⟨trusted, _ | ⟨address, _ | _⟩⟩⟩⟩⟩⟩⟩⟩ := logs
  refine ⟨_, _, ?_, sorted, trusted⟩
  rw [versions.eq_nil (by decide) (by decide), certificate.eq_nil (by decide) (by decide),
    entry.eq_nil (by decide) (by decide), leaf.eq_nil (by decide) (by decide),
    identity.eq_nil (by decide) (by decide), address.eq_nil (by decide) (by decide)]
  simp

theorem Logs.level_eq (h : Logs engine machine connector stage events) :
    ∀ event ∈ events, event.level = .warning := by
  have suites (names : List String) :
      ∀ event ∈ names.map Event.suiteUnsupported, event.level = .warning :=
    List.forall_mem_map.mpr fun _ _ => rfl
  cases h with
  | unreached => exact List.forall_mem_nil _
  | reached _ warns =>
      cases warns with
      | suiteCutShort => exact suites _
      | suitesUnset => exact suites _
      | suitesSet =>
          exact List.forall_mem_append.mpr ⟨suites _, List.forall_mem_map.mpr fun _ _ => rfl⟩
      | passwordRefused => exact List.forall_mem_singleton.mpr rfl
      | platformUnavailable => exact List.forall_mem_singleton.mpr rfl
      | _ => exact List.forall_mem_nil _

theorem Logs.length_le_one (h : Logs engine machine connector .anchors events) :
    events.length ≤ 1 := by
  cases h with
  | reached _ warns =>
      cases warns with
      | quiet _ anchors => exact absurd rfl anchors
      | _ => simp
  | unreached => simp

/-! ## Starts -/

/-- What a start reports that fails: the failure, with the address that was configured. -/
def report (connector : Connector) : Outcome Failure Unit → List Event
  | .error (.failure failure) => [.startFailed connector.address failure]
  | _ => []

/-- A start that its state allows goes through all stages, and then reports a failure. -/
theorem exists_goesThrough (engine : Engine) (machine : Machine)
    (state : connector.isConfigurable = true) :
    ∃ warnings,
      GoesThrough engine machine connector StartStage.all warnings
          (connector.start engine machine).2.outcome ∧
        (connector.start engine machine).2.events =
          warnings ++ connector.report (connector.start engine machine).2.outcome := by
  have follows := follows_prepare engine machine connector
  rw [Follows] at follows
  have ends := startEnds_start engine machine connector
  generalize connector.start engine machine = ended at ends ⊢
  refine ⟨(connector.prepare engine machine).events, ?_⟩
  cases ends with
  | refused refused => cases state.symm.trans refused
  | started _ prepared =>
      rw [prepared] at follows
      exact ⟨follows, (List.append_nil _).symm⟩
  | failed _ prepared =>
      rw [prepared] at follows
      exact ⟨follows, rfl⟩
  | cut _ prepared =>
      rw [prepared] at follows
      exact ⟨follows, (List.append_nil _).symm⟩

/-- The warnings of a start and what it reports, told apart. -/
theorem exists_logs (engine : Engine) (machine : Machine)
    (state : connector.isConfigurable = true) :
    ∃ suites trust,
      (connector.start engine machine).2.events =
          suites ++ trust ++ connector.report (connector.start engine machine).2.outcome ∧
        Logs engine machine connector .suites suites ∧
          Logs engine machine connector .anchors trust := by
  obtain ⟨warnings, goes, events⟩ := exists_goesThrough engine machine state
  obtain ⟨suites, trust, rfl, sorted, trusted⟩ := goes.exists_logs
  exact ⟨suites, trust, events, sorted, trusted⟩

theorem level_append {suites trust : List Event}
    (sorted : Logs engine machine connector .suites suites)
    (trusted : Logs engine machine connector .anchors trust) :
    ∀ event ∈ suites ++ trust, event.level = .warning := fun event member =>
  (List.mem_append.mp member).elim (sorted.level_eq event) (trusted.level_eq event)

theorem level_report {event : Event} {ending : Outcome Failure Unit}
    (member : event ∈ connector.report ending) :
    event.level = .error ∧ ∃ failure, ending = .error (.failure failure) := by
  match ending with
  | .error (.failure failure) =>
      rw [List.mem_singleton.mp member]
      exact ⟨rfl, failure, rfl⟩
  | .error .cutShort => cases member
  | .ok () => cases member

/-- What is reported is no warning. -/
theorem filter_append_report {warnings : List Event} {ending : Outcome Failure Unit}
    (warning : ∀ event ∈ warnings, event.level = .warning) :
    (warnings ++ connector.report ending).filter (fun event => event.level = .warning) =
      warnings := by
  have errors : ∀ event ∈ connector.report ending, ¬event.level = .warning := by
    intro event member level
    cases level.symm.trans (level_report member).1
  rw [List.filter_append, List.filter_eq_self.mpr (by simpa using warning),
    List.filter_eq_nil_iff.mpr (by simpa using errors), List.append_nil]

/-- A start keeps to the order of the stages, in what it answers and in what it logs. -/
structure StartsInOrder (engine : Engine) (machine : Machine) (connector : Connector) : Prop where
  /-- A start that its state does not allow changes nothing and logs nothing. -/
  refused : connector.isConfigurable = false → connector.start engine machine =
    (connector, ⟨[], .error (.failure (.startup (.notStartable connector.state)))⟩)
  /-- Any other start is stopped by the first stage that is not passed, and by nothing else. -/
  stopped : connector.isConfigurable = true → ∀ {stop},
    (connector.start engine machine).2.outcome = .error stop ↔ ∃ stage,
      Reaches engine machine connector stage ∧ Stops engine machine connector stage stop
  /-- It succeeds if all stages are passed. -/
  succeeds : connector.isConfigurable = true →
    ((connector.start engine machine).2.outcome = .ok () ↔
      ∀ stage, Passes engine machine connector stage)
  /-- It is not cut short where it hands no NUL character to the engine. -/
  answered : (∀ suites, connector.host.ciphers = some suites →
    ∀ name ∈ suiteNames suites, isPassable name = true) →
      isPassable (KeyStore.passwordText connector.host.trustPassword) = true →
        connector.loader.StopsOnlyAtNul →
          (connector.start engine machine).2.outcome ≠ .error .cutShort
  /-- Its warnings are those of the suites, if they are reached, and then those of trust, if that is
  reached, of which there is at most one. -/
  warned : connector.isConfigurable = true → ∃ suites trust,
    (connector.start engine machine).2.events.filter (fun event => event.level = .warning) =
        suites ++ trust ∧
      (∀ events, Logs engine machine connector .suites events ↔ events = suites) ∧
        (∀ events, Logs engine machine connector .anchors events ↔ events = trust) ∧
          trust.length ≤ 1
  /-- If it fails, that is the last thing that it logs and its only error. -/
  reported : connector.isConfigurable = true → ∀ {failure},
    (connector.start engine machine).2.outcome = .error (.failure failure) →
      ∃ warnings event, (connector.start engine machine).2.events = warnings ++ [event] ∧
        (∀ warning ∈ warnings, warning.level = .warning) ∧ event.level = .error ∧
          event.fields = [("addr", connector.address.text), ("error", failure.message)]
  /-- If it does not fail, it logs no error. -/
  unreported : ∀ event ∈ (connector.start engine machine).2.events, event.level = .error →
    connector.isConfigurable = true ∧
      ∃ failure, (connector.start engine machine).2.outcome = .error (.failure failure)

theorem startsInOrder (engine : Engine) (machine : Machine) (connector : Connector) :
    StartsInOrder engine machine connector where
  refused := start_of_not_configurable
  stopped state {stop} := by
    obtain ⟨warnings, goes, -⟩ := exists_goesThrough engine machine state
    rw [goes.eq_error_iff]
    constructor
    · rintro ⟨stage, -, stops, passed⟩
      exact ⟨stage, passed, stops⟩
    · rintro ⟨stage, reaches, stops⟩
      exact ⟨stage, mem_all stage, stops, reaches⟩
  succeeds state := by
    obtain ⟨warnings, goes, -⟩ := exists_goesThrough engine machine state
    rw [goes.eq_ok_iff]
    exact ⟨fun passed stage => passed stage (mem_all stage), fun passed stage _ => passed stage⟩
  answered suites password loads cut :=
    ServerContext.not_interrupted loads suites password (start_eq_cutShort.mp cut).2
  warned state := by
    obtain ⟨suites, trust, events, sorted, trusted⟩ := exists_logs engine machine state
    refine ⟨suites, trust, ?_, fun _ => sorted.iff_eq, fun _ => trusted.iff_eq,
      trusted.length_le_one⟩
    rw [events]
    exact filter_append_report (level_append sorted trusted)
  reported state {failure} failed := by
    obtain ⟨suites, trust, events, sorted, trusted⟩ := exists_logs engine machine state
    rw [failed] at events
    exact ⟨suites ++ trust, .startFailed connector.address failure, events,
      level_append sorted trusted, rfl, rfl⟩
  unreported event member level := by
    cases state : connector.isConfigurable with
    | false =>
        rw [start_of_not_configurable state] at member
        cases member
    | true =>
        obtain ⟨suites, trust, events, sorted, trusted⟩ := exists_logs engine machine state
        rw [events] at member
        rcases List.mem_append.mp member with warning | reported
        · cases level.symm.trans (level_append sorted trusted event warning)
        · exact ⟨rfl, (level_report reported).2⟩

example : ((Sample.connector ["TLSv1.1", "TLSv1.3"] "x:B:y").start Sample.engine
    { Sample.machine with bind _ := .error (.system 98) }).2.events =
      [.suiteUnsupported "x", .suiteUnsupported "y", .versionDisabled .tls11,
        .startFailed Sample.address (.startup (.cannotBind Sample.address (.system 98)))] := by
  decide +kernel

end TlsListener.Connector
