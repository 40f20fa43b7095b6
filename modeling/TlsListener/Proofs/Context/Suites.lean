import Mathlib.Data.List.TakeWhile
import TlsListener.Context.Suites
import TlsListener.Engine.Standard
import TlsListener.Proofs.Traced

/-!
# Sorting suites and restricting versions to them

The names in a text of suites are taken one after the other, and each goes one of three ways: to the
list of the older versions, to the suites of TLS 1.3, or into the log. `SortsTo` says so with one
rule for each way, so that order and repetitions are kept by the form of the rules. The lists that a
context is made with are proved to be what the names sort to.

`Restriction` then says what is to come of a restriction: which lists are set, which versions
remain, and which failure stands for what. Every version that remains has a list of its own that is
set, so the engine never chooses suites by itself. A text of suites is restricted to in this way
exactly if none of its names holds a NUL character; otherwise the restriction is cut short.
-/

namespace TlsListener

/-- Sorting names one after the other. The list of the older versions is asked first, under the
engine's own name of a suite, and then the suites of TLS 1.3 under the name that was given. -/
inductive SortsTo (engine : Engine) : List String → SortedSuites → Prop where
  | nil : SortsTo engine [] ⟨[], [], []⟩
  | classic {name : String} {names classic modern unsupported : List String}
      (listed : engine.acceptsList (engine.suiteName name) = true)
      (rest : SortsTo engine names ⟨classic, modern, unsupported⟩) :
      SortsTo engine (name :: names) ⟨engine.suiteName name :: classic, modern, unsupported⟩
  | modern {name : String} {names classic modern unsupported : List String}
      (unlisted : engine.acceptsList (engine.suiteName name) = false)
      (accepted : engine.acceptsSuites name = true)
      (rest : SortsTo engine names ⟨classic, modern, unsupported⟩) :
      SortsTo engine (name :: names) ⟨classic, name :: modern, unsupported⟩
  | unsupported {name : String} {names classic modern unsupported : List String}
      (unlisted : engine.acceptsList (engine.suiteName name) = false)
      (refused : engine.acceptsSuites name = false)
      (rest : SortsTo engine names ⟨classic, modern, unsupported⟩) :
      SortsTo engine (name :: names) ⟨classic, modern, name :: unsupported⟩

namespace SortedSuites

variable {engine : Engine} {name : String} {names : List String} {sorted : SortedSuites}

theorem ofNames_cons_of_listed (listed : engine.acceptsList (engine.suiteName name) = true) :
    ofNames engine (name :: names) =
      { ofNames engine names with
        classic := engine.suiteName name :: (ofNames engine names).classic } := by
  simp [ofNames, Engine.suiteKind, listed]

theorem ofNames_cons_of_accepted
    (unlisted : engine.acceptsList (engine.suiteName name) = false)
    (accepted : engine.acceptsSuites name = true) :
    ofNames engine (name :: names) =
      { ofNames engine names with modern := name :: (ofNames engine names).modern } := by
  simp [ofNames, Engine.suiteKind, unlisted, accepted]

theorem ofNames_cons_of_refused
    (unlisted : engine.acceptsList (engine.suiteName name) = false)
    (refused : engine.acceptsSuites name = false) :
    ofNames engine (name :: names) =
      { ofNames engine names with unsupported := name :: (ofNames engine names).unsupported } := by
  simp [ofNames, Engine.suiteKind, unlisted, refused]

theorem sortsTo_ofNames (engine : Engine) (names : List String) :
    SortsTo engine names (ofNames engine names) := by
  induction names with
  | nil => exact .nil
  | cons name names ih =>
      cases listed : engine.acceptsList (engine.suiteName name) with
      | true =>
          rw [ofNames_cons_of_listed listed]
          exact .classic listed ih
      | false =>
          cases accepted : engine.acceptsSuites name with
          | true =>
              rw [ofNames_cons_of_accepted listed accepted]
              exact .modern listed accepted ih
          | false =>
              rw [ofNames_cons_of_refused listed accepted]
              exact .unsupported listed accepted ih

/-- The names sort to one result only, which is the one that contexts are made with. -/
theorem sortsTo_iff : SortsTo engine names sorted ↔ sorted = ofNames engine names := by
  constructor
  · intro h
    induction h with
    | nil => rfl
    | classic listed _ ih => rw [ofNames_cons_of_listed listed, ← ih]
    | modern unlisted accepted _ ih => rw [ofNames_cons_of_accepted unlisted accepted, ← ih]
    | unsupported unlisted refused _ ih => rw [ofNames_cons_of_refused unlisted refused, ← ih]
  · rintro rfl
    exact sortsTo_ofNames engine names

/-- The suites among which those of a version are. -/
def suitesFor (sorted : SortedSuites) : Version → List String
  | .tls13 => sorted.modern
  | _ => sorted.classic

theorem serves_iff {version : Version} :
    sorted.serves version = true ↔ sorted.suitesFor version ≠ [] := by
  cases version <;> simp [serves, suitesFor]

theorem isEmpty_iff : sorted.isEmpty = true ↔ sorted.classic = [] ∧ sorted.modern = [] := by
  simp [isEmpty]

end SortedSuites

namespace SuiteLists

/-- The list that is set for a version. -/
def listFor (lists : SuiteLists) : Version → Option String
  | .tls13 => lists.modern
  | _ => lists.classic

theorem join?_nil : join? [] = none := rfl

theorem join?_of_ne_nil {names : List String} (h : names ≠ []) :
    join? names = some (String.intercalate ":" names) := by
  simp [join?, h]

theorem listFor_ofSorted (sorted : SortedSuites) (version : Version) :
    (ofSorted sorted).listFor version = join? (sorted.suitesFor version) := by
  cases version <;> rfl

end SuiteLists

/-- The engine accepts the lists as they are set, each of them where there are suites for it. -/
def SortedSuites.JoinsAccepted (engine : Engine) (sorted : SortedSuites) : Prop :=
  (sorted.classic ≠ [] → engine.acceptsList (String.intercalate ":" sorted.classic) = true) ∧
    (sorted.modern ≠ [] → engine.acceptsSuites (String.intercalate ":" sorted.modern) = true)

theorem SuiteLists.areAccepted_ofSorted_iff {engine : Engine} {sorted : SortedSuites} :
    (ofSorted sorted).areAccepted engine = true ↔ sorted.JoinsAccepted engine := by
  have all_join {accepts : String → Bool} {names : List String} :
      (join? names).all accepts = true ↔
        (names ≠ [] → accepts (String.intercalate ":" names) = true) := by
    by_cases empty : names = []
    · simp [empty, join?_nil]
    · simp [join?_of_ne_nil empty, empty]
  rw [areAccepted, ofSorted, Bool.and_eq_true, all_join, all_join, SortedSuites.JoinsAccepted]

/-- What comes of restricting versions to the suites of a text, once these are sorted. -/
structure Restriction (suites : String) (versions : List Version) (engine : Engine)
    (sorted : SortedSuites) (answer : Traced (SuiteLists × List Version)) : Prop where
  /-- Each name that is left out is logged, in order, before any version is disabled. -/
  warned : ∃ disabled : List Version,
    answer.events = sorted.unsupported.map .suiteUnsupported ++ disabled.map .versionDisabled
  /-- The lists are set to what there are suites for, joined, and to nothing else. -/
  set : ∀ {lists left}, answer.outcome = .ok (lists, left) → ∀ version,
    (sorted.suitesFor version ≠ [] →
      lists.listFor version = some (String.intercalate ":" (sorted.suitesFor version))) ∧
    (sorted.suitesFor version = [] → lists.listFor version = none)
  /-- Of the versions those remain that have suites, and there are some. -/
  kept : ∀ {lists left}, answer.outcome = .ok (lists, left) →
    left ≠ [] ∧ left.Sublist versions ∧
      ∀ version, version ∈ left ↔ version ∈ versions ∧ sorted.suitesFor version ≠ []
  /-- It is a failure to start if there are no suites at all, or if the lists are accepted and no
  version remains. -/
  startup_iff : ∀ {cause}, answer.outcome = .fail (.startup cause) ↔
    (cause = .noSuite suites ∧ sorted.classic = [] ∧ sorted.modern = []) ∨
    (cause = .noVersionForSuites suites ∧ ¬(sorted.classic = [] ∧ sorted.modern = []) ∧
      sorted.JoinsAccepted engine ∧ ∀ version ∈ versions, sorted.suitesFor version = [])
  /-- A failure to start names the whole text. -/
  named : ∀ {cause}, answer.outcome = .fail (.startup cause) →
    ∃ account, cause.message = account ++ suites
  /-- It is the engine's failure if a list is refused. -/
  engine_iff : answer.outcome = .fail .engine ↔ ¬sorted.JoinsAccepted engine
  /-- Nothing else comes of it. -/
  settled : (∃ value, answer.outcome = .ok value) ∨
    (∃ cause, answer.outcome = .fail (.startup cause)) ∨ answer.outcome = .fail .engine

namespace Restriction

variable {suites : String} {versions : List Version} {engine : Engine} {sorted : SortedSuites}

/-- A restriction is never cut short. -/
theorem ne_cutShort {answer : Traced (SuiteLists × List Version)}
    (h : Restriction suites versions engine sorted answer) :
    answer.outcome ≠ .error .cutShort := by
  rcases h.settled with ⟨value, h⟩ | ⟨cause, h⟩ | h <;> rw [h] <;> intro cut <;> cases cut

theorem of_isEmpty (empty : sorted.isEmpty = true) :
    Restriction suites versions engine sorted
      ⟨sorted.unsupported.map .suiteUnsupported, .fail (.startup (.noSuite suites))⟩ := by
  obtain ⟨classic, modern⟩ := SortedSuites.isEmpty_iff.mp empty
  have accepted : sorted.JoinsAccepted engine :=
    ⟨fun h => absurd classic h, fun h => absurd modern h⟩
  refine ⟨⟨[], by simp⟩, fun h => ?_, fun h => ?_, ?_, fun h => ?_, ?_, .inr (.inl ⟨_, rfl⟩)⟩
  · cases h
  · cases h
  · intro cause
    constructor
    · rintro ⟨⟩
      exact .inl ⟨rfl, classic, modern⟩
    · rintro (⟨rfl, -⟩ | ⟨-, some, -⟩)
      · rfl
      · exact absurd ⟨classic, modern⟩ some
  · cases h
    exact ⟨_, rfl⟩
  · constructor
    · intro h
      cases h
    · intro h
      exact absurd accepted h

theorem of_refused (refused : ¬sorted.JoinsAccepted engine) :
    Restriction suites versions engine sorted
      ⟨sorted.unsupported.map .suiteUnsupported, .fail .engine⟩ := by
  have some : ¬(sorted.classic = [] ∧ sorted.modern = []) := by
    rintro ⟨classic, modern⟩
    exact refused ⟨fun h => absurd classic h, fun h => absurd modern h⟩
  refine ⟨⟨[], by simp⟩, fun h => ?_, fun h => ?_, ?_, fun h => ?_, ?_, .inr (.inr rfl)⟩
  · cases h
  · cases h
  · intro cause
    constructor
    · intro h
      cases h
    · rintro (⟨-, empty⟩ | ⟨-, -, accepted, -⟩)
      · exact absurd empty some
      · exact absurd accepted refused
  · cases h
  · exact ⟨fun _ => refused, fun _ => rfl⟩

theorem of_no_version (some : ¬(sorted.classic = [] ∧ sorted.modern = []))
    (accepted : sorted.JoinsAccepted engine) (disabled : List Version)
    (none : ∀ version ∈ versions, sorted.suitesFor version = []) :
    Restriction suites versions engine sorted
      ⟨sorted.unsupported.map .suiteUnsupported ++ disabled.map .versionDisabled,
        .fail (.startup (.noVersionForSuites suites))⟩ := by
  refine ⟨⟨disabled, rfl⟩, fun h => ?_, fun h => ?_, ?_, fun h => ?_, ?_, .inr (.inl ⟨_, rfl⟩)⟩
  · cases h
  · cases h
  · intro cause
    constructor
    · rintro ⟨⟩
      exact .inr ⟨rfl, some, accepted, none⟩
    · rintro (⟨-, empty⟩ | ⟨rfl, -⟩)
      · exact absurd empty some
      · rfl
  · cases h
    exact ⟨_, rfl⟩
  · constructor
    · intro h
      cases h
    · intro h
      exact absurd accepted h

theorem of_served (accepted : sorted.JoinsAccepted engine) (disabled : List Version)
    (served : versions.filter sorted.serves ≠ []) :
    Restriction suites versions engine sorted
      ⟨sorted.unsupported.map .suiteUnsupported ++ disabled.map .versionDisabled,
        .ok (.ofSorted sorted, versions.filter sorted.serves)⟩ := by
  have member (version : Version) : version ∈ versions.filter sorted.serves ↔
      version ∈ versions ∧ sorted.suitesFor version ≠ [] := by
    rw [List.mem_filter, SortedSuites.serves_iff]
  refine ⟨⟨disabled, rfl⟩, ?_, ?_, ?_, fun h => ?_, ?_, .inl ⟨_, rfl⟩⟩
  · rintro lists left ⟨⟩ version
    rw [SuiteLists.listFor_ofSorted]
    exact ⟨SuiteLists.join?_of_ne_nil, fun empty => by rw [empty, SuiteLists.join?_nil]⟩
  · rintro lists left ⟨⟩
    exact ⟨served, List.filter_sublist, member⟩
  · intro cause
    constructor
    · intro h
      cases h
    · rintro (⟨-, classic, modern⟩ | ⟨-, -, -, none⟩)
      all_goals
        obtain ⟨version, kept⟩ := List.exists_mem_of_ne_nil _ served
        obtain ⟨enabled, some⟩ := (member version).mp kept
      · cases version <;> exact absurd ‹_› some
      · exact absurd (none version enabled) some
  · cases h
  · constructor
    · intro h
      cases h
    · intro h
      exact absurd accepted h

end Restriction

/-- A warning of what a host asks for and does not get: a suite that is left out, or a version that
is disabled. -/
inductive Event.IsRestriction : Event → Prop where
  | suite (name : String) : IsRestriction (.suiteUnsupported name)
  | version (version : Version) : IsRestriction (.versionDisabled version)

section

variable {engine : Engine} {suites : String}

theorem sortSuites_of_passable (h : ∀ name ∈ suiteNames suites, isPassable name) :
    sortSuites engine suites =
      ⟨(SortedSuites.ofNames engine (suiteNames suites)).unsupported.map .suiteUnsupported,
        .ok (.ofNames engine (suiteNames suites))⟩ := by
  have taken : (suiteNames suites).takeWhile isPassable = suiteNames suites :=
    List.takeWhile_eq_self_iff.mpr h
  simp only [sortSuites, taken, List.all_eq_true.mpr h, if_true]

/-- A name with a NUL character cuts the sorting short, after the names before it. -/
theorem sortSuites_of_not_passable (h : ¬∀ name ∈ suiteNames suites, isPassable name) :
    (sortSuites engine suites).outcome = .error .cutShort := by
  have some : (suiteNames suites).all isPassable = false := by
    rwa [← Bool.not_eq_true, List.all_eq_true]
  simp only [sortSuites, some]
  rfl

theorem restrictToSuites_eq_cutShort {versions : List Version}
    (h : ¬∀ name ∈ suiteNames suites, isPassable name) :
    (restrictToSuites engine suites versions).outcome = .error .cutShort :=
  Traced.outcome_bind_eq_cutShort.mpr (.inl (sortSuites_of_not_passable h))

theorem restriction_restrictToSuites (versions : List Version)
    (h : ∀ name ∈ suiteNames suites, isPassable name) :
    Restriction suites versions engine (.ofNames engine (suiteNames suites))
      (restrictToSuites engine suites versions) := by
  rw [restrictToSuites, sortSuites_of_passable h, Traced.bind_ok]
  generalize SortedSuites.ofNames engine (suiteNames suites) = sorted
  by_cases empty : sorted.isEmpty = true
  · simpa [empty, Traced.fail, Traced.ofOutcome] using Restriction.of_isEmpty empty
  · have some : ¬(sorted.classic = [] ∧ sorted.modern = []) :=
      fun h => empty (SortedSuites.isEmpty_iff.mpr h)
    by_cases accepted : (SuiteLists.ofSorted sorted).areAccepted engine = true
    · have joins := SuiteLists.areAccepted_ofSorted_iff.mp accepted
      by_cases served : versions.filter sorted.serves = []
      · have none : ∀ version ∈ versions, sorted.suitesFor version = [] := by
          intro version enabled
          have := List.filter_eq_nil_iff.mp served version enabled
          rwa [SortedSuites.serves_iff, not_not] at this
        simpa [empty, accepted, served, Traced.log, Traced.fail, Traced.ofOutcome] using
          Restriction.of_no_version some joins
            (versions.filter fun version => !sorted.serves version) none
      · simpa [empty, accepted, served, Traced.log] using
          Restriction.of_served joins
            (versions.filter fun version => !sorted.serves version) served
    · have refused := mt SuiteLists.areAccepted_ofSorted_iff.mpr accepted
      simpa [empty, accepted, Traced.fail, Traced.ofOutcome] using Restriction.of_refused refused

/-- Where no suites are set no version is disabled. -/
theorem events_restrictToSuites_of_unset (versions : List Version) {sorted : SortedSuites}
    (h : ∀ name ∈ suiteNames suites, isPassable name)
    (sorts : SortsTo engine (suiteNames suites) sorted)
    (unset : (sorted.classic = [] ∧ sorted.modern = []) ∨ ¬sorted.JoinsAccepted engine) :
    (restrictToSuites engine suites versions).events =
      sorted.unsupported.map .suiteUnsupported := by
  rw [restrictToSuites, sortSuites_of_passable h, Traced.bind_ok,
    ← SortedSuites.sortsTo_iff.mp sorts]
  by_cases empty : sorted.isEmpty = true
  · simp [empty, Traced.fail, Traced.ofOutcome]
  · have refused : ¬(SuiteLists.ofSorted sorted).areAccepted engine = true := by
      rw [SuiteLists.areAccepted_ofSorted_iff]
      exact unset.resolve_left fun none => empty (SortedSuites.isEmpty_iff.mpr none)
    simp [empty, refused, Traced.fail, Traced.ofOutcome]

/-- Where suites are set each version without any is disabled. -/
theorem events_restrictToSuites_of_set (versions : List Version) {sorted : SortedSuites}
    (h : ∀ name ∈ suiteNames suites, isPassable name)
    (sorts : SortsTo engine (suiteNames suites) sorted)
    (some : ¬(sorted.classic = [] ∧ sorted.modern = [])) (accepted : sorted.JoinsAccepted engine) :
    (restrictToSuites engine suites versions).events =
      sorted.unsupported.map .suiteUnsupported ++
        (versions.filter fun version => !sorted.serves version).map .versionDisabled := by
  have nonempty : ¬sorted.isEmpty = true := mt SortedSuites.isEmpty_iff.mp some
  have joins := SuiteLists.areAccepted_ofSorted_iff.mpr accepted
  rw [restrictToSuites, sortSuites_of_passable h, Traced.bind_ok,
    ← SortedSuites.sortsTo_iff.mp sorts]
  by_cases served : versions.filter sorted.serves = [] <;>
    simp [nonempty, joins, served, Traced.log, Traced.fail, Traced.ofOutcome]

/-- Choosing suites logs only what a host asks for and does not get. -/
theorem isRestriction_of_mem_chooseSuites {suites : Option String} {versions : List Version}
    {event : Event} (logged : event ∈ (chooseSuites engine suites versions).events) :
    event.IsRestriction := by
  cases suites with
  | none => cases logged
  | some text =>
      rcases Traced.mem_events_bind.mp logged with logged | ⟨sorted, -, logged⟩
      · obtain ⟨name, -, rfl⟩ := List.mem_map.mp logged
        exact .suite name
      · split at logged
        · cases logged
        · dsimp only at logged
          split at logged
          · cases logged
          · rcases Traced.mem_events_bind.mp logged with logged | ⟨-, -, logged⟩
            · obtain ⟨version, -, rfl⟩ := List.mem_map.mp logged
              exact .version version
            · split at logged <;> cases logged

/-- Every text of suites is restricted to as is right for what its names sort to, and each name is
sorted, exactly if the engine can be handed all of the names. -/
theorem restriction_iff_passable (engine : Engine) (suites : String) (versions : List Version) :
    (∃ sorted, SortsTo engine (suiteNames suites) sorted ∧
      Restriction suites versions engine sorted (restrictToSuites engine suites versions)) ↔
    ∀ name ∈ suiteNames suites, isPassable name := by
  constructor
  · rintro ⟨sorted, -, restriction⟩
    refine Decidable.byContradiction fun h => ?_
    exact restriction.ne_cutShort (restrictToSuites_eq_cutShort h)
  · intro h
    exact ⟨_, SortedSuites.sortsTo_ofNames _ _, restriction_restrictToSuites versions h⟩

/-- A name with a NUL character in the middle is not left out. -/
theorem not_restriction_nul :
    ¬∃ sorted, SortsTo .standard (suiteNames "a\x00b") sorted ∧
      Restriction "a\x00b" [.tls12, .tls13] .standard sorted
        (restrictToSuites .standard "a\x00b" [.tls12, .tls13]) := by
  rintro ⟨sorted, -, restriction⟩
  have nul : ¬∀ name ∈ suiteNames "a\x00b", isPassable name := by decide
  exact restriction.ne_cutShort (restrictToSuites_eq_cutShort nul)

end

end TlsListener
