import TlsListener.Proofs.Connector.Stages

/-!
# The steps of a start and the stages that they carry out

A start is made of steps, one for each stage. Each of them is stopped exactly as its stage may be,
and warns of what its stage warns of. The steps after the first make use of what the steps before
them have computed; what they are to do is said without it, so every step is compared with its stage
under what is known of the host by then.
-/

namespace TlsListener.Connector

/-- A step of a start carries out a stage. -/
structure CarriesOut (engine : Engine) (machine : Machine) (connector : Connector) {α : Type}
    (stage : StartStage) (step : Traced α) : Prop where
  warns : Warns engine machine connector stage step.events
  stops_iff : ∀ {stop}, step.outcome = .error stop ↔ Stops engine machine connector stage stop

variable {engine : Engine} {machine : Machine} {connector : Connector}

/-- A step that logs nothing carries out a stage that warns of nothing. -/
theorem CarriesOut.lift {α : Type} {stage : StartStage} {outcome : Outcome Failure α}
    (suites : stage ≠ .suites) (anchors : stage ≠ .anchors)
    (stops_iff : ∀ {stop}, outcome = .error stop ↔ Stops engine machine connector stage stop) :
    CarriesOut engine machine connector stage (liftM outcome : Traced α) :=
  ⟨.quiet suites anchors, stops_iff⟩

/-! ## Versions -/

theorem carriesOut_versions : CarriesOut engine machine connector .versions
    (liftM (enabledVersions connector.host.enabledProtocols) : Traced (List Version)) where
  warns := .quiet (by decide) (by decide)
  stops_iff {stop} := by
    change enabledVersions connector.host.enabledProtocols = .error stop ↔ _
    by_cases unknown : ∃ name ∈ connector.host.enabledProtocols, Version.parse? name = none
    · obtain ⟨name, least, refused⟩ := NameSet.exists_leastUnknown unknown
      rw [refused]
      constructor
      · rintro ⟨⟩
        exact .unknownVersion least
      · intro stops
        cases stops with
        | unknownVersion least' => rw [least.unique least']
        | noVersion none => exact absurd least.mem (none name)
    · have known : ∀ name ∈ connector.host.enabledProtocols, (Version.parse? name).isSome := by
        intro name member
        rw [Option.isSome_iff_ne_none]
        exact fun none => unknown ⟨name, member, none⟩
      by_cases empty : versionsOf connector.host.enabledProtocols = []
      · have none : ∀ name, name ∉ connector.host.enabledProtocols := by
          intro name member
          obtain ⟨version, denoted⟩ := Option.isSome_iff_exists.mp (known name member)
          have enabled := mem_versionsOf.mpr ⟨name, member, denoted⟩
          rw [empty] at enabled
          cases enabled
        have nothing : connector.host.enabledProtocols.names = [] :=
          List.eq_nil_iff_forall_not_mem.mpr none
        have refused : enabledVersions connector.host.enabledProtocols =
            .error (.failure (.startup .noVersion)) := by
          rw [enabledVersions, empty, nothing]
          rfl
        rw [refused]
        constructor
        · rintro ⟨⟩
          exact .noVersion none
        · intro stops
          cases stops with
          | unknownVersion least => exact absurd least.mem (none _)
          | noVersion => rfl
      · rw [enabledVersions_eq_ok.mpr ⟨known, empty, rfl⟩]
        constructor
        · rintro ⟨⟩
        · intro stops
          cases stops with
          | unknownVersion least => exact absurd ⟨_, least.mem, least.unknown⟩ unknown
          | noVersion none =>
              obtain ⟨version, enabled⟩ := List.exists_mem_of_ne_nil _ empty
              obtain ⟨name, member, -⟩ := mem_versionsOf.mp enabled
              exact absurd member (none name)

/-! ## Suites -/

/-- Suites that can be handed to the engine are restricted to as the stage says. -/
theorem carriesOut_restriction {suites : String} {sorted : SortedSuites}
    (sorts : connector.host.SortsSuites engine suites sorted) :
    CarriesOut engine machine connector .suites
      (restrictToSuites engine suites (versionsOf connector.host.enabledProtocols)) where
  warns := by
    by_cases none : sorted.classic = [] ∧ sorted.modern = []
    · rw [events_restrictToSuites_of_unset _ sorts.passable sorts.sorts (.inl none)]
      exact .suitesUnset sorts (.inl none)
    · by_cases accepted : sorted.JoinsAccepted engine
      · rw [events_restrictToSuites_of_set _ sorts.passable sorts.sorts none accepted]
        exact .suitesSet sorts none accepted HostConfig.disables_versionsOf
      · rw [events_restrictToSuites_of_unset _ sorts.passable sorts.sorts (.inr accepted)]
        exact .suitesUnset sorts (.inr accepted)
  stops_iff {stop} := by
    have restriction : Restriction suites _ engine _ _ := restriction_restrictToSuites
      (versionsOf connector.host.enabledProtocols) sorts.passable
    rw [← SortedSuites.sortsTo_iff.mp sorts.sorts] at restriction
    have unserved : (∀ version ∈ versionsOf connector.host.enabledProtocols,
        sorted.suitesFor version = []) ↔
        ∀ version, connector.host.enabledProtocols.Denotes version →
          sorted.suitesFor version = [] :=
      forall_congr' fun version => imp_congr_left mem_versionsOf
    constructor
    · intro stopped
      rcases restriction.settled with ⟨value, ended⟩ | ⟨cause, ended⟩ | ended
      · cases ended.symm.trans stopped
      · cases ended.symm.trans stopped
        rcases restriction.startup_iff.mp ended with ⟨rfl, none⟩ | ⟨rfl, some, accepted, none⟩
        · exact .noSuite sorts none
        · exact .noVersionForSuites sorts some accepted (unserved.mp none)
      · cases ended.symm.trans stopped
        exact .suitesRefused sorts (restriction.engine_iff.mp ended)
    · intro stops
      cases stops with
      | suiteCutShort set member nul =>
          cases set.symm.trans sorts.set
          cases (sorts.passable _ member).symm.trans nul
      | noSuite sorts' none =>
          obtain ⟨rfl, rfl⟩ := sorts.unique sorts'
          exact restriction.startup_iff.mpr (.inl ⟨rfl, none⟩)
      | suitesRefused sorts' refused =>
          obtain ⟨rfl, rfl⟩ := sorts.unique sorts'
          exact restriction.engine_iff.mpr refused
      | noVersionForSuites sorts' some accepted none =>
          obtain ⟨rfl, rfl⟩ := sorts.unique sorts'
          exact restriction.startup_iff.mpr (.inr ⟨rfl, some, accepted, unserved.mpr none⟩)

/-- The suites before one that cannot be handed to the engine are sorted. -/
theorem events_restrictToSuites_of_split {suites name : String} {before after : List String}
    {versions : List Version} (split : suiteNames suites = before ++ name :: after)
    (passable : ∀ earlier ∈ before, isPassable earlier = true) (nul : isPassable name = false) :
    (restrictToSuites engine suites versions).events =
      (SortedSuites.ofNames engine before).unsupported.map .suiteUnsupported := by
  have taken : (suiteNames suites).takeWhile isPassable = before := by
    rw [split, List.takeWhile_append_of_pos passable,
      List.takeWhile_cons_of_neg (by simp [nul]), List.append_nil]
  have stopped : (suiteNames suites).all isPassable = false := by simp [split, nul]
  rw [restrictToSuites, sortSuites, taken, stopped]
  rfl

/-- Suites that cannot be handed to the engine cut the stage short. -/
theorem carriesOut_of_not_passable {suites : String} (set : connector.host.ciphers = some suites)
    (nul : ¬∀ name ∈ suiteNames suites, isPassable name = true) :
    CarriesOut engine machine connector .suites
      (restrictToSuites engine suites (versionsOf connector.host.enabledProtocols)) where
  warns := by
    have some : ((suiteNames suites).find? fun name => !isPassable name).isSome := by
      rw [List.find?_isSome]
      simpa using nul
    obtain ⟨name, found⟩ := Option.isSome_iff_exists.mp some
    obtain ⟨nul, before, after, split, passable⟩ := List.find?_eq_some_iff_append.mp found
    have passable : ∀ earlier ∈ before, isPassable earlier = true := by simpa using passable
    have nul : isPassable name = false := by simpa using nul
    rw [events_restrictToSuites_of_split split passable nul]
    exact .suiteCutShort set split passable nul (SortedSuites.sortsTo_ofNames engine before)
  stops_iff {stop} := by
    have handed {suites' : String} {sorted : SortedSuites} :
        ¬connector.host.SortsSuites engine suites' sorted := by
      intro sorts
      cases set.symm.trans sorts.set
      exact nul sorts.passable
    rw [restrictToSuites_eq_cutShort nul]
    constructor
    · rintro ⟨⟩
      have some : ∃ name ∈ suiteNames suites, isPassable name = false := by simpa using nul
      obtain ⟨name, member, nul⟩ := some
      exact .suiteCutShort set member nul
    · intro stops
      cases stops with
      | suiteCutShort => rfl
      | noSuite sorts => exact absurd sorts handed
      | suitesRefused sorts => exact absurd sorts handed
      | noVersionForSuites sorts => exact absurd sorts handed

theorem carriesOut_suites : CarriesOut engine machine connector .suites
    (chooseSuites engine connector.host.ciphers
      (versionsOf connector.host.enabledProtocols)) := by
  cases set : connector.host.ciphers with
  | none =>
      refine ⟨.unset set, fun {stop} => ?_⟩
      constructor
      · rintro ⟨⟩
      · intro stops
        cases stops with
        | suiteCutShort set' => cases set.symm.trans set'
        | noSuite sorts => cases set.symm.trans sorts.set
        | suitesRefused sorts => cases set.symm.trans sorts.set
        | noVersionForSuites sorts => cases set.symm.trans sorts.set
  | some suites =>
      by_cases passable : ∀ name ∈ suiteNames suites, isPassable name = true
      · exact carriesOut_restriction ⟨set, passable, SortedSuites.sortsTo_ofNames _ _⟩
      · exact carriesOut_of_not_passable set passable

/-- Suites are warned of in one way only. -/
theorem events_chooseSuites {events : List Event}
    (warns : Warns engine machine connector .suites events) :
    (chooseSuites engine connector.host.ciphers
      (versionsOf connector.host.enabledProtocols)).events = events := by
  cases warns with
  | unset unset =>
      rw [unset]
      rfl
  | suiteCutShort set split passable nul sorts =>
      rw [set, chooseSuites, events_restrictToSuites_of_split split passable nul,
        SortedSuites.sortsTo_iff.mp sorts]
  | suitesUnset sorts unset =>
      rw [sorts.set, chooseSuites,
        events_restrictToSuites_of_unset _ sorts.passable sorts.sorts unset]
  | suitesSet sorts some accepted disables =>
      rw [sorts.set, chooseSuites,
        events_restrictToSuites_of_set _ sorts.passable sorts.sorts some accepted,
        disables.unique HostConfig.disables_versionsOf]
  | quiet suites => exact absurd rfl suites

/-! ## Identity -/

theorem carriesOut_certificate : CarriesOut engine machine connector .certificate
    (liftM (Outcome.ofOption (Failure.startup .noCertificate) connector.host.certificate) :
      Traced HostCertificate) := by
  refine .lift (by decide) (by decide) fun {stop} => ?_
  constructor
  · intro stopped
    cases set : connector.host.certificate with
    | none =>
        rw [set] at stopped
        cases stopped
        exact .noCertificate set
    | some certificate =>
        rw [set] at stopped
        cases stopped
  · intro stops
    cases stops with
    | noCertificate unset =>
        rw [unset]
        rfl

theorem carriesOut_entry {certificate : HostCertificate}
    (set : connector.host.certificate = some certificate) :
    CarriesOut engine machine connector .entry
      (liftM certificate.entry : Traced PrivateKeyEntry) := by
  refine .lift (by decide) (by decide) fun {stop} => ?_
  rw [HostCertificate.entry]
  constructor
  · intro stopped
    split at stopped
    · cases stopped
    · next unfound =>
        have absent := KeyStore.findPrivateKey?_eq_none.mp unfound
        split at stopped
        · next name wanted =>
            cases stopped
            refine .aliasAbsent set wanted fun entry member named => ?_
            exact absent entry member (wanted ▸ KeyStore.isAskedFor_some.mpr named)
        · next any =>
            cases stopped
            refine .noPrivateKey set any fun entry member => absent entry member ?_
            intro name wanted
            cases any.symm.trans wanted
  · intro stops
    cases stops with
    | aliasAbsent set' wanted absent =>
        cases set.symm.trans set'
        have unfound : certificate.keyStore.store.findPrivateKey? certificate.keyAlias = none :=
          KeyStore.findPrivateKey?_eq_none.mpr fun entry member asked =>
            absent entry member (asked _ wanted)
        rw [unfound, wanted]
        rfl
    | noPrivateKey set' any none =>
        cases set.symm.trans set'
        have unfound : certificate.keyStore.store.findPrivateKey? certificate.keyAlias = .none :=
          KeyStore.findPrivateKey?_eq_none.mpr fun entry member _ => none entry member
        rw [unfound, any]
        rfl

/-- The leaf of an entry, and the certificates above it. -/
def leafOf (entry : PrivateKeyEntry) : Outcome Failure (Certificate × List Certificate) :=
  match entry.chain with
  | [] => .fail (.startup .noLeaf)
  | leaf :: chain => .ok (leaf, chain)

theorem leafOf_eq_ok {entry : PrivateKeyEntry} {leaf : Certificate} {chain : List Certificate} :
    leafOf entry = .ok (leaf, chain) ↔ entry.chain = leaf :: chain := by
  rw [leafOf]
  cases entry.chain <;> simp [Outcome.fail]

/-- The identity of a key and its certificates, if the engine takes them. -/
def install (engine : Engine) (list : Option String) (key : PrivateKey) (leaf : Certificate)
    (chain : List Certificate) : Outcome Failure ServerIdentity :=
  if !(engine.acceptsKey key && engine.acceptsLeaf list leaf) then .fail .engine
  else if !engine.belongs key leaf then .fail (.startup .keyMismatch)
  else .ok ⟨key, leaf, chain⟩

theorem ofEntry_eq_install {list : Option String} {entry : PrivateKeyEntry} :
    ServerIdentity.ofEntry engine list entry =
      leafOf entry >>= fun certificates =>
        install engine list entry.key certificates.1 certificates.2 := by
  rw [ServerIdentity.ofEntry, leafOf]
  cases entry.chain <;> rfl

theorem carriesOut_leaf {entry : PrivateKeyEntry} (selected : connector.host.Selects entry) :
    CarriesOut engine machine connector .leaf
      (liftM (leafOf entry) : Traced (Certificate × List Certificate)) := by
  refine .lift (by decide) (by decide) fun {stop} => ?_
  rw [leafOf]
  constructor
  · intro stopped
    split at stopped
    · next bare =>
        cases stopped
        exact .noLeaf selected bare
    · cases stopped
  · intro stops
    cases stops with
    | noLeaf selected' bare =>
        cases selected.unique selected'
        rw [bare]
        rfl

theorem carriesOut_identity {entry : PrivateKeyEntry} {leaf : Certificate}
    {chain : List Certificate} {list : Option String} (selected : connector.host.Selects entry)
    (first : entry.chain = leaf :: chain) (set : connector.host.SetsClassic engine list) :
    CarriesOut engine machine connector .identity
      (liftM (install engine list entry.key leaf chain) : Traced ServerIdentity) := by
  refine .lift (by decide) (by decide) fun {stop} => ?_
  rw [install]
  constructor
  · intro stopped
    by_cases key : engine.acceptsKey entry.key = true
    · by_cases accepted : engine.acceptsLeaf list leaf = true
      · by_cases belongs : engine.belongs entry.key leaf = true
        · simp [key, accepted, belongs] at stopped
        · rw [Bool.not_eq_true] at belongs
          simp only [key, accepted, belongs] at stopped
          cases stopped
          exact .keyMismatch selected first set key accepted belongs
      · rw [Bool.not_eq_true] at accepted
        simp only [key, accepted] at stopped
        cases stopped
        exact .leafRefused selected first set accepted
    · rw [Bool.not_eq_true] at key
      simp only [key] at stopped
      cases stopped
      exact .keyRefused selected key
  · intro stops
    cases stops with
    | keyRefused selected' refused =>
        cases selected.unique selected'
        simp [refused, Outcome.fail]
    | leafRefused selected' first' set' refused =>
        cases selected.unique selected'
        cases first.symm.trans first'
        cases set.unique set'
        simp [refused, Outcome.fail]
    | keyMismatch selected' first' set' key accepted foreign =>
        cases selected.unique selected'
        cases first.symm.trans first'
        cases set.unique set'
        simp [key, accepted, foreign, Outcome.fail]

/-! ## Anchors and address -/

theorem warns_checkTrustPassword {store : StoreHandle}
    (own : connector.host.trustStore = some store) :
    Warns engine machine connector .anchors
      (connector.host.checkTrustPassword engine store.store).events := by
  have quiet (agrees : ∀ password, connector.host.trustPassword = some password →
      (store.store.verifyPassword engine password : Outcome Failure Bool) ≠ .ok false) :
      Warns engine machine connector .anchors [] := by
    refine .trusted ?_ fun unset => ?_
    · rintro store' password ⟨own', set, refused⟩
      cases own.symm.trans own'
      exact agrees password set refused
    · cases own.symm.trans unset
  rw [HostConfig.checkTrustPassword]
  cases set : connector.host.trustPassword with
  | none =>
      refine quiet fun password set' => ?_
      cases set.symm.trans set'
  | some password =>
      dsimp only
      cases verified : (store.store.verifyPassword engine password : Outcome Failure Bool) with
      | error stop =>
          refine quiet fun password' set' refused => ?_
          cases set.symm.trans set'
          cases verified.symm.trans refused
      | ok agrees =>
          cases agrees with
          | true =>
              refine quiet fun password' set' refused => ?_
              cases set.symm.trans set'
              cases verified.symm.trans refused
          | false => exact .passwordRefused ⟨own, set, verified⟩

theorem warns_platformTrust (unset : connector.host.trustStore = none) :
    Warns engine machine connector .anchors
      (connector.host.platformTrust machine connector.loader).events := by
  have quiet (available : connector.host.hasPlatformTrust = true → ∀ failure,
      connector.loader.load machine .trust connector.host.trustFile
        connector.host.trustPassword connector.host.trustType none ≠ .fail failure) :
      Warns engine machine connector .anchors [] := by
    refine .trusted ?_ fun _ => available
    rintro store password ⟨own, -, -⟩
    cases unset.symm.trans own
  rw [HostConfig.platformTrust]
  split
  · next unnamed =>
      refine quiet fun named => ?_
      rw [named] at unnamed
      cases unnamed
  · next named =>
      have named : connector.host.hasPlatformTrust = true := by simpa using named
      split
      · next loaded =>
          refine quiet fun _ failure failed => ?_
          cases loaded.symm.trans failed
      · next failed => exact .platformUnavailable unset named failed
      · next cut =>
          refine quiet fun _ failure failed => ?_
          cases cut.symm.trans failed

theorem warns_anchors : Warns engine machine connector .anchors
    (connector.host.anchors engine machine connector.loader).events := by
  have logged : (connector.host.anchors engine machine connector.loader).events =
      (connector.host.trustMaterial engine machine connector.loader).events := by
    refine Traced.events_bind_of_quiet fun store => ?_
    split <;> rfl
  rw [logged, HostConfig.trustMaterial]
  cases own : connector.host.trustStore with
  | some store =>
      dsimp only
      rw [Traced.events_bind_of_quiet fun _ => rfl]
      exact warns_checkTrustPassword own
  | none => exact warns_platformTrust own

theorem carriesOut_anchors : CarriesOut engine machine connector .anchors
    (connector.host.anchors engine machine connector.loader) where
  warns := warns_anchors
  stops_iff {stop} := by
    constructor
    · intro stopped
      cases stop with
      | cutShort => exact .trustCutShort (HostConfig.anchors_eq_cutShort.mp stopped)
      | failure failure =>
          have settled : ¬connector.host.TrustCutShort engine machine connector.loader := by
            intro cut
            cases (HostConfig.anchors_eq_cutShort.mpr cut).symm.trans stopped
          rcases Traced.outcome_bind_eq_failure.mp stopped with failed | ⟨store, material, refused⟩
          · exact absurd failed HostConfig.trustMaterial_ne_failure
          · split at refused
            · cases refused
            · next some =>
                cases refused
                obtain ⟨anchor, member, refused⟩ : ∃ anchor ∈ HostConfig.anchorsOf store,
                    engine.acceptsAnchor anchor = false := by simpa using some
                exact .anchorRefused settled (HostConfig.anchored_of_trustMaterial material)
                  member refused
    · intro stops
      cases stops with
      | trustCutShort cut => exact HostConfig.anchors_eq_cutShort.mpr cut
      | @anchorRefused anchors anchor settled anchored member refused =>
          rw [HostConfig.anchors]
          cases material :
              (connector.host.trustMaterial engine machine connector.loader).outcome with
          | error stop =>
              cases stop with
              | failure failure => exact absurd material HostConfig.trustMaterial_ne_failure
              | cutShort =>
                  exact absurd (HostConfig.trustMaterial_eq_cutShort.mp material) settled
          | ok store =>
              refine Traced.outcome_bind_eq_failure.mpr (.inr ⟨store, material, ?_⟩)
              have same : anchors = HostConfig.anchorsOf store :=
                anchored.unique (HostConfig.anchored_of_trustMaterial material)
              have some : ¬(HostConfig.anchorsOf store).all engine.acceptsAnchor = true := by
                rw [← same, List.all_eq_true]
                intro accepted
                cases (accepted anchor member).symm.trans refused
              rw [if_neg some]
              rfl

theorem carriesOut_address : CarriesOut engine machine connector .address
    (liftM (connector.bindAddress machine) : Traced Address) := by
  refine .lift (by decide) (by decide) fun {stop} => ?_
  rw [bindAddress]
  constructor
  · intro stopped
    split at stopped
    · cases stopped
    · next refused =>
        cases stopped
        exact .cannotBind refused
  · intro stops
    cases stops with
    | cannotBind refused =>
        rw [refused]
        rfl

/-! ## The stages -/

/-- A stage warns of one thing only. -/
theorem Warns.unique {stage : StartStage} {events events' : List Event}
    (h : Warns engine machine connector stage events)
    (h' : Warns engine machine connector stage events') : events = events' := by
  by_cases suites : stage = .suites
  · subst suites
    rw [← events_chooseSuites h, events_chooseSuites h']
  cases h with
  | passwordRefused refuses =>
      cases h' with
      | passwordRefused => rfl
      | platformUnavailable unset => cases unset.symm.trans refuses.own
      | trusted agrees => exact absurd refuses (agrees _ _)
      | quiet _ anchors => exact absurd rfl anchors
  | platformUnavailable unset named failed =>
      cases h' with
      | passwordRefused refuses => cases unset.symm.trans refuses.own
      | platformUnavailable _ _ failed' =>
          cases failed.symm.trans failed'
          rfl
      | trusted _ available => exact absurd failed (available unset named _)
      | quiet _ anchors => exact absurd rfl anchors
  | trusted agrees available =>
      cases h' with
      | passwordRefused refuses => exact absurd refuses (agrees _ _)
      | platformUnavailable unset named failed => exact absurd failed (available unset named _)
      | trusted => rfl
      | quiet _ anchors => exact absurd rfl anchors
  | quiet _ anchors =>
      cases h' with
      | quiet => rfl
      | _ => contradiction
  | _ => contradiction

theorem CarriesOut.unique {α : Type} {stage : StartStage} {step : Traced α}
    {stop stop' : Stop Failure} (carries : CarriesOut engine machine connector stage step)
    (h : Stops engine machine connector stage stop)
    (h' : Stops engine machine connector stage stop') : stop = stop' :=
  Except.error.inj ((carries.stops_iff.mpr h).symm.trans (carries.stops_iff.mpr h'))

/-- A stage is stopped in one way only. -/
theorem Stops.unique {stage : StartStage} {stop stop' : Stop Failure}
    (h : Stops engine machine connector stage stop)
    (h' : Stops engine machine connector stage stop') : stop = stop' := by
  cases stage with
  | versions => exact carriesOut_versions.unique h h'
  | suites => exact carriesOut_suites.unique h h'
  | certificate => exact carriesOut_certificate.unique h h'
  | entry =>
      cases id h with
      | aliasAbsent set => exact (carriesOut_entry set).unique h h'
      | noPrivateKey set => exact (carriesOut_entry set).unique h h'
  | leaf =>
      cases id h with
      | noLeaf selected => exact (carriesOut_leaf selected).unique h h'
  | identity =>
      cases id h with
      | keyRefused selected refused =>
          cases h' with
          | keyRefused => rfl
          | leafRefused => rfl
          | keyMismatch selected' _ _ key =>
              cases selected.unique selected'
              cases refused.symm.trans key
      | leafRefused selected first set =>
          exact (carriesOut_identity selected first set).unique h h'
      | keyMismatch selected first set =>
          exact (carriesOut_identity selected first set).unique h h'
  | anchors => exact carriesOut_anchors.unique h h'
  | address => exact carriesOut_address.unique h h'

end TlsListener.Connector
