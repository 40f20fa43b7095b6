import TlsListener.Proofs.Connector.Start

/-!
# What a started connector negotiates

The operator names versions and perhaps suites. A version is asked for if one of the names denotes
it and, where suites are set, one of these is a suite of the version. A connector that has been
started negotiates the versions that are asked for, of which there are some, and no others; whether
a version lies between two others that are asked for makes no difference.
-/

namespace TlsListener

/-- A name is that of a suite for a version. The list of the older versions comes first: what it
accepts is no suite of TLS 1.3. -/
def Engine.Serves (engine : Engine) (version : Version) (name : String) : Prop :=
  if version = .tls13 then
    engine.acceptsList (engine.suiteName name) = false ∧ engine.acceptsSuites name = true
  else engine.acceptsList (engine.suiteName name) = true

theorem SortedSuites.suitesFor_ofNames_ne_nil {engine : Engine} {names : List String}
    {version : Version} :
    (ofNames engine names).suitesFor version ≠ [] ↔
      ∃ name ∈ names, engine.Serves version name := by
  induction names with
  | nil => cases version <;> simp [ofNames, suitesFor]
  | cons name names ih =>
      have first : (ofNames engine (name :: names)).suitesFor version ≠ [] ↔
          engine.Serves version name ∨ (ofNames engine names).suitesFor version ≠ [] := by
        cases listed : engine.acceptsList (engine.suiteName name) with
        | true =>
            rw [ofNames_cons_of_listed listed]
            cases version <;> simp [suitesFor, Engine.Serves, listed]
        | false =>
            cases accepted : engine.acceptsSuites name with
            | true =>
                rw [ofNames_cons_of_accepted listed accepted]
                cases version <;> simp [suitesFor, Engine.Serves, listed, accepted]
            | false =>
                rw [ofNames_cons_of_refused listed accepted]
                cases version <;> simp [suitesFor, Engine.Serves, listed, accepted]
      rw [first, ih]
      simp

/-- Of some versions those remain that have a suite, where suites are set. -/
theorem mem_of_chooseSuites {engine : Engine} {suites : Option String}
    {versions left : List Version} {lists : SuiteLists}
    (h : (chooseSuites engine suites versions).outcome = .ok (lists, left)) :
    left.Sublist versions ∧ ∀ version, version ∈ left ↔
      version ∈ versions ∧
        ∀ text, suites = some text → ∃ name ∈ suiteNames text, engine.Serves version name := by
  cases suites with
  | none =>
      cases h
      exact ⟨.refl _, by simp⟩
  | some text =>
      have passable : ∀ name ∈ suiteNames text, isPassable name := by
        refine Decidable.byContradiction fun nul => ?_
        cases (restrictToSuites_eq_cutShort nul).symm.trans h
      obtain ⟨-, ordered, member⟩ := (restriction_restrictToSuites versions passable).kept h
      refine ⟨ordered, fun version => ?_⟩
      rw [member, SortedSuites.suitesFor_ofNames_ne_nil]
      simp

/-- A version is asked for: some name denotes it, and where suites are set, it has one of them. -/
structure HostConfig.AsksFor (engine : Engine) (host : HostConfig) (version : Version) : Prop where
  named : ∃ name ∈ host.enabledProtocols, Version.parse? name = some version
  served : ∀ suites, host.ciphers = some suites →
    ∃ name ∈ suiteNames suites, engine.Serves version name

namespace ServerContext.MadeOf

variable {engine : Engine} {machine : Machine} {loader : Loader} {host : HostConfig}
variable {enabled versions : List Version} {context : ServerContext}

theorem enabled_eq (made : MadeOf engine machine loader host enabled versions context) :
    enabled = versionsOf host.enabledProtocols :=
  (enabledVersions_eq_ok.mp made.parsed).2.2

/-- The versions that a context is made with are those that are asked for. -/
theorem mem_versions_iff (made : MadeOf engine machine loader host enabled versions context)
    {version : Version} : version ∈ versions ↔ host.AsksFor engine version := by
  rw [(mem_of_chooseSuites made.chosen).2, made.enabled_eq, mem_versionsOf]
  exact ⟨fun ⟨named, served⟩ => ⟨named, served⟩, fun ⟨named, served⟩ => ⟨named, served⟩⟩

/-- The range of a context holds the versions that it is made with. -/
theorem range_versions (made : MadeOf engine machine loader host enabled versions context) :
    context.range.versions = versions := by
  have ordered : versions.Sublist Version.all := by
    refine (mem_of_chooseSuites made.chosen).1.trans ?_
    rw [made.enabled_eq]
    exact List.filter_sublist
  exact VersionRange.versions_of_ofVersions ordered made.ranged

/-- A context is never made without any version. -/
theorem versions_ne_nil (made : MadeOf engine machine loader host enabled versions context) :
    versions ≠ [] := by
  rintro rfl
  cases made.ranged

end ServerContext.MadeOf

namespace Connector

/-- A started connector negotiates the versions that its host asks for and no others, and there are
some. An engine begins with none of the versions disabled. -/
theorem negotiates_iff_asksFor {engine : Engine} {machine : Machine} {connector : Connector}
    {initial : Nat} (started : (connector.start engine machine).2.outcome = .ok ())
    (clear : ∀ version : Version, initial &&& version.disableOption = 0) :
    ∃ context, (connector.start engine machine).1.context = some context ∧
      (∀ name ∈ connector.host.enabledProtocols, (Version.parse? name).isSome) ∧
      (∀ version, context.range.Negotiates initial version ↔
        connector.host.AsksFor engine version) ∧
      ∃ version, context.range.Negotiates initial version := by
  obtain ⟨context, address, made, start⟩ := exists_context_of_start started
  obtain ⟨enabled, versions, made⟩ := ServerContext.ofHost_eq_ok.mp made
  have negotiates (version : Version) :
      context.range.Negotiates initial version ↔ version ∈ versions := by
    rw [VersionRange.negotiates_iff (clear version), made.range_versions]
  refine ⟨context, by rw [start], (enabledVersions_eq_ok.mp made.parsed).1, ?_, ?_⟩
  · intro version
    rw [negotiates, made.mem_versions_iff]
  · obtain ⟨version, member⟩ := List.exists_mem_of_ne_nil _ made.versions_ne_nil
    exact ⟨version, (negotiates version).mpr member⟩

/-- TLS 1.0, 1.2 and 1.3 are named, and only a suite of the older versions is set. -/
theorem negotiates_iff_asksFor_sample :
    ((Sample.connector ["TLSv1.0", "TLSv1.2", "TLSv1.3"] "A").start
      Sample.engine Sample.machine).2.outcome = .ok () ∧
    (∀ version : Version, 0 &&& version.disableOption = 0) ∧
    ∃ context, ((Sample.connector ["TLSv1.0", "TLSv1.2", "TLSv1.3"] "A").start
        Sample.engine Sample.machine).1.context = some context ∧
      ∀ version, context.range.Negotiates 0 version ↔
        (Sample.connector ["TLSv1.0", "TLSv1.2", "TLSv1.3"] "A").host.AsksFor
          Sample.engine version := by
  have started : ((Sample.connector ["TLSv1.0", "TLSv1.2", "TLSv1.3"] "A").start
      Sample.engine Sample.machine).2.outcome = .ok () := by decide +kernel
  have clear (version : Version) : 0 &&& version.disableOption = 0 := Nat.zero_and _
  obtain ⟨context, built, -, negotiates, -⟩ := negotiates_iff_asksFor started clear
  exact ⟨started, clear, context, built, negotiates⟩

end Connector

end TlsListener
