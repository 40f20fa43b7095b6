import TlsListener.Connector.Customize
import TlsListener.Proofs.Connector.Start
import TlsListener.Proofs.Context.SuiteNames
import TlsListener.Proofs.Host.Binding

/-!
# Suites from their declaration to a start

Suites are declared as a list and joined when stores are bound to a connector; a start tells them
apart again. So what a start makes of them depends on the names in the elements of the list, one
element after the other, and on nothing else of how they are declared. Only a failure over all of
the suites quotes the text into which they were joined.

A list without any element leaves the suites to the engine. A list whose elements are all blank does
not, although there is no name in it either: no start succeeds with it.
-/

namespace TlsListener

/-- A customizer that declares other suites. -/
def Customizer.withSuites (customizer : Customizer) (names : List String) : Customizer :=
  { customizer with settings := { customizer.settings with ciphers := names } }

namespace HostConfig

variable {engine : Engine} {machine : Machine} {loader : Loader} {host : HostConfig}
variable {settings : Settings} {stores : ResolvedStores} {names : List String}
variable {text text' : String}

/-- Suites that are declared are written, and nothing else depends on them. -/
theorem bind_withSuites (some : names ≠ []) :
    host.bind { settings with ciphers := names } stores =
      (host.bind settings stores).setCiphers (String.intercalate ":" names) := by
  have declared : names.isEmpty = false := by simpa using some
  simp only [bind, bindCiphers, bindProtocols, bindTrust, declared]
  cases settings.ciphers.isEmpty <;> cases settings.enabledProtocols.isEmpty <;>
    cases stores.trustStore <;> rfl

/-- Texts with the same names make the same context, or are both refused. -/
theorem differsInText_ofHost (same : suiteNames text = suiteNames text') :
    DiffersInText text text'
      (ServerContext.ofHost engine machine loader (host.setCiphers text))
      (ServerContext.ofHost engine machine loader (host.setCiphers text')) := by
  have protocols (text : String) : (host.setCiphers text).enabledProtocols =
      host.enabledProtocols := rfl
  rw [ServerContext.ofHost, ServerContext.ofHost, protocols, protocols]
  cases enabledVersions host.enabledProtocols with
  | error stop => exact .same _
  | ok enabled =>
      rw [Traced.liftM_ok, Traced.bind_ok, Traced.bind_ok]
      refine DiffersInText.after ?_ []
      exact (differsInText_restrictToSuites same enabled).bind _

end HostConfig

/-- The answers of two starts are the same, or both fail over all of the suites after the same log,
each quoting its own text of them. -/
inductive AnswersInText (address : Address) (text text' : String) :
    Traced Unit → Traced Unit → Prop where
  | same (answer : Traced Unit) : AnswersInText address text text' answer answer
  | refused {cause : String → StartupCause}
      (quotes : cause = .noSuite ∨ cause = .noVersionForSuites) (events : List Event) :
      AnswersInText address text text'
        ⟨events ++ [.startFailed address (.startup (cause text))],
          .error (.failure (.startup (cause text)))⟩
        ⟨events ++ [.startFailed address (.startup (cause text'))],
          .error (.failure (.startup (cause text')))⟩

namespace Connector

variable {engine : Engine} {machine : Machine} {connector : Connector} {customizer : Customizer}
variable {stores : ResolvedStores} {names : List String} {text text' : String}

/-- A connector with a text of suites. -/
def setSuites (connector : Connector) (text : String) : Connector :=
  connector.modifyHost fun host => host.setCiphers text

theorem bindStores_withSuites (some : names ≠ []) :
    connector.bindStores (customizer.withSuites names) stores =
      (connector.bindStores customizer stores).setSuites (String.intercalate ":" names) := by
  simp only [bindStores, Customizer.withSuites, setSuites, modifyHost,
    HostConfig.bind_withSuites some]

/-- Texts with the same names are prepared alike. -/
theorem differsInText_prepare (same : suiteNames text = suiteNames text') :
    DiffersInText text text' ((connector.setSuites text).prepare engine machine)
      ((connector.setSuites text').prepare engine machine) :=
  (HostConfig.differsInText_ofHost same).bind _

theorem leadAlike_settle_of_text {first second : Traced (ServerContext × Address)}
    (h : DiffersInText text text' first second) :
    LeadAlike (AnswersInText connector.address text text')
      ((connector.setSuites text).settle first) ((connector.setSuites text').settle second) := by
  cases h with
  | same =>
      obtain ⟨events, (failure | _) | ⟨context, address⟩⟩ := first
      · exact ⟨.same _, rfl, rfl, rfl⟩
      · exact ⟨.same _, rfl, rfl, rfl⟩
      · exact ⟨.same _, rfl, rfl, rfl⟩
  | refused quotes events => exact ⟨.refused quotes events, rfl, rfl, rfl⟩

/-- Texts with the same names are started with alike. -/
theorem leadAlike_start_of_text (same : suiteNames text = suiteNames text') :
    LeadAlike (AnswersInText connector.address text text')
      ((connector.setSuites text).start engine machine)
      ((connector.setSuites text').start engine machine) := by
  cases state : connector.isConfigurable with
  | false =>
      have refused (text : String) : (connector.setSuites text).start engine machine =
          (connector.setSuites text, .fail (.startup (.notStartable connector.state))) :=
        start_of_not_configurable state
      rw [refused, refused]
      exact ⟨.same _, rfl, rfl, rfl⟩
  | true =>
      have settled (text : String) : (connector.setSuites text).start engine machine =
          (connector.setSuites text).settle ((connector.setSuites text).prepare engine machine) :=
        if_pos state
      rw [settled, settled]
      exact leadAlike_settle_of_text (differsInText_prepare same)

/-- Without a name in the suites a start fails once the versions are known. -/
theorem start_of_no_name (state : connector.isConfigurable = true)
    (empty : suiteNames text = []) {enabled : List Version}
    (parsed : enabledVersions connector.host.enabledProtocols = .ok enabled) :
    (connector.setSuites text).start engine machine =
      ((connector.setSuites text).markFailed,
        ⟨[.startFailed connector.address (.startup (.noSuite text))],
          .error (.failure (.startup (.noSuite text)))⟩) := by
  have refused : restrictToSuites engine text enabled =
      ⟨[], .error (.failure (.startup (.noSuite text)))⟩ := by
    simp only [restrictToSuites, sortSuites, empty]
    rfl
  have prepared : (connector.setSuites text).prepare engine machine =
      ⟨[], .error (.failure (.startup (.noSuite text)))⟩ := by
    have parsed' : enabledVersions (connector.setSuites text).host.enabledProtocols =
        .ok enabled := parsed
    have chosen : chooseSuites engine (connector.setSuites text).host.ciphers enabled =
        ⟨[], .error (.failure (.startup (.noSuite text)))⟩ := refused
    rw [prepare, ServerContext.ofHost, parsed', Traced.liftM_ok, Traced.bind_ok, chosen]
    rfl
  have state' : (connector.setSuites text).isConfigurable = true := state
  rw [start, if_pos state', prepared]
  rfl

example : ((Sample.connector ["TLSv1.2"] " : ").start Sample.engine Sample.machine).2.outcome =
    .error (.failure (.startup (.noSuite " : "))) := by
  decide +kernel

/-- Without a name in the suites no start succeeds, whatever else there is. -/
theorem start_ne_ok_of_no_name (empty : suiteNames text = []) :
    ((connector.setSuites text).start engine machine).2.outcome ≠ .ok () := by
  intro succeeded
  obtain ⟨context, -, made, -⟩ := exists_context_of_start succeeded
  obtain ⟨enabled, versions, made⟩ := ServerContext.ofHost_eq_ok.mp made
  have chosen : (restrictToSuites engine text enabled).outcome = .ok (context.suites, versions) :=
    made.chosen
  have passable : ∀ name ∈ suiteNames text, isPassable name := by simp [empty]
  obtain ⟨served, -, kept⟩ := (restriction_restrictToSuites enabled passable).kept chosen
  obtain ⟨version, member⟩ := List.exists_mem_of_ne_nil _ served
  refine ((kept version).mp member).2 ?_
  rw [empty]
  cases version <;> rfl

end Connector

/-- What becomes of the suites that a customizer declares. -/
structure SuitesRejoined (engine : Engine) (machine : Machine) (connector : Connector)
    (customizer : Customizer) (stores : ResolvedStores) (names : List String) : Prop where
  /-- The suites are written as one text, and the names in it are those in each of the elements, in
  order. -/
  joined : names ≠ [] →
    (connector.bindStores (customizer.withSuites names) stores).host.ciphers =
        some (String.intercalate ":" names) ∧
      suiteNames (String.intercalate ":" names) = names.flatMap suiteNames
  /-- These are the names that are sorted, and the suites are chosen accordingly. -/
  processed : names ≠ [] → (∀ name ∈ names, isPassable name = true) →
    ∃ sorted, SortsTo engine (names.flatMap suiteNames) sorted ∧ ∀ versions,
      Restriction (String.intercalate ":" names) versions engine sorted
        (chooseSuites engine
          (connector.bindStores (customizer.withSuites names) stores).host.ciphers versions)
  /-- Plain names are those that were declared. -/
  plain : (∀ name ∈ names, IsPlainName name) → names.flatMap suiteNames = names
  /-- Lists with the same names in their elements are sorted alike and started with alike. -/
  alike : names ≠ [] → ∀ {names'}, names' ≠ [] →
    names.flatMap suiteNames = names'.flatMap suiteNames →
    sortSuites engine (String.intercalate ":" names) =
        sortSuites engine (String.intercalate ":" names') ∧
      Connector.LeadAlike
        (AnswersInText connector.address (String.intercalate ":" names)
          (String.intercalate ":" names'))
        ((connector.bindStores (customizer.withSuites names) stores).start engine machine)
        ((connector.bindStores (customizer.withSuites names') stores).start engine machine)
  /-- With a list that is blank throughout a start fails over all of the suites, as soon as the
  names of the versions are parsed. -/
  blank : names ≠ [] →
    (∀ name ∈ names, ∀ part ∈ name.toList.splitOn ':', Text.trimChars part = []) →
    connector.isConfigurable = true → ∀ {enabled},
    enabledVersions (connector.bindStores (customizer.withSuites names)
      stores).host.enabledProtocols = .ok enabled →
    (connector.bindStores (customizer.withSuites names) stores).start engine machine =
      ((connector.bindStores (customizer.withSuites names) stores).markFailed,
        ⟨[.startFailed connector.address
            (.startup (.noSuite (String.intercalate ":" names)))],
          .error (.failure (.startup (.noSuite (String.intercalate ":" names))))⟩)
  /-- Where they are not, or where there are none, it has failed before that: with such a list no
  start succeeds. -/
  blank_ne_ok : names ≠ [] →
    (∀ name ∈ names, ∀ part ∈ name.toList.splitOn ':', Text.trimChars part = []) →
    ((connector.bindStores (customizer.withSuites names) stores).start engine
      machine).2.outcome ≠ .ok ()

/-- Joining suites and telling them apart again loses nothing but blanks, and blanks never stand for
the suites of the engine. -/
theorem suitesRejoined (engine : Engine) (machine : Machine) (connector : Connector)
    (customizer : Customizer) (stores : ResolvedStores) (names : List String) :
    SuitesRejoined engine machine connector customizer stores names where
  joined := by
    intro some
    rw [Connector.bindStores_withSuites some]
    exact ⟨rfl, suiteNames_intercalate some⟩
  processed := by
    intro some passable
    refine ⟨_, SortedSuites.sortsTo_ofNames engine (names.flatMap suiteNames), fun versions => ?_⟩
    rw [Connector.bindStores_withSuites some, ← suiteNames_intercalate some]
    refine restriction_restrictToSuites versions fun name member => ?_
    exact isPassable_of_mem_suiteNames (isPassable_intercalate.mpr passable) member
  plain := flatMap_suiteNames_of_plain
  alike := by
    intro some names' some' same
    rw [← suiteNames_intercalate some, ← suiteNames_intercalate some'] at same
    rw [Connector.bindStores_withSuites some, Connector.bindStores_withSuites some']
    have starts := @Connector.leadAlike_start_of_text engine machine
      (connector.bindStores customizer stores) _ _ same
    exact ⟨sortSuites_congr same, starts⟩
  blank := by
    intro some blank state enabled parsed
    rw [Connector.bindStores_withSuites some] at parsed ⊢
    exact Connector.start_of_no_name state (suiteNames_intercalate_eq_nil some blank) parsed
  blank_ne_ok := by
    intro some blank
    rw [Connector.bindStores_withSuites some]
    exact Connector.start_ne_ok_of_no_name (suiteNames_intercalate_eq_nil some blank)

end TlsListener
