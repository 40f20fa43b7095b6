import TlsListener.Context.Basic
import TlsListener.Proofs.Context.Anchors
import TlsListener.Proofs.Context.Suites
import TlsListener.Proofs.Context.Versions

/-!
# The stages of making a context

A context is made in stages: the versions are told from their names, suites are chosen and versions
restricted to them, the identity is taken from the key store, and the anchors are taken from the
trust store. `MadeOf` keeps what each stage contributes, so that a fact about a context can be taken
from the stage that it rests on.

Trust is the last stage, and none of the others has anything to do with it. They come to a context
that lacks nothing but its anchors, or to what is wrong with the host, and all that they log are
the restrictions of the host.

Two stages hand texts to the engine, the names of the suites and the password of the trust store.
Only there can the making of a context be cut short.
-/

namespace TlsListener

theorem chooseSuites_eq_cutShort {engine : Engine} {suites : Option String}
    {versions : List Version} :
    (chooseSuites engine suites versions).outcome = .error .cutShort ↔
      ∃ text, suites = some text ∧ ∃ name ∈ suiteNames text, isPassable name = false := by
  cases suites with
  | none => simp [chooseSuites]
  | some text =>
      rw [chooseSuites]
      constructor
      · intro cut
        refine ⟨text, rfl, Decidable.byContradiction fun h => ?_⟩
        exact (restriction_restrictToSuites versions (by simpa using h)).ne_cutShort cut
      · rintro ⟨_, ⟨⟩, name, member, nul⟩
        refine restrictToSuites_eq_cutShort fun passable => ?_
        rw [passable name member] at nul
        cases nul

namespace ServerIdentity

/-- An identity is found, or there is a reason why not. -/
theorem ofHost_ne_cutShort {engine : Engine} {list : Option String} {host : HostConfig} :
    ofHost engine list host ≠ .error .cutShort := by
  intro cut
  rcases Outcome.bind_eq_cutShort.mp cut with cut | ⟨certificate, -, cut⟩
  · exact Outcome.ofOption_ne_cutShort cut
  · rcases Outcome.bind_eq_cutShort.mp cut with cut | ⟨entry, -, cut⟩
    · rw [HostCertificate.entry] at cut
      split at cut
      · cases cut
      · split at cut <;> cases cut
    · rw [ofEntry] at cut
      split at cut
      · cases cut
      · split at cut
        · cases cut
        · split at cut <;> cases cut

end ServerIdentity

namespace ServerContext

variable {engine : Engine} {machine : Machine} {loader : Loader} {host : HostConfig}

/-- The stages in which the settings of a host make a context, from the versions that are enabled
and those that remain of them. -/
structure MadeOf (engine : Engine) (machine : Machine) (loader : Loader) (host : HostConfig)
    (enabled versions : List Version) (context : ServerContext) : Prop where
  parsed : enabledVersions host.enabledProtocols = .ok enabled
  chosen : (chooseSuites engine host.ciphers enabled).outcome = .ok (context.suites, versions)
  ranged : VersionRange.ofVersions versions = .ok context.range
  identified : ServerIdentity.ofHost engine context.suites.classic host = .ok context.identity
  anchored : (host.anchors engine machine loader).outcome = .ok context.anchors
  verified : context.verification = host.verification

/-- The settings of a host make a context exactly if every stage succeeds. -/
theorem ofHost_eq_ok {context : ServerContext} :
    (ofHost engine machine loader host).outcome = .ok context ↔
      ∃ enabled versions, MadeOf engine machine loader host enabled versions context := by
  constructor
  · intro h
    obtain ⟨enabled, parsed, h⟩ := Traced.outcome_bind_eq_ok.mp h
    obtain ⟨⟨suites, versions⟩, chosen, h⟩ := Traced.outcome_bind_eq_ok.mp h
    obtain ⟨range, ranged, h⟩ := Traced.outcome_bind_eq_ok.mp h
    obtain ⟨identity, identified, h⟩ := Traced.outcome_bind_eq_ok.mp h
    obtain ⟨anchors, anchored, h⟩ := Traced.outcome_bind_eq_ok.mp h
    cases h
    exact ⟨enabled, versions, parsed, chosen, ranged, identified, anchored, rfl⟩
  · rintro ⟨enabled, versions, parsed, chosen, ranged, identified, anchored, verified⟩
    refine Traced.outcome_bind_eq_ok.mpr ⟨enabled, parsed, ?_⟩
    refine Traced.outcome_bind_eq_ok.mpr ⟨(context.suites, versions), chosen, ?_⟩
    refine Traced.outcome_bind_eq_ok.mpr ⟨context.range, ranged, ?_⟩
    refine Traced.outcome_bind_eq_ok.mpr ⟨context.identity, identified, ?_⟩
    refine Traced.outcome_bind_eq_ok.mpr ⟨context.anchors, anchored, ?_⟩
    rw [← verified]
    rfl

/-- The context of a host before it has its anchors. -/
def unanchored (engine : Engine) (host : HostConfig) : Traced ServerContext := do
  let enabled ← enabledVersions host.enabledProtocols
  let (suites, versions) ← chooseSuites engine host.ciphers enabled
  let range ← VersionRange.ofVersions versions
  let identity ← ServerIdentity.ofHost engine suites.classic host
  return { range, suites, identity, anchors := [], verification := host.verification }

/-- A context is made by giving its anchors to the context that has none yet. -/
theorem ofHost_eq_unanchored :
    ofHost engine machine loader host = do
      let context ← unanchored engine host
      let anchors ← host.anchors engine machine loader
      return { context with anchors } := by
  simp only [ofHost, unanchored, bind_assoc, pure_bind]

/-- Before the anchors are made nothing is logged but restrictions. -/
theorem isRestriction_of_mem_unanchored {event : Event}
    (logged : event ∈ (unanchored engine host).events) : event.IsRestriction := by
  rcases Traced.mem_events_bind.mp logged with logged | ⟨enabled, -, logged⟩
  · cases logged
  rcases Traced.mem_events_bind.mp logged with logged | ⟨⟨lists, versions⟩, -, logged⟩
  · exact isRestriction_of_mem_chooseSuites logged
  rcases Traced.mem_events_bind.mp logged with logged | ⟨range, -, logged⟩
  · cases logged
  rcases Traced.mem_events_bind.mp logged with logged | ⟨identity, -, logged⟩
  · cases logged
  · cases logged

/-- The making of a context is cut short: by the name of a suite, or once all else has succeeded by
the trust store. -/
inductive Interrupted (engine : Engine) (machine : Machine) (loader : Loader) (host : HostConfig) :
    Prop where
  | suite {enabled : List Version} {suites name : String}
      (parsed : enabledVersions host.enabledProtocols = .ok enabled)
      (set : host.ciphers = some suites) (member : name ∈ suiteNames suites)
      (nul : isPassable name = false)
  | trust {enabled versions : List Version} {lists : SuiteLists} {range : VersionRange}
      {identity : ServerIdentity}
      (parsed : enabledVersions host.enabledProtocols = .ok enabled)
      (chosen : (chooseSuites engine host.ciphers enabled).outcome = .ok (lists, versions))
      (ranged : VersionRange.ofVersions versions = .ok range)
      (identified : ServerIdentity.ofHost engine lists.classic host = .ok identity)
      (cut : host.TrustCutShort engine machine loader)

theorem ofHost_eq_cutShort :
    (ofHost engine machine loader host).outcome = .error .cutShort ↔
      Interrupted engine machine loader host := by
  constructor
  · intro h
    rcases Traced.outcome_bind_eq_cutShort.mp h with cut | ⟨enabled, parsed, h⟩
    · exact absurd cut enabledVersions_ne_cutShort
    rcases Traced.outcome_bind_eq_cutShort.mp h with cut | ⟨⟨lists, versions⟩, chosen, h⟩
    · obtain ⟨suites, set, name, member, nul⟩ := chooseSuites_eq_cutShort.mp cut
      exact .suite parsed set member nul
    rcases Traced.outcome_bind_eq_cutShort.mp h with cut | ⟨range, ranged, h⟩
    · exact absurd cut Outcome.ofOption_ne_cutShort
    rcases Traced.outcome_bind_eq_cutShort.mp h with cut | ⟨identity, identified, h⟩
    · exact absurd cut ServerIdentity.ofHost_ne_cutShort
    rcases Traced.outcome_bind_eq_cutShort.mp h with cut | ⟨anchors, -, h⟩
    · exact .trust parsed chosen ranged identified (HostConfig.anchors_eq_cutShort.mp cut)
    · cases h
  · rintro (⟨parsed, set, member, nul⟩ | ⟨parsed, chosen, ranged, identified, cut⟩)
    · refine Traced.outcome_bind_eq_cutShort.mpr (.inr ⟨_, parsed, ?_⟩)
      refine Traced.outcome_bind_eq_cutShort.mpr (.inl ?_)
      exact chooseSuites_eq_cutShort.mpr ⟨_, set, _, member, nul⟩
    · refine Traced.outcome_bind_eq_cutShort.mpr (.inr ⟨_, parsed, ?_⟩)
      refine Traced.outcome_bind_eq_cutShort.mpr (.inr ⟨_, chosen, ?_⟩)
      refine Traced.outcome_bind_eq_cutShort.mpr (.inr ⟨_, ranged, ?_⟩)
      refine Traced.outcome_bind_eq_cutShort.mpr (.inr ⟨_, identified, ?_⟩)
      exact Traced.outcome_bind_eq_cutShort.mpr (.inl (HostConfig.anchors_eq_cutShort.mpr cut))

/-- Suites and a trust password without NUL characters let a context be made or refused, as long as
only NUL characters cut the loading of a store short. -/
theorem not_interrupted (loads : loader.StopsOnlyAtNul)
    (suites : ∀ suites, host.ciphers = some suites →
      ∀ name ∈ suiteNames suites, isPassable name = true)
    (password : isPassable (KeyStore.passwordText host.trustPassword) = true) :
    ¬Interrupted engine machine loader host := by
  rintro (⟨-, set, member, nul⟩ | ⟨-, -, -, -, cut⟩)
  · cases (suites _ set _ member).symm.trans nul
  · exact HostConfig.not_trustCutShort loads password cut

end ServerContext

end TlsListener
