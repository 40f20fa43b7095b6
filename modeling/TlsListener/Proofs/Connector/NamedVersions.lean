import TlsListener.Proofs.Connector.Start
import TlsListener.Proofs.Context.VersionNames

/-!
# A start and the names of its versions

The names of versions are read in the first stage of a start, and nowhere else. What the stage hands
on is the versions that they denote, so two hosts whose names denote the same versions start alike.
Where the stage refuses a name no other stage is come to, so nothing else has a say in the start.
-/

namespace TlsListener

namespace Connector

variable {engine : Engine} {machine : Machine} {connector other : Connector}

/-- Two connectors differ in nothing that a start looks at, or leaves, but in the names of versions
of their hosts. -/
structure DiffersInNames (connector other : Connector) : Prop where
  address : other.address = connector.address
  loader : other.loader = connector.loader
  listener : other.listener = connector.listener
  context : other.context = connector.context
  host : other.host =
    { connector.host with enabledProtocols := other.host.enabledProtocols }

/-- The same versions make the same context. -/
theorem prepare_eq_of_versions (differs : connector.DiffersInNames other)
    (versions : enabledVersions other.host.enabledProtocols =
      enabledVersions connector.host.enabledProtocols) :
    other.prepare engine machine = connector.prepare engine machine := by
  have made : ServerContext.ofHost engine machine other.loader other.host =
      ServerContext.ofHost engine machine connector.loader connector.host := by
    rw [differs.loader, ServerContext.ofHost, versions, differs.host]
    rfl
  rw [prepare, prepare, made, bindAddress, bindAddress, differs.address]

theorem leadAlike_settle (differs : connector.DiffersInNames other)
    (attempt : Traced (ServerContext × Address)) :
    LeadAlike Eq (connector.settle attempt) (other.settle attempt) := by
  obtain ⟨events, (failure | _) | ⟨context, address⟩⟩ := attempt
  · refine ⟨?_, rfl, differs.listener.symm, differs.context.symm⟩
    simp only [settle, differs.address]
  · exact ⟨rfl, rfl, differs.listener.symm, differs.context.symm⟩
  · exact ⟨rfl, rfl, rfl, rfl⟩

/-- Connectors whose names denote the same versions start alike. -/
theorem leadAlike_of_denoteAlike (differs : connector.DiffersInNames other)
    (state : connector.isConfigurable = true) (state' : other.isConfigurable = true)
    (alike : connector.host.enabledProtocols.DenoteAlike other.host.enabledProtocols) :
    LeadAlike Eq (connector.start engine machine) (other.start engine machine) := by
  have prepared : other.prepare engine machine = connector.prepare engine machine :=
    prepare_eq_of_versions differs alike.enabledVersions_eq.symm
  rw [start, start, if_pos state, if_pos state', prepared]
  exact leadAlike_settle differs _

/-- A name that denotes no version ends a start before anything else is looked at. -/
theorem start_of_invalidVersion (state : connector.isConfigurable = true) {name : String}
    (refused : enabledVersions connector.host.enabledProtocols =
      .error (.failure (.invalidVersion name))) :
    connector.start engine machine =
      (connector.markFailed, ⟨[.startFailed connector.address (.invalidVersion name)],
        .error (.failure (.invalidVersion name))⟩) := by
  have prepared : connector.prepare engine machine =
      ⟨[], .error (.failure (.invalidVersion name))⟩ := by
    rw [prepare, ServerContext.ofHost, refused]
    rfl
  rw [start, if_pos state, prepared]
  rfl

example : ((Sample.connector [" tls1.2", "SSLv3 ", "SSLv2"] "A").start Sample.engine
    Sample.machine).2.outcome = .error (.failure (.invalidVersion "SSLv2")) := by
  decide +kernel

end Connector

/-- What the names of the versions of a host mean for a start. -/
structure NamesMeanVersions (engine : Engine) (machine : Machine) (connector : Connector) :
    Prop where
  /-- As long as every name denotes a version, nothing counts but the versions that are denoted. -/
  alike : connector.isConfigurable = true → ∀ {other : Connector}, other.isConfigurable = true →
    connector.DiffersInNames other →
    connector.host.enabledProtocols.DenoteAlike other.host.enabledProtocols →
    Connector.LeadAlike Eq (connector.start engine machine) (other.start engine machine)
  /-- So it does not matter how they are spelled where they are listed, nor in which order or how
  often. -/
  listed : connector.isConfigurable = true → ∀ {names names' : List String},
    (∀ name ∈ names, (Version.parse? name).isSome) →
    (∀ name ∈ names', (Version.parse? name).isSome) →
    (∀ version, (∃ name ∈ names, Version.parse? name = some version) ↔
      ∃ name ∈ names', Version.parse? name = some version) →
    Connector.LeadAlike Eq
      ((connector.modifyHost fun host => host.setEnabledProtocols names).start engine machine)
      ((connector.modifyHost fun host => host.setEnabledProtocols names').start engine machine)
  /-- If any name denotes none, the start fails over the least of them as it is spelled, with that
  for its log, whatever else there is. -/
  refused : (∃ name ∈ connector.host.enabledProtocols, Version.parse? name = none) →
    ∃ name, connector.host.enabledProtocols.LeastUnknown name ∧
      ∀ (engine' : Engine) (machine' : Machine) (other : Connector),
        other.isConfigurable = true →
        other.host.enabledProtocols = connector.host.enabledProtocols →
        other.start engine' machine' =
          (other.markFailed, ⟨[.startFailed other.address (.invalidVersion name)],
            .error (.failure (.invalidVersion name))⟩)
  /-- A name denotes a version exactly if it is one of its accepted names once it is trimmed and in
  upper case. -/
  recognised : ∀ {name : String} {version : Version},
    Version.parse? name = some version ↔ Text.canonical name ∈ version.acceptedNames
  /-- It makes no difference to what characters are turned that have no upper-case form in ASCII. -/
  recognised_upper : ∀ {full : Char → List Char}, Text.IsUpperCasing full →
    ∀ {name : String} {version : Version}, Version.parse? name = some version ↔
      String.ofList ((Text.trim name).toList.flatMap full) ∈ version.acceptedNames

/-- Names mean the versions that they denote, and nothing else, to every start. -/
theorem namesMeanVersions (engine : Engine) (machine : Machine) (connector : Connector) :
    NamesMeanVersions engine machine connector where
  alike state _ state' differs alike :=
    Connector.leadAlike_of_denoteAlike differs state state' alike
  listed := by
    intro state names names' left right same
    refine Connector.leadAlike_of_denoteAlike ⟨rfl, rfl, rfl, rfl, rfl⟩ state state ?_
    exact NameSet.denoteAlike_ofList left right same
  refused := by
    intro unknown
    obtain ⟨name, least, refused⟩ := NameSet.exists_leastUnknown unknown
    refine ⟨name, least, fun engine' machine' other state same => ?_⟩
    rw [← same] at refused
    exact Connector.start_of_invalidVersion state refused
  recognised := Version.parse?_eq_some
  recognised_upper casing _ _ := Version.parse?_eq_some_iff_upper casing

end TlsListener
