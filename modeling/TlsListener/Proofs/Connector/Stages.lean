import TlsListener.Proofs.Connector.Start
import TlsListener.Proofs.Context.Failures
import TlsListener.Proofs.Context.Identity
import TlsListener.Proofs.Context.TrustWarning
import TlsListener.Proofs.Context.VersionNames

/-!
# The stages of a start

A start goes through stages, from the names of the versions to the address. Whether a stage can be
passed, and what it warns of, is said here for each stage by itself: in terms of the host, of the
engine and of the machine, and not of what the stages before it have computed.

`Stops` has one rule for each reason that a stage may not be passed, and `Warns` one for each way in
which a stage warns of something or does not. The steps that a start is made of keep to both.
-/

namespace TlsListener

/-- A stage of a start. -/
inductive StartStage where
  /-- The versions are told from their names. -/
  | versions
  /-- The suites are sorted and set, and versions are restricted to them. -/
  | suites
  /-- The host has a certificate. -/
  | certificate
  /-- The key store of the certificate has a private key entry. -/
  | entry
  /-- The entry has a certificate. -/
  | leaf
  /-- The engine takes the key and the certificate, and they belong together. -/
  | identity
  /-- The certificates that clients are verified against are taken from the trust store. -/
  | anchors
  /-- The address is bound. -/
  | address
  deriving DecidableEq

/-- All stages, in order. -/
def StartStage.all : List StartStage :=
  [versions, suites, certificate, entry, leaf, identity, anchors, address]

namespace HostConfig

/-- The suites of a host can be handed to the engine and are sorted. -/
structure SortsSuites (engine : Engine) (host : HostConfig) (suites : String)
    (sorted : SortedSuites) : Prop where
  set : host.ciphers = some suites
  passable : ∀ name ∈ suiteNames suites, isPassable name = true
  sorts : SortsTo engine (suiteNames suites) sorted

/-- The list of suites that is set for the older versions. -/
inductive SetsClassic (engine : Engine) (host : HostConfig) : Option String → Prop where
  | unset (unset : host.ciphers = none) : SetsClassic engine host none
  | joined {suites : String} {sorted : SortedSuites}
      (sorts : host.SortsSuites engine suites sorted) :
      SetsClassic engine host (SuiteLists.join? sorted.classic)

/-- The versions that a host enables and that have no suite, oldest first. -/
structure Disables (host : HostConfig) (sorted : SortedSuites) (disabled : List Version) : Prop
    where
  ordered : disabled.Sublist Version.all
  mem_iff : ∀ version, version ∈ disabled ↔
    host.enabledProtocols.Denotes version ∧ sorted.suitesFor version = []

/-- The certificate of a host selects an entry of its key store. -/
def Selects (host : HostConfig) (entry : PrivateKeyEntry) : Prop :=
  ∃ certificate, host.certificate = some certificate ∧
    certificate.keyStore.store.IsEarliest certificate.keyAlias entry

variable {engine : Engine} {host : HostConfig}

/-- The suites of a host sort in one way. -/
theorem SortsSuites.unique {suites suites' : String} {sorted sorted' : SortedSuites}
    (h : host.SortsSuites engine suites sorted) (h' : host.SortsSuites engine suites' sorted') :
    suites = suites' ∧ sorted = sorted' := by
  cases h.set.symm.trans h'.set
  rw [SortedSuites.sortsTo_iff.mp h.sorts, SortedSuites.sortsTo_iff.mp h'.sorts]
  exact ⟨rfl, rfl⟩

theorem SetsClassic.unique {list list' : Option String} (h : host.SetsClassic engine list)
    (h' : host.SetsClassic engine list') : list = list' := by
  cases h with
  | unset unset =>
      cases h' with
      | unset => rfl
      | joined sorts => cases unset.symm.trans sorts.set
  | joined sorts =>
      cases h' with
      | unset unset => cases unset.symm.trans sorts.set
      | joined sorts' => rw [(sorts.unique sorts').2]

theorem setsClassic_of_chooseSuites {versions left : List Version} {lists : SuiteLists}
    (chosen : (chooseSuites engine host.ciphers versions).outcome = .ok (lists, left)) :
    host.SetsClassic engine lists.classic := by
  cases set : host.ciphers with
  | none =>
      rw [set] at chosen
      cases chosen
      exact .unset set
  | some suites =>
      rw [set, chooseSuites] at chosen
      have passable : ∀ name ∈ suiteNames suites, isPassable name = true := by
        refine Decidable.byContradiction fun nul => ?_
        cases (restrictToSuites_eq_cutShort nul).symm.trans chosen
      have lists_set := (restriction_restrictToSuites versions passable).set chosen .tls12
      have joined : lists.classic =
          SuiteLists.join? (SortedSuites.ofNames engine (suiteNames suites)).classic := by
        by_cases none : (SortedSuites.ofNames engine (suiteNames suites)).classic = []
        · rw [none]
          exact lists_set.2 none
        · rw [SuiteLists.join?_of_ne_nil none]
          exact lists_set.1 none
      rw [joined]
      exact .joined ⟨set, passable, SortedSuites.sortsTo_ofNames engine (suiteNames suites)⟩

theorem Selects.unique {entry entry' : PrivateKeyEntry} (h : host.Selects entry)
    (h' : host.Selects entry') : entry = entry' := by
  obtain ⟨certificate, set, earliest⟩ := h
  obtain ⟨certificate', set', earliest'⟩ := h'
  cases set.symm.trans set'
  rw [← KeyStore.findPrivateKey?_eq_some] at earliest earliest'
  exact Option.some.inj (earliest.symm.trans earliest')

theorem Disables.unique {sorted : SortedSuites} {disabled disabled' : List Version}
    (h : host.Disables sorted disabled) (h' : host.Disables sorted disabled') :
    disabled = disabled' := by
  rw [Version.eq_filter_of_sublist h.ordered, Version.eq_filter_of_sublist h'.ordered]
  refine List.filter_congr fun version _ => ?_
  rw [Bool.eq_iff_iff, List.contains_iff_mem, List.contains_iff_mem, h.mem_iff, h'.mem_iff]

theorem disables_versionsOf {sorted : SortedSuites} : host.Disables sorted
    ((versionsOf host.enabledProtocols).filter fun version => !sorted.serves version) where
  ordered := List.filter_sublist.trans List.filter_sublist
  mem_iff version := by
    have served : (!sorted.serves version) = true ↔ sorted.suitesFor version = [] := by
      rw [Bool.not_eq_true', ← Bool.not_eq_true, SortedSuites.serves_iff, not_not]
    rw [List.mem_filter, mem_versionsOf, served]
    rfl

end HostConfig

namespace Connector

section

variable (engine : Engine) (machine : Machine) (connector : Connector)

/-- A stage of a start is not passed: it fails, or it is cut short. -/
inductive Stops : StartStage → Stop Failure → Prop where
  | unknownVersion {name : String}
      (unknown : connector.host.enabledProtocols.LeastUnknown name) :
      Stops .versions (.failure (.invalidVersion name))
  | noVersion (none : ∀ name, name ∉ connector.host.enabledProtocols) :
      Stops .versions (.failure (.startup .noVersion))
  | suiteCutShort {suites name : String} (set : connector.host.ciphers = some suites)
      (member : name ∈ suiteNames suites) (nul : isPassable name = false) :
      Stops .suites .cutShort
  | noSuite {suites : String} {sorted : SortedSuites}
      (sorts : connector.host.SortsSuites engine suites sorted)
      (none : sorted.classic = [] ∧ sorted.modern = []) :
      Stops .suites (.failure (.startup (.noSuite suites)))
  | suitesRefused {suites : String} {sorted : SortedSuites}
      (sorts : connector.host.SortsSuites engine suites sorted)
      (refused : ¬sorted.JoinsAccepted engine) : Stops .suites (.failure .engine)
  | noVersionForSuites {suites : String} {sorted : SortedSuites}
      (sorts : connector.host.SortsSuites engine suites sorted)
      (some : ¬(sorted.classic = [] ∧ sorted.modern = []))
      (accepted : sorted.JoinsAccepted engine)
      (unserved : ∀ version, connector.host.enabledProtocols.Denotes version →
        sorted.suitesFor version = []) :
      Stops .suites (.failure (.startup (.noVersionForSuites suites)))
  | noCertificate (unset : connector.host.certificate = none) :
      Stops .certificate (.failure (.startup .noCertificate))
  | aliasAbsent {certificate : HostCertificate} {name : String}
      (set : connector.host.certificate = some certificate)
      (wanted : certificate.keyAlias = some name)
      (absent : ∀ entry, .privateKey entry ∈ certificate.keyStore.store.entries →
        entry.name ≠ some name) :
      Stops .entry (.failure (.startup (.aliasAbsent name)))
  | noPrivateKey {certificate : HostCertificate}
      (set : connector.host.certificate = some certificate) (any : certificate.keyAlias = none)
      (none : ∀ entry, .privateKey entry ∉ certificate.keyStore.store.entries) :
      Stops .entry (.failure (.startup .noPrivateKey))
  | noLeaf {entry : PrivateKeyEntry} (selected : connector.host.Selects entry)
      (bare : entry.chain = []) : Stops .leaf (.failure (.startup .noLeaf))
  | keyRefused {entry : PrivateKeyEntry} (selected : connector.host.Selects entry)
      (refused : engine.acceptsKey entry.key = false) : Stops .identity (.failure .engine)
  | leafRefused {entry : PrivateKeyEntry} {leaf : Certificate} {chain : List Certificate}
      {list : Option String} (selected : connector.host.Selects entry)
      (first : entry.chain = leaf :: chain) (set : connector.host.SetsClassic engine list)
      (refused : engine.acceptsLeaf list leaf = false) : Stops .identity (.failure .engine)
  | keyMismatch {entry : PrivateKeyEntry} {leaf : Certificate} {chain : List Certificate}
      {list : Option String} (selected : connector.host.Selects entry)
      (first : entry.chain = leaf :: chain) (set : connector.host.SetsClassic engine list)
      (key : engine.acceptsKey entry.key = true) (accepted : engine.acceptsLeaf list leaf = true)
      (foreign : engine.belongs entry.key leaf = false) :
      Stops .identity (.failure (.startup .keyMismatch))
  | trustCutShort
      (cut : connector.host.TrustCutShort engine machine connector.loader) :
      Stops .anchors .cutShort
  | anchorRefused {anchors : List Certificate} {anchor : Certificate}
      (settled : ¬connector.host.TrustCutShort engine machine connector.loader)
      (anchored : connector.host.Anchored machine connector.loader anchors)
      (member : anchor ∈ anchors) (refused : engine.acceptsAnchor anchor = false) :
      Stops .anchors (.failure .engine)
  | cannotBind {failure : IoFailure}
      (refused : machine.bind connector.address = .error failure) :
      Stops .address (.failure (.startup (.cannotBind connector.address failure)))

/-- A stage is passed. -/
def Passes (stage : StartStage) : Prop :=
  ∀ stop, ¬Stops engine machine connector stage stop

/-- What a stage of a start warns of. -/
inductive Warns : StartStage → List Event → Prop where
  | unset (unset : connector.host.ciphers = none) : Warns .suites []
  /-- Suites that are left out are warned of up to where the sorting is cut short. -/
  | suiteCutShort {suites name : String} {before after : List String} {sorted : SortedSuites}
      (set : connector.host.ciphers = some suites)
      (split : suiteNames suites = before ++ name :: after)
      (passable : ∀ earlier ∈ before, isPassable earlier = true) (nul : isPassable name = false)
      (sorts : SortsTo engine before sorted) :
      Warns .suites (sorted.unsupported.map .suiteUnsupported)
  /-- No version is disabled before the suites are set. -/
  | suitesUnset {suites : String} {sorted : SortedSuites}
      (sorts : connector.host.SortsSuites engine suites sorted)
      (unset : (sorted.classic = [] ∧ sorted.modern = []) ∨ ¬sorted.JoinsAccepted engine) :
      Warns .suites (sorted.unsupported.map .suiteUnsupported)
  | suitesSet {suites : String} {sorted : SortedSuites} {disabled : List Version}
      (sorts : connector.host.SortsSuites engine suites sorted)
      (some : ¬(sorted.classic = [] ∧ sorted.modern = []))
      (accepted : sorted.JoinsAccepted engine)
      (disables : connector.host.Disables sorted disabled) :
      Warns .suites
        (sorted.unsupported.map .suiteUnsupported ++ disabled.map .versionDisabled)
  | passwordRefused {store : StoreHandle} {password : Secret}
      (refuses : connector.host.RefusesTrustPassword engine store password) :
      Warns .anchors [.trustPasswordRefused]
  | platformUnavailable {failure : Failure} (unset : connector.host.trustStore = none)
      (named : connector.host.hasPlatformTrust = true)
      (failed : connector.loader.load machine .trust connector.host.trustFile
        connector.host.trustPassword connector.host.trustType none = .fail failure) :
      Warns .anchors [.platformTrustUnavailable connector.host.trustFile failure]
  | trusted
      (agrees : ∀ store password, ¬connector.host.RefusesTrustPassword engine store password)
      (available : connector.host.trustStore = none → connector.host.hasPlatformTrust = true →
        ∀ failure, connector.loader.load machine .trust connector.host.trustFile
          connector.host.trustPassword connector.host.trustType none ≠ .fail failure) :
      Warns .anchors []
  /-- The other stages warn of nothing. -/
  | quiet {stage : StartStage} (suites : stage ≠ .suites) (anchors : stage ≠ .anchors) :
      Warns stage []

end

end Connector

end TlsListener
