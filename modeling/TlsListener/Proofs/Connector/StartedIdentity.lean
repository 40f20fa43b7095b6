import TlsListener.Proofs.Connector.History
import TlsListener.Proofs.Connector.Lifecycle
import TlsListener.Proofs.Context.Identity

/-!
# The identity that a connector is started with

A connector that is started presents the key and the certificates of the customizer that was bound
last before the start, as long as nobody writes to the settings of its host by hand. Nothing is left
over from before the last stop, nor from a customizer that was bound and then overwritten, and since
a customizer that fails has to be followed by a stop before there can be a start, none has failed
either.

The path from the stores that were resolved to the context runs over the certificate of the host. It
is written by binding only, and taken back by a stop. Without it no start succeeds.
-/

namespace TlsListener

namespace Connector

variable {engine : Engine} {connector : Connector} {operations : List Operation}
variable {machine : Machine} {identity : ServerIdentity}

/-- An identity is that of the entry which the customizer that was bound last asks for: the earliest
private key entry of the key store that was resolved for it. -/
inductive Identified (engine : Engine) (connector : Connector) (operations : List Operation)
    (identity : ServerIdentity) : Prop where
  | intro {before : List Operation} {machine : Machine} {customizer : Customizer}
      {stores : ResolvedStores} {entry : PrivateKeyEntry}
      (last : LastBound engine connector operations before machine customizer)
      (resolved : customizer.loader.resolve machine customizer.settings customizer.material =
        .ok stores)
      (earliest : stores.keyStore.store.IsEarliest customizer.settings.keyAlias entry)
      (taken : identity.TakenFrom engine entry) :
      Identified engine connector operations identity

/-- A host has no identity but that of the customizer that was bound last. -/
theorem identified_of_written {host : HostConfig} {list : Option String}
    (h : Written engine connector operations host)
    (identified : ServerIdentity.ofHost engine list host = .ok identity) :
    Identified engine connector operations identity := by
  cases h with
  | untouched _ initial =>
      have unset : host.certificate = none := by rw [initial]; rfl
      cases identified.symm.trans (ServerIdentity.ofHost_of_certificate_eq_none unset)
  | bound last resolved certificate =>
      obtain ⟨_, entry, set, earliest, taken⟩ := ServerIdentity.exists_entry_of_ofHost identified
      cases certificate.symm.trans set
      rw [HostConfig.certificateOf, (Loader.resolve_eq_ok.mp resolved).keyAlias] at earliest
      exact .intro last resolved earliest taken

/-- What led to a connector that is started with a context: a start that succeeded, after operations
among which no customizer has failed since the last stop, with the identity of the one that was
bound last. -/
structure StartedWith (engine : Engine) (connector : Connector) (before : List Operation)
    (machine : Machine) (context : ServerContext) : Prop where
  succeeded : ((connector.run engine before).start engine machine).2.outcome = .ok ()
  /-- A customizer that was not bound was cut short and left everything as it was. -/
  attempts : ∀ {earlier machine customizer answer},
    Attempted engine connector before earlier machine customizer answer →
      answer = .ok () ∨
        (answer = .error .cutShort ∧
          ((connector.run engine earlier).customize machine customizer).1 =
            connector.run engine earlier)
  identified : Identified engine connector before context.identity

/-- A connector that is started got its context from a start after the last stop. -/
theorem exists_start_of_started (begun : connector.state ≠ .started)
    (started : (connector.run engine operations).state = .started) :
    ∃ before machine, DoneSinceStop operations before (.start machine) ∧
      ((connector.run engine before).start engine machine).2.outcome = .ok () ∧
      (connector.run engine operations).context =
        ((connector.run engine before).start engine machine).1.context := by
  induction operations using List.reverseRecOn with
  | nil => exact absurd started begun
  | append_singleton operations last ih =>
      rw [run_concat] at started ⊢
      rcases apply_state_eq_started.mp started with ⟨earlier, stays⟩ | ⟨machine, rfl, succeeded⟩
      · obtain ⟨before, machine, done, succeeded, context⟩ := ih earlier
        have closed := not_configurable_of_settled (.inl earlier)
        refine ⟨before, machine, doneSinceStop_concat.mpr (.inl ⟨done, stays⟩), succeeded, ?_⟩
        rw [(apply_of_not_configurable closed stays).2.2, context]
      · exact ⟨operations, machine, doneSinceStop_concat.mpr (.inr ⟨rfl, rfl⟩), succeeded, rfl⟩

/-- A start that succeeds has the identity of the customizer that was bound last, and no customizer
has failed before it. -/
theorem startedWith_of_start (unwritten : ∀ change, .modifyHost change ∉ operations)
    (initial : connector.host = .ofDefaults connector.defaults)
    (succeeded : ((connector.run engine operations).start engine machine).2.outcome = .ok ()) :
    ∃ context, ((connector.run engine operations).start engine machine).1.context = some context ∧
      StartedWith engine connector operations machine context := by
  have state : (connector.run engine operations).isConfigurable = true := by
    by_contra closed
    rw [start_of_not_configurable (by simpa using closed)] at succeeded
    cases succeeded
  obtain ⟨context, address, made, start⟩ := exists_context_of_start succeeded
  obtain ⟨enabled, versions, made⟩ := ServerContext.ofHost_eq_ok.mp made
  refine ⟨context, by rw [start], succeeded, ?_, ?_⟩
  · intro earlier machine customizer answer attempted
    cases answer with
    | ok => exact .inl rfl
    | error stop =>
        cases stop with
        | failure failure => exact absurd attempted (not_attempted_failure state)
        | cutShort => exact .inr ⟨rfl, customize_of_cutShort attempted.answered⟩
  · exact identified_of_written (written_run initial unwritten) made.identified

/-- Without a certificate and without suites a start fails. -/
theorem exists_failure_of_start (uncertified : connector.host.certificate = none)
    (unrestricted : connector.host.ciphers = none) :
    ∃ failure, (connector.start engine machine).2.outcome = .error (.failure failure) := by
  have unidentified {list : Option String} {identity : ServerIdentity} :
      ServerIdentity.ofHost engine list connector.host ≠ .ok identity := by
    rw [ServerIdentity.ofHost_of_certificate_eq_none uncertified]
    exact fun h => nomatch h
  have ends := startEnds_start engine machine connector
  generalize connector.start engine machine = ended at ends ⊢
  cases ends with
  | refused => exact ⟨_, rfl⟩
  | started _ prepared =>
      obtain ⟨_, _, made⟩ := ServerContext.ofHost_eq_ok.mp (prepare_eq_ok.mp prepared).1
      exact absurd made.identified unidentified
  | failed => exact ⟨_, rfl⟩
  | cut _ prepared =>
      -- Only a suite could cut the start short before the identity is missed.
      cases prepare_eq_cutShort.mp prepared with
      | suite _ set => cases unrestricted.symm.trans set
      | trust _ _ _ identified => exact absurd identified unidentified

/-- A new connector, after any run in which nobody writes to the settings of its host by hand, is
started only with the identity of the customizer that was bound last since the last stop, and as
long as none was bound every start fails. -/
theorem startedWith_of_run (engine : Engine) (address : Address) (defaults : PlatformDefaults)
    (unwritten : ∀ change, .modifyHost change ∉ operations) :
    (((create engine address defaults).run engine operations).state = .started →
      ∃ before machine context, DoneSinceStop operations before (.start machine) ∧
        ((create engine address defaults).run engine operations).context = some context ∧
        StartedWith engine (create engine address defaults) before machine context) ∧
    ((∀ before machine customizer,
        ¬Attempted engine (create engine address defaults) operations before machine customizer
          (.ok ())) →
      ∀ machine, ∃ failure,
        (((create engine address defaults).run engine operations).start engine machine).2.outcome =
          .error (.failure failure)) := by
  constructor
  · intro started
    have begun : (create engine address defaults).state ≠ .started := by
      intro begun
      cases begun
    obtain ⟨before, machine, done, succeeded, same⟩ := exists_start_of_started begun started
    obtain ⟨after, rfl, unstopped⟩ := done
    have unwritten' : ∀ change, .modifyHost change ∉ before := fun change member =>
      unwritten change (List.mem_append_left _ member)
    obtain ⟨context, equipped, startedWith⟩ := startedWith_of_start unwritten' rfl succeeded
    exact ⟨before, machine, context, ⟨after, rfl, unstopped⟩, same.trans equipped, startedWith⟩
  · intro unbound machine
    have written : Written engine (create engine address defaults) operations
        ((create engine address defaults).run engine operations).host :=
      written_run rfl unwritten
    cases written with
    | untouched _ initial =>
        exact exists_failure_of_start (by rw [initial]; rfl) (by rw [initial]; rfl)
    | bound last => exact absurd last.bound (unbound _ _ _)

end Connector

namespace Sample

/-- A certificate in the place of the one before. -/
def renewed : Certificate :=
  { certificate with subject := some "renewed" }

/-- A store in which the key that is asked for by its alias comes last. -/
def renewedStore : StoreHandle where
  store := (((KeyStore.new .pkcs11 "Token").withEntry
    (.trusted (some "server") certificate)).withEntry
    (.privateKey ⟨some "other", ⟨.unknown, []⟩, [certificate]⟩)).withEntry
    (.privateKey ⟨some "server", ⟨.unknown, []⟩, [renewed, certificate]⟩)

/-- A connector is customized, started and stopped. -/
def stopped : List Operation :=
  [.customize machine customizer, .start machine] ++ [.stop]

/-- Then it is customized for another store and started. -/
def restarted : List Operation :=
  stopped ++ [.customize machine
    { settings := { keyAlias := some "server" }
      material := some { keyStore := some renewedStore }
      loader := .default engine },
    .start machine]

end Sample

/-- A connector that was stopped presents what it was customized with after the stop, and cannot be
started before that. -/
theorem Connector.startedWith_of_run_sample :
    (∀ change, .modifyHost change ∉ Sample.restarted) ∧
    ((create Sample.engine Sample.address {}).run Sample.engine Sample.restarted).state =
      .started ∧
    (((create Sample.engine Sample.address {}).run Sample.engine
      Sample.restarted).context.map fun context => context.identity.leaf) = some Sample.renewed ∧
    (∃ before machine context, DoneSinceStop Sample.restarted before (.start machine) ∧
      ((create Sample.engine Sample.address {}).run Sample.engine Sample.restarted).context =
        some context ∧
      StartedWith Sample.engine (create Sample.engine Sample.address {}) before machine context) ∧
    (∀ change, .modifyHost change ∉ Sample.stopped) ∧
    ∀ machine, ∃ failure,
      (((create Sample.engine Sample.address {}).run Sample.engine Sample.stopped).start
        Sample.engine machine).2.outcome = .error (.failure failure) := by
  have unwritten : ∀ change, .modifyHost change ∉ Sample.restarted := by
    simp [Sample.restarted, Sample.stopped]
  have unwritten' : ∀ change, .modifyHost change ∉ Sample.stopped := by simp [Sample.stopped]
  have started : ((create Sample.engine Sample.address {}).run Sample.engine
      Sample.restarted).state = .started := by
    decide +kernel
  refine ⟨unwritten, started, by decide +kernel, ?_, unwritten', ?_⟩
  · exact (startedWith_of_run Sample.engine Sample.address {} unwritten).1 started
  · refine (startedWith_of_run Sample.engine Sample.address {} unwritten').2 ?_
    intro before machine customizer
    exact not_attempted_stop

end TlsListener
