import TlsListener.Proofs.Connector.TrustPassword
import TlsListener.Proofs.Context.Failures
import TlsListener.Proofs.Context.Identity
import TlsListener.Proofs.Store.Parsing

/-!
# Starting with a store that was read from a container

A private key entry without any certificate is a reason for a start to fail, and a provider that an
application registers can build a store with such an entry. No container is read into one. So where
the key store of a host was read from an archive or from a PEM text the reason never applies,
whatever else is wrong with the host.
-/

namespace TlsListener

/-- It is told that an entry has no certificate only if the key store has such an entry. -/
theorem ServerIdentity.exists_entry_of_noLeaf {engine : Engine} {list : Option String}
    {host : HostConfig} (h : ofHost engine list host = .error (.failure (.startup .noLeaf))) :
    ∃ certificate entry, host.certificate = some certificate ∧
      .privateKey entry ∈ certificate.keyStore.store.entries ∧ entry.chain = [] := by
  rcases Outcome.bind_eq_error.mp h with h | ⟨certificate, set, h⟩
  · cases (Outcome.ofOption_eq_failure.mp h).2
  rcases Outcome.bind_eq_error.mp h with h | ⟨entry, found, h⟩
  · rw [HostCertificate.entry] at h
    split at h
    · cases h
    · split at h <;> cases h
  · obtain ⟨before, after, split, -⟩ :=
      KeyStore.findPrivateKey?_eq_some.mp (findPrivateKey?_of_entry found)
    refine ⟨certificate, entry, Outcome.ofOption_eq_ok.mp set, by simp [split], ?_⟩
    rw [ofEntry] at h
    split at h
    · next bare => exact bare
    · split at h
      · cases h
      · split at h <;> cases h

namespace Connector

variable {engine : Engine} {machine : Machine} {connector : Connector} {cause : StartupCause}

/-- A start fails over the identity only if the host has none. -/
theorem ofHost_of_start (identity : cause.IsOfIdentity)
    (h : (connector.start engine machine).2.outcome = .error (.failure (.startup cause))) :
    ∃ list, ServerIdentity.ofHost engine list connector.host =
      .error (.failure (.startup cause)) := by
  have ends := startEnds_start engine machine connector
  generalize connector.start engine machine = ended at ends h
  cases ends with
  | refused =>
      cases h
      cases identity
  | started => cases h
  | failed _ prepared =>
      cases h
      rcases Traced.outcome_bind_eq_failure.mp prepared with made | ⟨context, -, bound⟩
      · exact (ServerContext.failsWith_of_ofHost made).of_identity identity
      · rcases Traced.outcome_bind_eq_failure.mp bound with bound | ⟨address, -, bound⟩
        · change connector.bindAddress machine = _ at bound
          rw [bindAddress] at bound
          split at bound
          · cases bound
          · cases bound
            cases identity
        · cases bound
  | cut => cases h

/-- What is logged of a start that failed is what it answers. -/
theorem outcome_of_startFailed {address : Address} {failure : Failure}
    (logged : .startFailed address failure ∈ (connector.start engine machine).2.events) :
    (connector.start engine machine).2.outcome = .error (.failure failure) := by
  have ends := startEnds_start engine machine connector
  generalize connector.start engine machine = ended at ends logged ⊢
  have unprepared : .startFailed address failure ∉ (connector.prepare engine machine).events :=
    fun logged => ServerContext.startFailed_not_mem_events (mem_events_prepare.mp logged)
  cases ends with
  | refused => cases logged
  | started => exact absurd logged unprepared
  | failed =>
      rcases List.mem_append.mp logged with logged | logged
      · exact absurd logged unprepared
      · cases List.mem_singleton.mp logged
        rfl
  | cut => exact absurd logged unprepared

end Connector

namespace KeyStore

/-- What is known of reading containers with a password. -/
structure ReadsWell (engine : Engine) (bytes : ByteArray) (password : Option Secret)
    (provider : String) : Prop where
  archive : Parses (FindsInArchive engine bytes password)
    (ofArchive engine bytes password provider)
  text : Parses (FindsInText engine bytes password) (ofText engine bytes password provider)
  /-- No start with a store that was read, by any engine on any machine, fails over a private key
  without a certificate, or says so in its log. -/
  leafed : ∀ {certificate : HostCertificate},
    ofArchive engine bytes password provider = .ok certificate.keyStore.store ∨
      ofText engine bytes password provider = .ok certificate.keyStore.store →
    ∀ {engine' machine} {connector : Connector}, connector.host.certificate = some certificate →
      (connector.start engine' machine).2.outcome ≠ .error (.failure (.startup .noLeaf)) ∧
      ∀ address, .startFailed address (.startup .noLeaf) ∉
        (connector.start engine' machine).2.events

variable {engine : Engine} {machine : Machine} {store : KeyStore} {found : ArchiveContents}

theorem IsMadeOf.chain_ne_nil (h : store.IsMadeOf found) {entry : PrivateKeyEntry}
    (member : .privateKey entry ∈ store.entries) : entry.chain ≠ [] := by
  obtain ⟨before, after, split⟩ := List.append_of_mem member
  obtain ⟨-, -, -, leaf, -, chain, -⟩ := h.keyed split
  simp [chain]

/-- Where the key store was read from a container, there is always a certificate with its key. -/
theorem IsMadeOf.start_ne_noLeaf {certificate : HostCertificate} {connector : Connector}
    (made : certificate.keyStore.store.IsMadeOf found)
    (set : connector.host.certificate = some certificate) :
    (connector.start engine machine).2.outcome ≠ .error (.failure (.startup .noLeaf)) := by
  intro failed
  obtain ⟨list, failed⟩ := Connector.ofHost_of_start .noLeaf failed
  obtain ⟨_, entry, set', member, bare⟩ := ServerIdentity.exists_entry_of_noLeaf failed
  cases set.symm.trans set'
  exact made.chain_ne_nil member bare

/-- Every container is read into a store in good order, with all that it holds and nothing else, or
it is told why not. -/
theorem readsWell (engine : Engine) (bytes : ByteArray) (password : Option Secret)
    (provider : String) : ReadsWell engine bytes password provider where
  archive := parses_ofArchive
  text := parses_ofText
  leafed := by
    intro certificate read engine' machine connector set
    obtain ⟨found, made⟩ : ∃ found, certificate.keyStore.store.IsMadeOf found := by
      rcases read with read | read
      · obtain ⟨found, -, made⟩ := parses_ofArchive.made read
        exact ⟨found, made⟩
      · obtain ⟨found, -, made⟩ := parses_ofText.made read
        exact ⟨found, made⟩
    have answered : (connector.start engine' machine).2.outcome ≠ _ := made.start_ne_noLeaf set
    refine ⟨answered, fun address logged => ?_⟩
    exact answered (Connector.outcome_of_startFailed logged)

end KeyStore

end TlsListener
