import TlsListener.Context.Identity
import TlsListener.Proofs.Store.Entries
import TlsListener.Proofs.Traced

/-!
# Where an identity comes from

The key, the leaf and the chain of an identity are never taken from several places: all of them are
what one entry of a key store holds. The entry is the earliest that the certificate of the host asks
for, and the engine has agreed that its key belongs to its leaf.
-/

namespace TlsListener

namespace ServerIdentity

variable {engine : Engine} {list : Option String} {identity : ServerIdentity}

/-- An identity is what a private key entry holds, and its key belongs to its leaf. -/
structure TakenFrom (engine : Engine) (identity : ServerIdentity) (entry : PrivateKeyEntry) :
    Prop where
  key : identity.key = entry.key
  chain : identity.leaf :: identity.chain = entry.chain
  belongs : engine.belongs identity.key identity.leaf = true

theorem takenFrom_of_ofEntry {entry : PrivateKeyEntry}
    (h : ofEntry engine list entry = .ok identity) : identity.TakenFrom engine entry := by
  rw [ofEntry] at h
  split at h
  · cases h
  · next leaf chain certificates =>
      split at h
      · cases h
      · split at h
        · cases h
        · next belongs =>
            cases h
            exact ⟨rfl, certificates.symm, by simpa using belongs⟩

theorem findPrivateKey?_of_entry {certificate : HostCertificate} {entry : PrivateKeyEntry}
    (h : certificate.entry = .ok entry) :
    certificate.keyStore.store.findPrivateKey? certificate.keyAlias = some entry := by
  rw [HostCertificate.entry] at h
  split at h
  · next found =>
      cases h
      exact found
  · split at h <;> cases h

/-- The identity of a host is taken from the entry that its certificate asks for. -/
theorem exists_entry_of_ofHost {host : HostConfig} (h : ofHost engine list host = .ok identity) :
    ∃ certificate entry, host.certificate = some certificate ∧
      certificate.keyStore.store.IsEarliest certificate.keyAlias entry ∧
      identity.TakenFrom engine entry := by
  obtain ⟨certificate, set, h⟩ := Outcome.bind_eq_ok.mp h
  obtain ⟨entry, found, h⟩ := Outcome.bind_eq_ok.mp h
  exact ⟨certificate, entry, Outcome.ofOption_eq_ok.mp set,
    KeyStore.findPrivateKey?_eq_some.mp (findPrivateKey?_of_entry found), takenFrom_of_ofEntry h⟩

/-- A host without a certificate has no identity. -/
theorem ofHost_of_certificate_eq_none {host : HostConfig} (unset : host.certificate = none) :
    ofHost engine list host = .error (.failure (.startup .noCertificate)) := by
  rw [ofHost, unset]
  rfl

end ServerIdentity

end TlsListener
