import TlsListener.Proofs.Context.Basic

/-!
# How the making of a context fails

The first stage that fails decides how the making of a context fails, and no stage after it is
reached. `FailsWith` has one rule for each stage. Every stage has failures of its own kind: the
versions refuse a name, the suites name the text that they are in, and the anchors leave everything
to the engine. So a failure over a certificate or a private key tells that the stages before the
identity have succeeded, and that there is something wrong with the key store.
-/

namespace TlsListener

/-- The causes over which no identity is found for a host. -/
inductive StartupCause.IsOfIdentity : StartupCause → Prop where
  | noCertificate : IsOfIdentity .noCertificate
  | aliasAbsent (name : String) : IsOfIdentity (.aliasAbsent name)
  | noPrivateKey : IsOfIdentity .noPrivateKey
  | noLeaf : IsOfIdentity .noLeaf
  | keyMismatch : IsOfIdentity .keyMismatch

theorem enabledVersions_eq_failure {names : NameSet} {failure : Failure}
    (h : enabledVersions names = .error (.failure failure)) :
    (∃ name, failure = .invalidVersion name) ∨ failure = .startup .noVersion := by
  rw [enabledVersions] at h
  split at h
  · cases h
    exact .inl ⟨_, rfl⟩
  · split at h
    · cases h
      exact .inr rfl
    · cases h

/-- The suites fail over the whole text that they are in, or are refused by the engine. -/
theorem chooseSuites_eq_failure {engine : Engine} {suites : Option String}
    {versions : List Version} {failure : Failure}
    (h : (chooseSuites engine suites versions).outcome = .error (.failure failure)) :
    failure = .engine ∨ ∃ text, suites = some text ∧
      (failure = .startup (.noSuite text) ∨ failure = .startup (.noVersionForSuites text)) := by
  cases suites with
  | none => cases h
  | some text =>
      rcases Traced.outcome_bind_eq_failure.mp h with h | ⟨sorted, -, h⟩
      · rw [sortSuites] at h
        split at h <;> cases h
      · split at h
        · cases h
          exact .inr ⟨text, rfl, .inl rfl⟩
        · dsimp only at h
          split at h
          · cases h
            exact .inl rfl
          · rcases Traced.outcome_bind_eq_failure.mp h with h | ⟨-, -, h⟩
            · cases h
            · split at h
              · cases h
                exact .inr ⟨text, rfl, .inr rfl⟩
              · cases h

namespace KeyStore

variable {ε ε' α : Type}

theorem succeeds_ne_failure {outcome : Outcome ε α} {failure : ε'} :
    (succeeds outcome : Outcome ε' Bool) ≠ .error (.failure failure) := by
  rcases outcome with (_ | _) | _ <;> simp [succeeds, Outcome.cutShort]

/-- A password that does not open a store is no failure, but the wrong one. -/
theorem verifyPassword_ne_failure {engine : Engine} {store : KeyStore} {password : Secret}
    {failure : ε} :
    (store.verifyPassword engine password : Outcome ε Bool) ≠ .error (.failure failure) := by
  intro h
  rw [verifyPassword] at h
  split at h
  · exact succeeds_ne_failure h
  · exact succeeds_ne_failure h
  · cases h

end KeyStore

namespace HostConfig

variable {engine : Engine} {machine : Machine} {loader : Loader} {host : HostConfig}

theorem checkTrustPassword_ne_failure {store : KeyStore} {failure : Failure} :
    (host.checkTrustPassword engine store).outcome ≠ .error (.failure failure) := by
  intro h
  rw [checkTrustPassword] at h
  split at h
  · cases h
  · next password set =>
      rcases Traced.outcome_bind_eq_failure.mp h with h | ⟨verified, -, h⟩
      · exact KeyStore.verifyPassword_ne_failure h
      · split at h <;> cases h

/-- A trust store that cannot be had or opened is no failure. -/
theorem trustMaterial_ne_failure {failure : Failure} :
    (host.trustMaterial engine machine loader).outcome ≠ .error (.failure failure) := by
  intro h
  rw [trustMaterial] at h
  split at h
  · rcases Traced.outcome_bind_eq_failure.mp h with h | ⟨-, -, h⟩
    · exact checkTrustPassword_ne_failure h
    · cases h
  · rw [platformTrust] at h
    split at h
    · cases h
    · split at h <;> cases h

theorem anchors_eq_failure {failure : Failure}
    (h : (host.anchors engine machine loader).outcome = .error (.failure failure)) :
    failure = .engine := by
  rcases Traced.outcome_bind_eq_failure.mp h with h | ⟨store, -, h⟩
  · exact absurd h trustMaterial_ne_failure
  · split at h
    · cases h
    · cases h
      rfl

theorem startFailed_not_mem_anchors {address : Address} {failure : Failure} :
    .startFailed address failure ∉ (host.anchors engine machine loader).events := by
  intro logged
  rcases Traced.mem_events_bind.mp logged with logged | ⟨store, -, logged⟩
  · rw [trustMaterial] at logged
    split at logged
    · rcases Traced.mem_events_bind.mp logged with logged | ⟨-, -, logged⟩
      · rw [checkTrustPassword] at logged
        split at logged
        · cases logged
        · rcases Traced.mem_events_bind.mp logged with logged | ⟨verified, -, logged⟩
          · cases logged
          · split at logged
            · cases logged
            · simp [Traced.emit, Traced.log] at logged
      · cases logged
    · rw [platformTrust] at logged
      split at logged
      · cases logged
      · split at logged
        · cases logged
        · simp at logged
        · cases logged
  · split at logged <;> cases logged

end HostConfig

namespace ServerContext

variable {engine : Engine} {machine : Machine} {loader : Loader} {host : HostConfig}
variable {failure : Failure}

/-- The making of a context fails in one of its stages, once those before it have succeeded. -/
inductive FailsWith (engine : Engine) (machine : Machine) (loader : Loader) (host : HostConfig)
    (failure : Failure) : Prop where
  | versions (refused : enabledVersions host.enabledProtocols = .error (.failure failure))
  | suites {enabled : List Version}
      (parsed : enabledVersions host.enabledProtocols = .ok enabled)
      (refused : (chooseSuites engine host.ciphers enabled).outcome = .error (.failure failure))
  | range {enabled versions : List Version} {lists : SuiteLists}
      (parsed : enabledVersions host.enabledProtocols = .ok enabled)
      (chosen : (chooseSuites engine host.ciphers enabled).outcome = .ok (lists, versions))
      (refused : VersionRange.ofVersions versions = .error (.failure failure))
  | identity {enabled versions : List Version} {lists : SuiteLists} {range : VersionRange}
      (parsed : enabledVersions host.enabledProtocols = .ok enabled)
      (chosen : (chooseSuites engine host.ciphers enabled).outcome = .ok (lists, versions))
      (ranged : VersionRange.ofVersions versions = .ok range)
      (refused : ServerIdentity.ofHost engine lists.classic host = .error (.failure failure))
  | anchors {enabled versions : List Version} {lists : SuiteLists} {range : VersionRange}
      {identity : ServerIdentity}
      (parsed : enabledVersions host.enabledProtocols = .ok enabled)
      (chosen : (chooseSuites engine host.ciphers enabled).outcome = .ok (lists, versions))
      (ranged : VersionRange.ofVersions versions = .ok range)
      (identified : ServerIdentity.ofHost engine lists.classic host = .ok identity)
      (refused : (host.anchors engine machine loader).outcome = .error (.failure failure))

theorem failsWith_of_ofHost
    (h : (ofHost engine machine loader host).outcome = .error (.failure failure)) :
    FailsWith engine machine loader host failure := by
  rcases Traced.outcome_bind_eq_failure.mp h with refused | ⟨enabled, parsed, h⟩
  · exact .versions refused
  rcases Traced.outcome_bind_eq_failure.mp h with refused | ⟨⟨lists, versions⟩, chosen, h⟩
  · exact .suites parsed refused
  rcases Traced.outcome_bind_eq_failure.mp h with refused | ⟨range, ranged, h⟩
  · exact .range parsed chosen refused
  rcases Traced.outcome_bind_eq_failure.mp h with refused | ⟨identity, identified, h⟩
  · exact .identity parsed chosen ranged refused
  rcases Traced.outcome_bind_eq_failure.mp h with refused | ⟨anchors, -, h⟩
  · exact .anchors parsed chosen ranged identified refused
  · cases h

/-- A failure over the identity comes from nowhere else. -/
theorem FailsWith.of_identity {cause : StartupCause}
    (h : FailsWith engine machine loader host (.startup cause)) (identity : cause.IsOfIdentity) :
    ∃ list, ServerIdentity.ofHost engine list host = .error (.failure (.startup cause)) := by
  cases h with
  | versions refused =>
      rcases enabledVersions_eq_failure refused with ⟨name, other⟩ | other
      · cases other
      · cases other
        cases identity
  | suites _ refused =>
      rcases chooseSuites_eq_failure refused with other | ⟨text, -, other | other⟩
      · cases other
      · cases other
        cases identity
      · cases other
        cases identity
  | range _ _ refused =>
      obtain ⟨-, ⟨⟩⟩ := Outcome.ofOption_eq_failure.mp refused
      cases identity
  | identity _ _ _ refused => exact ⟨_, refused⟩
  | anchors _ _ _ _ refused => cases HostConfig.anchors_eq_failure refused

/-- The making of a context does not tell that a start has failed, whatever else it logs. -/
theorem startFailed_not_mem_events {address : Address} :
    .startFailed address failure ∉ (ofHost engine machine loader host).events := by
  rw [ofHost_eq_unanchored]
  intro logged
  rcases Traced.mem_events_bind.mp logged with logged | ⟨context, -, logged⟩
  · cases isRestriction_of_mem_unanchored logged
  rcases Traced.mem_events_bind.mp logged with logged | ⟨anchors, -, logged⟩
  · exact HostConfig.startFailed_not_mem_anchors logged
  · cases logged

end ServerContext

end TlsListener
