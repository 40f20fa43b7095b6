import TlsListener.Proofs.Context.Basic

/-!
# The warning about a trust password

Where the making of a context warns of a trust password that was refused, there is one place only
that can have logged it: the check of the host's own trust store against the password that the host
has for it. What is logged before the anchors are made are restrictions, and the trust store of the
platform is not checked again after it has been loaded.
-/

namespace TlsListener

namespace HostConfig

variable {engine : Engine} {machine : Machine} {loader : Loader} {host : HostConfig}

/-- A host has a trust store of its own that refuses the password which the host has for it. -/
structure RefusesTrustPassword (engine : Engine) (host : HostConfig) (store : StoreHandle)
    (password : Secret) : Prop where
  own : host.trustStore = some store
  set : host.trustPassword = some password
  refused : (store.store.verifyPassword engine password : Outcome Failure Bool) = .ok false

theorem mem_events_checkTrustPassword {store : KeyStore} :
    .trustPasswordRefused ∈ (host.checkTrustPassword engine store).events ↔
      ∃ password, host.trustPassword = some password ∧
        (store.verifyPassword engine password : Outcome Failure Bool) = .ok false := by
  rw [checkTrustPassword]
  cases host.trustPassword with
  | none => simp [Traced.value]
  | some password =>
      rw [Traced.mem_events_bind]
      constructor
      · rintro (logged | ⟨verified, checked, logged⟩)
        · cases logged
        · refine ⟨password, rfl, ?_⟩
          cases verified with
          | true => cases logged
          | false => exact checked
      · rintro ⟨_, ⟨⟩, refused⟩
        exact .inr ⟨false, refused, by simp [Traced.emit, Traced.log]⟩

theorem not_mem_events_platformTrust :
    .trustPasswordRefused ∉ (host.platformTrust machine loader).events := by
  rw [platformTrust]
  split
  · simp [Traced.value]
  · split <;> simp [Traced.value, Traced.ofOutcome]

theorem mem_events_trustMaterial :
    .trustPasswordRefused ∈ (host.trustMaterial engine machine loader).events ↔
      ∃ store password, host.RefusesTrustPassword engine store password := by
  rw [trustMaterial]
  split
  · next store own =>
      rw [Traced.mem_events_bind, mem_events_checkTrustPassword]
      constructor
      · rintro (⟨password, set, refused⟩ | ⟨-, -, logged⟩)
        · exact ⟨store, password, own, set, refused⟩
        · cases logged
      · rintro ⟨store', password, own', set, refused⟩
        cases own.symm.trans own'
        exact .inl ⟨password, set, refused⟩
  · next unset =>
      refine iff_of_false not_mem_events_platformTrust ?_
      rintro ⟨store, password, own, -, -⟩
      cases unset.symm.trans own

/-- The anchors of a host are made with the warning exactly if the host's trust store refuses the
password. -/
theorem mem_events_anchors :
    .trustPasswordRefused ∈ (host.anchors engine machine loader).events ↔
      ∃ store password, host.RefusesTrustPassword engine store password := by
  rw [anchors, Traced.mem_events_bind, mem_events_trustMaterial, or_iff_left_iff_imp]
  rintro ⟨store, -, logged⟩
  split at logged <;> cases logged

end HostConfig

/-- A context is made with the warning only if the host's trust store refuses the password. -/
theorem ServerContext.refusesTrustPassword_of_mem_events {engine : Engine} {machine : Machine}
    {loader : Loader} {host : HostConfig}
    (logged : .trustPasswordRefused ∈ (ofHost engine machine loader host).events) :
    ∃ store password, host.RefusesTrustPassword engine store password := by
  rw [ofHost_eq_unanchored] at logged
  rcases Traced.mem_events_bind.mp logged with logged | ⟨context, -, logged⟩
  · cases isRestriction_of_mem_unanchored logged
  rcases Traced.mem_events_bind.mp logged with logged | ⟨anchors, -, logged⟩
  · exact HostConfig.mem_events_anchors.mp logged
  · cases logged

end TlsListener
