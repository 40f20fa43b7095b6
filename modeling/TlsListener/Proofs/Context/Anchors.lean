import TlsListener.Context.Anchors
import TlsListener.Proofs.Store.Passwords

/-!
# The anchors of a host

A host that has a trust store of its own verifies clients against that store, and every other host
against the platform's. The platform's trust store may be missing or may fail to load; then there
are no anchors, and the host is none the worse for it.

The two relations below say which certificates these are. Each holds of one list only, and it is the
list that goes into a context. The other end of the module is when there is no such list at all,
because a password could not be handed to the engine.
-/

namespace TlsListener

/-- Whether a platform names a trust store: by a file, or by a type that needs none. -/
def PlatformDefaults.namesTrust (platform : PlatformDefaults) : Bool :=
  platform.trustFile.isSome || platform.trustType.isHardware

/-- The certificates of the trust store that a platform names. There are none if it names no trust
store, or one that cannot be loaded. -/
inductive PlatformAnchors (machine : Machine) (loader : Loader) (platform : PlatformDefaults) :
    List Certificate → Prop where
  | unnamed (unnamed : platform.namesTrust = false) :
      PlatformAnchors machine loader platform []
  | unavailable {failure : Failure} (named : platform.namesTrust = true)
      (failed : loader.load machine .trust platform.trustFile platform.trustPassword
        platform.trustType none = .fail failure) :
      PlatformAnchors machine loader platform []
  | loaded {store : StoreHandle} (named : platform.namesTrust = true)
      (loaded : loader.load machine .trust platform.trustFile platform.trustPassword
        platform.trustType none = .ok store) :
      PlatformAnchors machine loader platform store.store.trustedCertificates

theorem PlatformAnchors.unique {machine : Machine} {loader : Loader} {platform : PlatformDefaults}
    {anchors others : List Certificate} (h : PlatformAnchors machine loader platform anchors)
    (h' : PlatformAnchors machine loader platform others) : anchors = others := by
  cases h with
  | unnamed unnamed =>
      cases h' with
      | unnamed => rfl
      | unavailable => rfl
      | loaded named => cases unnamed.symm.trans named
  | unavailable named failed =>
      cases h' with
      | unnamed => rfl
      | unavailable => rfl
      | loaded _ loaded => cases failed.symm.trans loaded
  | loaded named loaded =>
      cases h' with
      | unnamed unnamed => cases unnamed.symm.trans named
      | unavailable _ failed => cases failed.symm.trans loaded
      | loaded _ loaded' =>
          cases loaded.symm.trans loaded'
          rfl

namespace HostConfig

variable {engine : Engine} {machine : Machine} {loader : Loader} {host : HostConfig}

/-- What a host has for trust: a store of its own, and what it says of the platform's. -/
def trust (host : HostConfig) : Option StoreHandle × PlatformDefaults :=
  (host.trustStore, ⟨host.trustFile, host.trustType, host.trustPassword⟩)

/-- The certificates that the clients of a host are verified against. -/
inductive Anchored (machine : Machine) (loader : Loader) (host : HostConfig) :
    List Certificate → Prop where
  | own {store : StoreHandle} {platform : PlatformDefaults}
      (own : host.trust = (some store, platform)) :
      Anchored machine loader host store.store.trustedCertificates
  | platform {platform : PlatformDefaults} {anchors : List Certificate}
      (unset : host.trust = (none, platform))
      (anchored : PlatformAnchors machine loader platform anchors) :
      Anchored machine loader host anchors

theorem platformAnchors_of_platformTrust {store : Option StoreHandle}
    (h : (host.platformTrust machine loader).outcome = .ok store) :
    PlatformAnchors machine loader host.trust.2 (anchorsOf store) := by
  rw [platformTrust] at h
  split at h
  · next unnamed =>
      have unnamed : host.hasPlatformTrust = false := by simpa using unnamed
      cases h
      exact .unnamed unnamed
  · next named =>
      have named : host.hasPlatformTrust = true := by simpa using named
      split at h
      · next loaded =>
          cases h
          exact .loaded named loaded
      · next failed =>
          cases h
          exact .unavailable named failed
      · cases h

theorem anchored_of_trustMaterial {store : Option StoreHandle}
    (material : (host.trustMaterial engine machine loader).outcome = .ok store) :
    host.Anchored machine loader (anchorsOf store) := by
  rw [trustMaterial] at material
  split at material
  · next own own_eq =>
      obtain ⟨-, -, rest⟩ := Traced.outcome_bind_eq_ok.mp material
      cases rest
      exact .own (by rw [trust, own_eq])
  · next unset =>
      exact .platform (by rw [trust, unset]) (platformAnchors_of_platformTrust material)

/-- What goes into a context are the anchors of the host. -/
theorem anchored_of_anchors {anchors : List Certificate}
    (h : (host.anchors engine machine loader).outcome = .ok anchors) :
    host.Anchored machine loader anchors := by
  obtain ⟨store, material, accepted⟩ := Traced.outcome_bind_eq_ok.mp h
  have same : anchors = anchorsOf store := by
    split at accepted <;> cases accepted
    rfl
  subst same
  exact anchored_of_trustMaterial material

/-- A host has one list of anchors only. -/
theorem Anchored.unique {anchors others : List Certificate}
    (h : host.Anchored machine loader anchors) (h' : host.Anchored machine loader others) :
    anchors = others := by
  cases h with
  | own own =>
      cases h' with
      | own own' =>
          cases own.symm.trans own'
          rfl
      | platform unset => cases own.symm.trans unset
  | platform unset anchored =>
      cases h' with
      | own own => cases unset.symm.trans own
      | platform unset' anchored' =>
          cases unset.symm.trans unset'
          exact anchored.unique anchored'

/-- Making the anchors of a host is cut short: by the password of its own trust store when it is
checked, or by the loading of the platform's. -/
inductive TrustCutShort (engine : Engine) (machine : Machine) (loader : Loader)
    (host : HostConfig) : Prop where
  | checking {store : StoreHandle} {password : Secret} (own : host.trustStore = some store)
      (set : host.trustPassword = some password) (tried : store.store.isTried engine = true)
      (nul : isPassable password.expose = false)
  | loading (unset : host.trustStore = none) (named : host.hasPlatformTrust = true)
      (cut : loader.load machine .trust host.trustFile host.trustPassword host.trustType none =
        .error .cutShort)

theorem checkTrustPassword_eq_cutShort {store : KeyStore} :
    (host.checkTrustPassword engine store).outcome = .error .cutShort ↔
      ∃ password, host.trustPassword = some password ∧ store.isTried engine = true ∧
        isPassable password.expose = false := by
  rw [checkTrustPassword]
  cases host.trustPassword with
  | none => simp
  | some password =>
      rw [Traced.outcome_bind_eq_cutShort]
      constructor
      · rintro (cut | ⟨verified, -, cut⟩)
        · exact ⟨password, rfl, KeyStore.verifyPassword_eq_cutShort.mp cut⟩
        · split at cut <;> cases cut
      · rintro ⟨_, ⟨⟩, cut⟩
        exact .inl (KeyStore.verifyPassword_eq_cutShort.mpr cut)

theorem platformTrust_eq_cutShort :
    (host.platformTrust machine loader).outcome = .error .cutShort ↔
      host.hasPlatformTrust = true ∧
        loader.load machine .trust host.trustFile host.trustPassword host.trustType none =
          .error .cutShort := by
  rw [platformTrust]
  split
  · next unnamed => simp_all
  · next named =>
      split
      · next loaded => simp [loaded]
      · next failed => simp [failed]
      · next cut => simp_all [Outcome.cutShort]

theorem trustMaterial_eq_cutShort :
    (host.trustMaterial engine machine loader).outcome = .error .cutShort ↔
      host.TrustCutShort engine machine loader := by
  rw [trustMaterial]
  split
  · next store own =>
      rw [Traced.outcome_bind_eq_cutShort, checkTrustPassword_eq_cutShort]
      constructor
      · rintro (⟨password, set, tried, nul⟩ | ⟨-, -, cut⟩)
        · exact .checking own set tried nul
        · cases cut
      · rintro (⟨own', set, tried, nul⟩ | ⟨unset, -, -⟩)
        · cases own.symm.trans own'
          exact .inl ⟨_, set, tried, nul⟩
        · cases own.symm.trans unset
  · next unset =>
      rw [platformTrust_eq_cutShort]
      constructor
      · rintro ⟨named, cut⟩
        exact .loading unset named cut
      · rintro (⟨own, -, -, -⟩ | ⟨-, named, cut⟩)
        · cases unset.symm.trans own
        · exact ⟨named, cut⟩

/-- The engine's verdict on the anchors cuts nothing short. -/
theorem anchors_eq_cutShort :
    (host.anchors engine machine loader).outcome = .error .cutShort ↔
      host.TrustCutShort engine machine loader := by
  rw [anchors, Traced.outcome_bind_eq_cutShort, trustMaterial_eq_cutShort, or_iff_left_iff_imp]
  rintro ⟨store, -, cut⟩
  split at cut <;> cases cut

/-- A trust password without NUL characters cuts nothing short, as long as only these cut the
loading of a store short. -/
theorem not_trustCutShort (loads : loader.StopsOnlyAtNul)
    (passable : isPassable (KeyStore.passwordText host.trustPassword) = true) :
    ¬host.TrustCutShort engine machine loader := by
  rintro (⟨-, set, -, nul⟩ | ⟨-, -, cut⟩)
  · rw [set] at passable
    cases passable.symm.trans nul
  · exact loads.load_ne_cutShort passable cut

end HostConfig

end TlsListener
