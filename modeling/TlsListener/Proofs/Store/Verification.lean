import TlsListener.Proofs.Store.Loading

/-!
# Passwords that open a store

A store that was read from a protected container keeps the container, and a password is checked
against the store by opening the container with it once more. So the password that a store was
loaded with is always found to be the right one. A store that a provider builds entry by entry keeps
nothing, and any password will do for it.
-/

namespace TlsListener

namespace KeyStore

variable {ε : Type} {engine : Engine} {store : KeyStore} {bytes : ByteArray}
variable {password : Secret} {provider : String}

/-- A store that a provider builds itself, entry by entry. -/
inductive Built : KeyStore → Prop where
  | new (type : StoreType) (provider : String) : Built (.new type provider)
  | withEntry {store : KeyStore} (built : Built store) (entry : StoreEntry) :
      Built (store.withEntry entry)

theorem Built.protection (built : store.Built) : store.protection = .unchecked := by
  induction built with
  | new => rfl
  | withEntry _ _ ih => exact ih

theorem verifyPassword_of_unchecked (unchecked : store.protection = .unchecked) :
    (store.verifyPassword engine password : Outcome ε Bool) = .ok true := by
  rw [verifyPassword, unchecked]

/-- The password that an archive was opened with is the right one for the store. -/
theorem verifyPassword_of_ofArchive
    (h : ofArchive engine bytes (some password) provider = .ok store) :
    (store.verifyPassword engine password : Outcome ε Bool) = .ok true := by
  obtain ⟨contents, opened, h⟩ := Outcome.bind_eq_ok.mp h
  obtain ⟨entries, -, h⟩ := Outcome.bind_eq_ok.mp h
  cases h
  have opened : openArchive engine bytes password.expose = .ok contents := opened
  change (succeeds (openArchive engine bytes password.expose) : Outcome ε Bool) = _
  rw [opened, succeeds]

theorem textKey_eq_ok {key : Option PrivateKey} {protection : Protection.Kept}
    (h : textKey engine bytes (some password) = .ok (key, protection)) :
    protection = .unchecked ∨ protection = .encryptedText bytes ∧
      ∃ key, openText engine bytes password.expose = .ok key := by
  rw [textKey] at h
  split at h
  · obtain ⟨key, opened, h⟩ := Outcome.bind_eq_ok.mp h
    cases h
    exact .inr ⟨rfl, key, opened⟩
  · split at h
    · obtain ⟨key, -, h⟩ := Outcome.bind_eq_ok.mp h
      cases h
      exact .inl rfl
    · cases h
      exact .inl rfl

/-- The password that a PEM text was read with is the right one for the store, if it takes any. -/
theorem verifyPassword_of_ofText
    (h : ofText engine bytes (some password) provider = .ok store) :
    (store.verifyPassword engine password : Outcome ε Bool) = .ok true := by
  obtain ⟨certificates, -, h⟩ := Outcome.bind_eq_ok.mp h
  obtain ⟨⟨key, protection⟩, read, h⟩ := Outcome.bind_eq_ok.mp h
  obtain ⟨entries, -, h⟩ := Outcome.bind_eq_ok.mp h
  cases h
  rcases textKey_eq_ok read with rfl | ⟨rfl, key, opened⟩
  · exact verifyPassword_of_unchecked rfl
  · change (succeeds (openText engine bytes password.expose) : Outcome ε Bool) = _
    rw [opened, succeeds]

end KeyStore

namespace Provider

/-- A provider is the one that is built in, or it builds its stores itself. -/
inductive IsPlain (engine : Engine) (provider : Provider) : Prop where
  | builtIn (same : provider = .builtIn engine) : IsPlain engine provider
  | building (built : ∀ {type input password store},
      provider.load type input password = .ok store → store.Built) :
      IsPlain engine provider

variable {ε : Type} {engine : Engine} {provider : Provider} {type : StoreType}
variable {input : Option ByteArray} {password : Secret} {store : KeyStore}

theorem verifyPassword_of_builtIn
    (loaded : (builtIn engine).load type input (some password) = .ok store) :
    (store.verifyPassword engine password : Outcome ε Bool) = .ok true := by
  cases input with
  | none => cases loaded
  | some bytes =>
      cases type with
      | pkcs12 => exact KeyStore.verifyPassword_of_ofArchive loaded
      | pem => exact KeyStore.verifyPassword_of_ofText loaded
      | _ => cases loaded

theorem IsPlain.verifyPassword (plain : provider.IsPlain engine)
    (loaded : provider.load type input (some password) = .ok store) :
    (store.verifyPassword engine password : Outcome ε Bool) = .ok true := by
  cases plain with
  | builtIn same =>
      subst same
      exact verifyPassword_of_builtIn loaded
  | building built => exact KeyStore.verifyPassword_of_unchecked (built loaded).protection

end Provider

namespace Loader

variable {ε : Type} {engine : Engine} {loader : Loader} {machine : Machine} {role : StoreRole}
variable {location : Option String} {type : StoreType} {provider : Option String}
variable {handle : StoreHandle}

/-- All providers of a loader are plain. -/
def IsPlain (engine : Engine) (loader : Loader) : Prop :=
  ∀ provider ∈ loader.registry.providers, provider.IsPlain engine

theorem isPlain_default (engine : Engine) : (default engine).IsPlain engine :=
  fun _ member => .builtIn (Registry.mem_default.mp member)

/-- The password that a store was loaded with is found to be the right one. -/
theorem IsPlain.verifyPassword {password : Secret} (plain : loader.IsPlain engine)
    (loaded : loader.load machine role location (some password) type provider = .ok handle) :
    (handle.store.verifyPassword engine password : Outcome ε Bool) = .ok true := by
  obtain ⟨chosen, input, selected, -, loaded⟩ := exists_of_load_eq_ok loaded
  exact (plain chosen (Registry.mem_of_select selected)).verifyPassword loaded

end Loader

end TlsListener
