import TlsListener.Proofs.Store.Loading

/-!
# Passwords that cannot be handed over

A password is handed to the engine when a protected container is opened with it, and a NUL character
in it cuts the attempt short. The rules here tell for each way of opening or checking a store
exactly when that happens. A provider that an application registers may be cut short for reasons of
its own.
-/

namespace TlsListener

namespace KeyStore

variable {ε : Type} {engine : Engine} {store : KeyStore} {bytes : ByteArray}

theorem succeeds_eq_cutShort {ε' α : Type} {outcome : Outcome ε α} :
    (succeeds outcome : Outcome ε' Bool) = .error .cutShort ↔ outcome = .error .cutShort := by
  rcases outcome with (_ | _) | _ <;> simp [succeeds, Outcome.cutShort]

theorem openArchive_eq_cutShort {password : String} :
    openArchive engine bytes password = .error .cutShort ↔
      (engine.archive bytes).isSome ∧ isPassable password = false := by
  rw [openArchive]
  cases engine.archive bytes with
  | none => simp
  | some openWith => cases isPassable password <;> simp [Outcome.cutShort]

theorem openText_eq_cutShort {password : String} :
    openText engine bytes password = .error .cutShort ↔ isPassable password = false := by
  rw [openText]
  cases isPassable password <;> simp [Outcome.cutShort]

/-- Whether a password has to be tried on a store in order to be checked. -/
def isTried (engine : Engine) (store : KeyStore) : Bool :=
  match store.protection with
  | .archive bytes => (engine.archive bytes).isSome
  | .encryptedText _ => true
  | .unchecked => false

theorem verifyPassword_eq_cutShort {password : Secret} :
    (store.verifyPassword engine password : Outcome ε Bool) = .error .cutShort ↔
      store.isTried engine = true ∧ isPassable password.expose = false := by
  rw [verifyPassword, isTried]
  cases store.protection with
  | archive bytes => rw [succeeds_eq_cutShort, openArchive_eq_cutShort]
  | encryptedText bytes => rw [succeeds_eq_cutShort, openText_eq_cutShort]; simp
  | unchecked => simp

theorem ofArchive_eq_cutShort {password : Option Secret} {provider : String} :
    ofArchive engine bytes password provider = .error .cutShort ↔
      (engine.archive bytes).isSome ∧ isPassable (passwordText password) = false := by
  rw [ofArchive, Outcome.bind_eq_cutShort, openArchive_eq_cutShort, or_iff_left_iff_imp]
  rintro ⟨contents, -, cut⟩
  rcases Outcome.bind_eq_cutShort.mp cut with cut | ⟨entries, -, cut⟩
  · exact absurd cut Outcome.mapError_ne_cutShort
  · cases cut

theorem textKey_eq_cutShort {password : Option Secret} :
    textKey engine bytes password = .error .cutShort ↔
      marksEncryption bytes = true ∧ isPassable (passwordText password) = false := by
  rw [textKey]
  split
  · next encrypted =>
      rw [Outcome.bind_eq_cutShort, openText_eq_cutShort]
      simp [encrypted, pure, Except.pure]
  · next plain =>
      split
      · rw [Outcome.bind_eq_cutShort]
        simp [plain, pure, Except.pure]
      · simp [plain, pure, Except.pure]

theorem ofText_eq_cutShort {password : Option Secret} {provider : String} :
    ofText engine bytes password provider = .error .cutShort ↔
      (engine.certificates bytes).isSome ∧ marksEncryption bytes = true ∧
        isPassable (passwordText password) = false := by
  rw [ofText, Outcome.bind_eq_cutShort]
  constructor
  · rintro (cut | ⟨certificates, read, cut⟩)
    · exact absurd cut Outcome.ofOption_ne_cutShort
    · rw [Outcome.ofOption_eq_ok] at read
      rcases Outcome.bind_eq_cutShort.mp cut with cut | ⟨key, -, cut⟩
      · exact ⟨by rw [read]; rfl, textKey_eq_cutShort.mp cut⟩
      · rcases Outcome.bind_eq_cutShort.mp cut with cut | ⟨entries, -, cut⟩
        · exact absurd cut Outcome.mapError_ne_cutShort
        · cases cut
  · rintro ⟨read, cut⟩
    obtain ⟨certificates, read⟩ := Option.isSome_iff_exists.mp read
    exact .inr ⟨certificates, Outcome.ofOption_eq_ok.mpr read,
      Outcome.bind_eq_cutShort.mpr (.inl (textKey_eq_cutShort.mpr cut))⟩

end KeyStore

namespace Provider

variable {engine : Engine} {type : StoreType} {input : Option ByteArray} {password : Option Secret}

/-- The provider that is built in tries a password on the contents of a file: on an archive always,
on a PEM text if it tells that its private key is encrypted. -/
inductive AsksPassword (engine : Engine) (bytes : ByteArray) : StoreType → Prop where
  | archive (archive : (engine.archive bytes).isSome) : AsksPassword engine bytes .pkcs12
  | text (certificates : (engine.certificates bytes).isSome)
      (encrypted : KeyStore.marksEncryption bytes = true) : AsksPassword engine bytes .pem

theorem builtIn_load_eq_cutShort :
    (builtIn engine).load type input password = .error .cutShort ↔
      ∃ bytes, input = some bytes ∧ AsksPassword engine bytes type ∧
        isPassable (KeyStore.passwordText password) = false := by
  constructor
  · intro cut
    cases input with
    | none => exact absurd cut Outcome.fail_ne_cutShort
    | some bytes =>
        refine ⟨bytes, rfl, ?_⟩
        cases type with
        | pkcs12 =>
            obtain ⟨archive, nul⟩ := KeyStore.ofArchive_eq_cutShort.mp cut
            exact ⟨.archive archive, nul⟩
        | pem =>
            obtain ⟨certificates, encrypted, nul⟩ := KeyStore.ofText_eq_cutShort.mp cut
            exact ⟨.text certificates encrypted, nul⟩
        | _ => exact absurd cut Outcome.fail_ne_cutShort
  · rintro ⟨bytes, rfl, asks, nul⟩
    cases asks with
    | archive archive => exact KeyStore.ofArchive_eq_cutShort.mpr ⟨archive, nul⟩
    | text certificates encrypted =>
        exact KeyStore.ofText_eq_cutShort.mpr ⟨certificates, encrypted, nul⟩

/-- A provider makes a store or tells why not. -/
def Answers (provider : Provider) : Prop :=
  ∀ type input password, provider.load type input password ≠ .error .cutShort

/-- Only a NUL character in the password cuts a provider short. A provider that always answers is of
this kind too. -/
def StopsOnlyAtNul (provider : Provider) : Prop :=
  ∀ type input password, provider.load type input password = .error .cutShort →
    isPassable (KeyStore.passwordText password) = false

theorem stopsOnlyAtNul_builtIn (engine : Engine) : (builtIn engine).StopsOnlyAtNul := by
  intro type input password cut
  obtain ⟨bytes, -, -, nul⟩ := builtIn_load_eq_cutShort.mp cut
  exact nul

end Provider

namespace Loader

variable {loader : Loader} {machine : Machine} {role : StoreRole} {location : Option String}
variable {password : Option Secret} {type : StoreType} {provider : Option String}

/-- Only NUL characters in passwords cut the loading of a store short. -/
def StopsOnlyAtNul (loader : Loader) : Prop :=
  ∀ provider ∈ loader.registry.providers, provider.StopsOnlyAtNul

theorem stopsOnlyAtNul_default (engine : Engine) : (default engine).StopsOnlyAtNul := by
  intro provider member
  obtain rfl := Registry.mem_default.mp member
  exact Provider.stopsOnlyAtNul_builtIn engine

theorem StopsOnlyAtNul.load_ne_cutShort (h : loader.StopsOnlyAtNul)
    (passable : isPassable (KeyStore.passwordText password) = true) :
    loader.load machine role location password type provider ≠ .error .cutShort := by
  intro cut
  obtain ⟨chosen, input, selected, -, cut⟩ := load_eq_cutShort.mp cut
  cases passable.symm.trans (h chosen (Registry.mem_of_select selected) _ _ _ cut)

/-- Every provider of a loader answers, unless it is the one that is built in. -/
def IsReliable (engine : Engine) (loader : Loader) : Prop :=
  ∀ provider ∈ loader.registry.providers, provider = .builtIn engine ∨ provider.Answers

theorem isReliable_default (engine : Engine) : (default engine).IsReliable engine :=
  fun _ member => .inl (Registry.mem_default.mp member)

/-- A loader hands a password with a NUL character to the engine: the store is one for the provider
that is built in, and its file asks for a password. -/
structure HandsNul (engine : Engine) (machine : Machine) (loader : Loader)
    (location : Option String) (password : Option Secret) (type : StoreType)
    (provider : Option String) : Prop where
  selected : loader.registry.select type provider = .ok (.builtIn engine)
  asked : ∃ path bytes, location.filter isLocation = some path ∧
    readStoreFile machine path = .ok bytes ∧ Provider.AsksPassword engine bytes type
  nul : isPassable (KeyStore.passwordText password) = false

/-- Nothing else cuts the loading of a store short, if the providers can be relied on. -/
theorem IsReliable.cutShort_iff_handsNul {engine : Engine} (reliable : loader.IsReliable engine) :
    loader.load machine role location password type provider = .error .cutShort ↔
      HandsNul engine machine loader location password type provider := by
  rw [load_eq_cutShort]
  constructor
  · rintro ⟨chosen, input, selected, given, cut⟩
    rcases reliable chosen (Registry.mem_of_select selected) with rfl | answers
    · obtain ⟨bytes, rfl, asks, nul⟩ := Provider.builtIn_load_eq_cutShort.mp cut
      cases given with
      | contents _ located read => exact ⟨selected, ⟨_, bytes, located, read, asks⟩, nul⟩
    · exact absurd cut (answers _ _ _)
  · rintro ⟨selected, ⟨path, bytes, located, read, asks⟩, nul⟩
    have software : type.isHardware = false := by cases asks <;> rfl
    refine ⟨_, some bytes, selected, .contents software located read, ?_⟩
    exact Provider.builtIn_load_eq_cutShort.mpr ⟨bytes, rfl, asks, nul⟩

end Loader

end TlsListener
