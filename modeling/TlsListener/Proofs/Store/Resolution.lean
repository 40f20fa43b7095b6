import TlsListener.Proofs.Store.Loading
import TlsListener.Store.Resolution

/-!
# What a resolution depends on

Stores are resolved in three steps: the key store, the trust store, and the alias that is asked for.
A store that was handed over stands where a store would have been loaded, and what is declared of
the latter plays no part any more. The two roles are not treated alike: a key store that was handed
over also shuts out the trust store that is declared, so that nothing is loaded at all, while a
trust store that was handed over leaves the key store to be loaded as declared.

A step that fails ends the resolution with its failure, before any later step is taken. The
passwords are not looked at by any step but the loading, and are carried on as they are declared,
each in the place of the other if that one is missing.
-/

namespace TlsListener

namespace Settings

/-- The password of the private key falls back to the one that the key store is opened with. -/
theorem privateKeyPassword_eq (settings : Settings) :
    settings.privateKeyPassword = (settings.keyPassword <|> settings.keyStorePassword) := by
  rw [privateKeyPassword, keyStorePassword]
  cases settings.keyPassword <;> cases settings.keyStore.password <;> rfl

/-- As long as one of the two passwords is declared there is none missing. -/
theorem keyStorePassword_eq_none {settings : Settings} :
    settings.keyStorePassword = none ↔ settings.privateKeyPassword = none := by
  rw [privateKeyPassword, keyStorePassword]
  cases settings.keyPassword <;> cases settings.keyStore.password <;> simp

end Settings

namespace Loader

variable {loader : Loader} {machine : Machine} {settings : Settings} {material : Option Material}
variable {store : StoreHandle}

theorem checkAlias_eq_error {store : KeyStore} {name : Option String} {stop : Stop Failure} :
    checkAlias store name = .error stop ↔ ∃ absent, name = some absent ∧
      store.findPrivateKey? (some absent) = none ∧
      stop = .failure (.invalidConfiguration (.aliasAbsent absent)) := by
  cases name with
  | none => simp [checkAlias]
  | some name =>
      rw [checkAlias]
      cases found : store.findPrivateKey? (some name) with
      | none => simp [Outcome.fail, found, eq_comm]
      | some entry => simp [found]

/-- The steps of a resolution that ends with some stores. -/
structure Resolves (loader : Loader) (machine : Machine) (settings : Settings)
    (material : Option Material) (stores : ResolvedStores) : Prop where
  key : loader.resolveKey machine settings (material.bind Material.keyStore) =
    .ok (stores.keyStore, stores.keyStoreSource)
  trust : loader.resolveTrust machine settings stores.keyStoreSource
    (material.bind Material.trustStore) =
      .ok (stores.trustStore, stores.trustStoreSource, stores.trustStorePassword)
  checked : checkAlias stores.keyStore.store settings.keyAlias = .ok ()
  keyStorePassword : stores.keyStorePassword = settings.keyStorePassword
  keyPassword : stores.keyPassword = settings.privateKeyPassword
  keyAlias : stores.keyAlias = settings.keyAlias

/-- A resolution ends with some stores exactly if every step does. -/
theorem resolve_eq_ok {stores : ResolvedStores} :
    loader.resolve machine settings material = .ok stores ↔
      loader.Resolves machine settings material stores := by
  constructor
  · intro h
    obtain ⟨⟨keyStore, keySource⟩, key, h⟩ := Outcome.bind_eq_ok.mp h
    obtain ⟨⟨trustStore, trustSource, password⟩, trust, h⟩ := Outcome.bind_eq_ok.mp h
    obtain ⟨⟨⟩, checked, h⟩ := Outcome.bind_eq_ok.mp h
    cases h
    exact ⟨key, trust, checked, rfl, rfl, rfl⟩
  · rintro ⟨key, trust, checked, keyStorePassword, keyPassword, keyAlias⟩
    refine Outcome.bind_eq_ok.mpr ⟨_, key, ?_⟩
    refine Outcome.bind_eq_ok.mpr ⟨_, trust, ?_⟩
    refine Outcome.bind_eq_ok.mpr ⟨(), checked, ?_⟩
    rw [← keyStorePassword, ← keyPassword, ← keyAlias]
    rfl

/-- With a key store that was handed over, all that is left of a resolution is the check of the
alias. -/
theorem resolve_of_keyStore (handed : material.bind Material.keyStore = some store) :
    loader.resolve machine settings material = do
      checkAlias store.store settings.keyAlias
      return {
        keyStore := store
        keyStoreSource := .external
        keyStorePassword := settings.keyStorePassword
        keyPassword := settings.privateKeyPassword
        keyAlias := settings.keyAlias
        trustStore := material.bind Material.trustStore
        trustStoreSource :=
          if (material.bind Material.trustStore).isSome then .external else .platformDefault
        trustStorePassword := none } := by
  rw [resolve, handed]
  cases material.bind Material.trustStore <;> rfl

/-- With a trust store that was handed over, nothing is read of the one that is declared. -/
theorem resolve_of_trustStore (handed : material.bind Material.trustStore = some store)
    (declared : StoreDescriptor) :
    loader.resolve machine { settings with trustStore := declared } material =
      loader.resolve machine settings material := by
  rw [resolve, resolve, handed]
  rfl

theorem resolveKey_eq_ok {external : Option StoreHandle} {source : StoreSource} :
    loader.resolveKey machine settings external = .ok (store, source) ↔
      (external = some store ∧ source = .external) ∨
      (external = none ∧ source = .configured ∧
        loader.load machine .key settings.keyStore.location settings.keyStorePassword
          settings.keyStore.type settings.keyStore.provider = .ok store) := by
  cases external with
  | some handed => simp [resolveKey, eq_comm]
  | none =>
      rw [resolveKey, Outcome.bind_eq_ok]
      constructor
      · rintro ⟨loaded, load, ⟨⟩⟩
        exact .inr ⟨rfl, rfl, load⟩
      · rintro (⟨⟨⟩, -⟩ | ⟨-, rfl, load⟩)
        exact ⟨store, load, rfl⟩

theorem resolveKey_eq_error {external : Option StoreHandle} {stop : Stop Failure} :
    loader.resolveKey machine settings external = .error stop ↔
      external = none ∧ loader.load machine .key settings.keyStore.location
        settings.keyStorePassword settings.keyStore.type settings.keyStore.provider =
          .error stop := by
  cases external with
  | some store => simp [resolveKey]
  | none =>
      rw [resolveKey, Outcome.bind_eq_error]
      simp [pure, Except.pure]

theorem resolveTrust_eq_error {external : Option StoreHandle} {source : StoreSource}
    {stop : Stop Failure} :
    loader.resolveTrust machine settings source external = .error stop ↔
      external = none ∧ source ≠ .external ∧ ∃ location,
        settings.trustStore.location = some location ∧
        loader.load machine .trust (some location) settings.trustStore.password
          settings.trustStore.type settings.trustStore.provider = .error stop := by
  cases external with
  | some store => simp [resolveTrust]
  | none =>
      rw [resolveTrust]
      by_cases handed : source = .external
      · simp [handed]
      · rw [if_neg handed]
        cases settings.trustStore.location with
        | none => simp
        | some location =>
            dsimp only
            rw [Outcome.bind_eq_error]
            simp [handed, pure, Except.pure]

/-- The step at which a resolution stops, and how. Each step is only come to if those before it
have ended with a store. -/
inductive StopsResolving (loader : Loader) (machine : Machine) (settings : Settings)
    (material : Option Material) : Stop Failure → Prop where
  | key {stop : Stop Failure} (unheld : material.bind Material.keyStore = none)
      (stopped : loader.load machine .key settings.keyStore.location settings.keyStorePassword
        settings.keyStore.type settings.keyStore.provider = .error stop) :
      StopsResolving loader machine settings material stop
  | trust {keyStore : StoreHandle} {location : String} {stop : Stop Failure}
      (unheld : material.bind Material.keyStore = none)
      (loaded : loader.load machine .key settings.keyStore.location settings.keyStorePassword
        settings.keyStore.type settings.keyStore.provider = .ok keyStore)
      (untrusted : material.bind Material.trustStore = none)
      (declared : settings.trustStore.location = some location)
      (stopped : loader.load machine .trust (some location) settings.trustStore.password
        settings.trustStore.type settings.trustStore.provider = .error stop) :
      StopsResolving loader machine settings material stop
  | aliasAbsent {keyStore : StoreHandle} {source : StoreSource} {absent : String}
      {trust : Option StoreHandle × StoreSource × Option Secret}
      (key : loader.resolveKey machine settings (material.bind Material.keyStore) =
        .ok (keyStore, source))
      (trusted : loader.resolveTrust machine settings source
        (material.bind Material.trustStore) = .ok trust)
      (asked : settings.keyAlias = some absent)
      (missing : keyStore.store.findPrivateKey? (some absent) = none) :
      StopsResolving loader machine settings material
        (.failure (.invalidConfiguration (.aliasAbsent absent)))

/-- A resolution stops exactly as one of its steps does. -/
theorem resolve_eq_error {stop : Stop Failure} :
    loader.resolve machine settings material = .error stop ↔
      loader.StopsResolving machine settings material stop := by
  constructor
  · intro h
    rcases Outcome.bind_eq_error.mp h with stopped | ⟨⟨keyStore, source⟩, key, h⟩
    · obtain ⟨unheld, stopped⟩ := resolveKey_eq_error.mp stopped
      exact .key unheld stopped
    rcases Outcome.bind_eq_error.mp h with stopped | ⟨trust, trusted, h⟩
    · obtain ⟨untrusted, inside, location, declared, stopped⟩ := resolveTrust_eq_error.mp stopped
      rcases resolveKey_eq_ok.mp key with ⟨-, outside⟩ | ⟨unheld, -, loaded⟩
      · exact absurd outside inside
      · exact .trust unheld loaded untrusted declared stopped
    rcases Outcome.bind_eq_error.mp h with failed | ⟨-, -, h⟩
    · obtain ⟨absent, asked, missing, rfl⟩ := checkAlias_eq_error.mp failed
      exact .aliasAbsent key trusted asked missing
    · cases h
  · intro h
    cases h with
    | key unheld stopped =>
        exact Outcome.bind_eq_error.mpr (.inl (resolveKey_eq_error.mpr ⟨unheld, stopped⟩))
    | trust unheld loaded untrusted declared stopped =>
        have key := resolveKey_eq_ok.mpr (.inr ⟨unheld, rfl, loaded⟩)
        refine Outcome.bind_eq_error.mpr (.inr ⟨_, key, ?_⟩)
        refine Outcome.bind_eq_error.mpr (.inl ?_)
        exact resolveTrust_eq_error.mpr ⟨untrusted, by simp, _, declared, stopped⟩
    | aliasAbsent key trusted asked missing =>
        refine Outcome.bind_eq_error.mpr (.inr ⟨_, key, ?_⟩)
        refine Outcome.bind_eq_error.mpr (.inr ⟨_, trusted, ?_⟩)
        refine Outcome.bind_eq_error.mpr (.inl ?_)
        exact checkAlias_eq_error.mpr ⟨_, asked, missing, rfl⟩

/-- Where no key store was handed over, the one that is resolved was loaded, with the password that
goes on with it. -/
theorem Resolves.loaded {stores : ResolvedStores}
    (h : loader.Resolves machine settings material stores)
    (unheld : material.bind Material.keyStore = none) :
    loader.load machine .key settings.keyStore.location stores.keyStorePassword
      settings.keyStore.type settings.keyStore.provider = .ok stores.keyStore := by
  rw [h.keyStorePassword]
  rcases resolveKey_eq_ok.mp h.key with ⟨held, -⟩ | ⟨-, -, loaded⟩
  · cases unheld.symm.trans held
  · exact loaded

/-- A resolution reads what its precedence leaves in play, and nothing else. -/
structure ReadsInPlay (loader : Loader) (machine : Machine) (settings : Settings)
    (material : Option Material) : Prop where
  /-- With a key store that was handed over nothing is loaded: there may be any files, any
  providers, and anything declared of the two stores but the password of the key store. -/
  keyHeld : ∀ {store}, material.bind Material.keyStore = some store →
    ∀ (loader' : Loader) (machine' : Machine) (location : Option String) (type : StoreType)
      (provider : Option String) (trustStore : StoreDescriptor),
      loader'.resolve machine'
          { settings with
            keyStore := { settings.keyStore with location, type, provider }
            trustStore }
          material =
        loader.resolve machine settings material
  /-- Nothing but the alias can be wrong then. -/
  keyHeld_stopped : ∀ {store}, material.bind Material.keyStore = some store → ∀ {stop},
    loader.resolve machine settings material = .error stop ↔ ∃ absent,
      settings.keyAlias = some absent ∧ store.store.findPrivateKey? (some absent) = none ∧
      stop = .failure (.invalidConfiguration (.aliasAbsent absent))
  /-- With a trust store that was handed over, anything may be declared of the trust store. -/
  trustHeld : ∀ {store}, material.bind Material.trustStore = some store →
    ∀ trustStore : StoreDescriptor,
      loader.resolve machine { settings with trustStore } material =
        loader.resolve machine settings material
  /-- It comes without a password. -/
  trustHeld_password : ∀ {store}, material.bind Material.trustStore = some store → ∀ {stores},
    loader.resolve machine settings material = .ok stores →
      stores.trustStore = some store ∧ stores.trustStorePassword = none
  /-- Where nothing was handed over it makes no difference whether anything could have been. -/
  unheld : material.bind Material.keyStore = none → material.bind Material.trustStore = none →
    loader.resolve machine settings material = loader.resolve machine settings none
  /-- A key store that cannot be loaded ends the resolution, whatever there is for trust. -/
  keyStopped : material.bind Material.keyStore = none → ∀ {stop},
    loader.load machine .key settings.keyStore.location settings.keyStorePassword
      settings.keyStore.type settings.keyStore.provider = .error stop →
    loader.resolve machine settings material = .error stop
  /-- A trust store that cannot be loaded ends the resolution next, whatever the alias. -/
  trustStopped : material.bind Material.keyStore = none → ∀ {store},
    loader.load machine .key settings.keyStore.location settings.keyStorePassword
      settings.keyStore.type settings.keyStore.provider = .ok store →
    material.bind Material.trustStore = none → ∀ {location},
    settings.trustStore.location = some location → ∀ {stop},
    loader.load machine .trust (some location) settings.trustStore.password
      settings.trustStore.type settings.trustStore.provider = .error stop →
    loader.resolve machine settings material = .error stop
  /-- The password of the key store is the one that it was opened with, and that of the private key
  falls back to it, so that both are missing or none. -/
  opened : material.bind Material.keyStore = none → ∀ {stores},
    loader.resolve machine settings material = .ok stores →
      loader.load machine .key settings.keyStore.location stores.keyStorePassword
        settings.keyStore.type settings.keyStore.provider = .ok stores.keyStore ∧
      stores.keyPassword = (settings.keyPassword <|> stores.keyStorePassword) ∧
      (stores.keyStorePassword = none ↔ stores.keyPassword = none)

/-- Whatever is declared and whatever was handed over, a resolution reads only what is in play. -/
theorem readsInPlay (loader : Loader) (machine : Machine) (settings : Settings)
    (material : Option Material) : loader.ReadsInPlay machine settings material where
  keyHeld handed _ _ _ _ _ _ := by
    rw [resolve_of_keyStore handed, resolve_of_keyStore handed]
    rfl
  keyHeld_stopped handed stop := by
    rw [resolve_of_keyStore handed, Outcome.bind_eq_error, checkAlias_eq_error]
    simp [pure, Except.pure]
  trustHeld handed := resolve_of_trustStore handed
  trustHeld_password handed stores h := by
    have trust := (resolve_eq_ok.mp h).trust
    rw [handed, resolveTrust] at trust
    obtain ⟨same, rest⟩ := Prod.mk.inj (Except.ok.inj trust)
    exact ⟨same.symm, (Prod.mk.inj rest).2.symm⟩
  unheld key trust := by
    rw [resolve, resolve, key, trust]
    rfl
  keyStopped unheld _ stopped := resolve_eq_error.mpr (.key unheld stopped)
  trustStopped unheld _ loaded untrusted _ declared _ stopped :=
    resolve_eq_error.mpr (.trust unheld loaded untrusted declared stopped)
  opened unheld stores h := by
    have resolves := resolve_eq_ok.mp h
    refine ⟨resolves.loaded unheld, ?_, ?_⟩
    · rw [resolves.keyPassword, resolves.keyStorePassword, settings.privateKeyPassword_eq]
    · rw [resolves.keyPassword, resolves.keyStorePassword, Settings.keyStorePassword_eq_none]

end Loader

end TlsListener
