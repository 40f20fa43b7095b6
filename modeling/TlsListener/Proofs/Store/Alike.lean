import TlsListener.Proofs.Host.Redaction
import TlsListener.Proofs.Store.Resolution

/-!
# Stores that are loaded alike

Settings that differ in nothing but the texts of their passwords resolve to the same stores, or fail
in the same way, as long as nobody who is asked to open a store answers differently to the one text
and to the other. Only providers are asked, each for one store. What comes out of a resolution then
differs at most in the passwords that it carries on, and there as little as the settings do.

Nothing is asked for a store that was handed over, and nothing for a trust store unless the key
store has been loaded before it.
-/

namespace TlsListener.Loader

variable {loader : Loader} {machine : Machine} {role : StoreRole} {location : Option String}
variable {type : StoreType} {provider : Option String} {password password' : Option Secret}
variable {settings settings' : Settings} {material : Option Material}

/-- The provider that is asked for a store answers the same to two passwords. -/
def AnswersAlike (loader : Loader) (machine : Machine) (location : Option String) (type : StoreType)
    (provider : Option String) (password password' : Option Secret) : Prop :=
  ∀ ⦃chosen input⦄, loader.registry.select type provider = .ok chosen →
    Given machine location type input →
      chosen.load type input password = chosen.load type input password'

/-- Loading reads a password in the answer of the provider only. -/
theorem load_congr (alike : loader.AnswersAlike machine location type provider password password') :
    loader.load machine role location password type provider =
      loader.load machine role location password' type provider := by
  have asked {input : Option ByteArray} (given : Given machine location type input) :
      loader.fromProvider input password type provider =
        loader.fromProvider input password' type provider := by
    rw [fromProvider, fromProvider]
    cases selected : loader.registry.select type provider with
    | error failure => rfl
    | ok chosen => exact alike selected given
  by_cases given : ∃ input, Given machine location type input
  · obtain ⟨input, given⟩ := given
    rw [load_of_given given, load_of_given given, asked given]
  · obtain ⟨failure, failed⟩ := exists_failure_of_not_given given
    rw [failed, failed]

/-- All that is loaded in a resolution is loaded alike with the passwords of other settings. -/
structure ResolvesAlike (loader : Loader) (machine : Machine) (material : Option Material)
    (settings settings' : Settings) : Prop where
  key : material.bind Material.keyStore = none →
    loader.AnswersAlike machine settings.keyStore.location settings.keyStore.type
      settings.keyStore.provider settings.keyStorePassword settings'.keyStorePassword
  trust : ∀ {store}, material.bind Material.keyStore = none →
    loader.load machine .key settings.keyStore.location settings.keyStorePassword
      settings.keyStore.type settings.keyStore.provider = .ok store →
    material.bind Material.trustStore = none → settings.trustStore.location ≠ none →
    loader.AnswersAlike machine settings.trustStore.location settings.trustStore.type
      settings.trustStore.provider settings.trustStore.password settings'.trustStore.password

theorem load_descriptor_congr {descriptor descriptor' : StoreDescriptor}
    (same : descriptor.redact = descriptor'.redact)
    (alike : loader.AnswersAlike machine descriptor.location descriptor.type descriptor.provider
      password password') :
    loader.load machine role descriptor.location password descriptor.type descriptor.provider =
      loader.load machine role descriptor'.location password' descriptor'.type
        descriptor'.provider := by
  obtain ⟨location, -, type, provider⟩ := StoreDescriptor.redact_inj.mp same
  rw [load_congr alike, location, type, provider]

theorem resolveKey_congr (same : settings.redact = settings'.redact)
    (alike : loader.ResolvesAlike machine material settings settings') :
    loader.resolveKey machine settings (material.bind Material.keyStore) =
      loader.resolveKey machine settings' (material.bind Material.keyStore) := by
  cases held : material.bind Material.keyStore with
  | some store => rfl
  | none =>
      obtain ⟨-, declared, -⟩ := Settings.redact_inj.mp same
      rw [resolveKey, resolveKey, load_descriptor_congr declared (alike.key held)]

/-- What is resolved for trust differs in the password that is carried on. -/
theorem resolveTrust_congr {store : StoreHandle} {source : StoreSource}
    (same : settings.redact = settings'.redact)
    (alike : loader.ResolvesAlike machine material settings settings')
    (key : loader.resolveKey machine settings (material.bind Material.keyStore) =
      .ok (store, source)) :
    (loader.resolveTrust machine settings source (material.bind Material.trustStore)).map
        (Prod.map id (Prod.map id Secret.redact)) =
      (loader.resolveTrust machine settings' source (material.bind Material.trustStore)).map
        (Prod.map id (Prod.map id Secret.redact)) := by
  cases held : material.bind Material.trustStore with
  | some trust => rfl
  | none =>
      rcases resolveKey_eq_ok.mp key with ⟨-, rfl⟩ | ⟨unheld, rfl, loaded⟩
      · rfl
      · obtain ⟨-, -, -, -, declared, -⟩ := Settings.redact_inj.mp same
        obtain ⟨location, password, -, -⟩ := StoreDescriptor.redact_inj.mp declared
        rw [resolveTrust, resolveTrust, ← location]
        cases located : settings.trustStore.location with
        | none => rfl
        | some path =>
            have trust : loader.load machine .trust settings.trustStore.location
                  settings.trustStore.password settings.trustStore.type
                  settings.trustStore.provider =
                loader.load machine .trust settings'.trustStore.location
                  settings'.trustStore.password settings'.trustStore.type
                  settings'.trustStore.provider :=
              load_descriptor_congr declared
                (alike.trust unheld loaded held (by simp [located]))
            rw [← location, located] at trust
            refine Outcome.map_bind_congr (congrArg (Except.map id) trust) ?_
            rintro store _ - - ⟨⟩
            exact congrArg (fun p => Except.ok (some store, StoreSource.configured, p)) password

/-- What differs between two resolutions is the passwords that they carry on. -/
theorem resolve_congr (same : settings.redact = settings'.redact)
    (alike : loader.ResolvesAlike machine material settings settings') :
    (loader.resolve machine settings material).map ResolvedStores.redact =
      (loader.resolve machine settings' material).map ResolvedStores.redact := by
  -- the passwords are carried past the steps, so each step is seen without them
  have key := resolveKey_congr same alike
  refine Outcome.map_bind_congr (congrArg (Except.map id) key) ?_
  rintro ⟨keyStore, source⟩ _ key - ⟨⟩
  refine Outcome.map_bind_congr (resolveTrust_congr same alike key) ?_
  rintro ⟨trustStore, trustSource, password⟩ ⟨_, _, password'⟩ - - trust
  obtain ⟨rfl, rest⟩ := Prod.mk.inj trust
  obtain ⟨rfl, carried⟩ := Prod.mk.inj rest
  obtain ⟨-, -, -, asked, -⟩ := Settings.redact_inj.mp same
  have keyStorePassword :
      Secret.redact settings.keyStorePassword = Secret.redact settings'.keyStorePassword := by
    rw [← Settings.keyStorePassword_redact, same, Settings.keyStorePassword_redact]
  have keyPassword :
      Secret.redact settings.privateKeyPassword = Secret.redact settings'.privateKeyPassword := by
    rw [← Settings.privateKeyPassword_redact, same, Settings.privateKeyPassword_redact]
  dsimp only
  rw [asked]
  refine Outcome.map_bind_congr (f := id) rfl fun _ _ _ => ?_
  simp [Except.map, pure, Except.pure, ResolvedStores.redact, keyStorePassword, keyPassword,
    carried]

end TlsListener.Loader
