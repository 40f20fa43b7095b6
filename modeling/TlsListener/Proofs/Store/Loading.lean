import TlsListener.Proofs.Traced
import TlsListener.Store.Loader

/-!
# What a provider is given

A loader reads the file of a store, chooses a provider, and leaves the rest to it. What the provider
is given depends on the type and the location only: nothing for a hardware store, and otherwise the
contents of the file. So a store is loaded, or its loading is cut short, exactly as the provider
does with what it is given.
-/

namespace TlsListener

namespace Registry

/-- The provider that is selected is a registered one. -/
theorem mem_of_select {registry : Registry} {type : StoreType} {name : Option String}
    {provider : Provider} (h : registry.select type name = .ok provider) :
    provider ∈ registry.providers := by
  unfold select at h
  split at h
  · split at h
    · cases h
    · next found =>
        split at h
        · cases h
          exact List.mem_of_find?_eq_some found
        · cases h
  · split at h
    · next found =>
        cases h
        exact List.mem_of_find?_eq_some found
    · split at h <;> cases h

theorem mem_default {engine : Engine} {provider : Provider} :
    provider ∈ (default engine).providers ↔ provider = .builtIn engine := by
  simp [default, register, empty]

end Registry

namespace Loader

variable {loader : Loader} {machine : Machine} {role : StoreRole} {location : Option String}
variable {password : Option Secret} {type : StoreType} {provider : Option String}

/-- What a provider is given for a store: nothing for a hardware store, and otherwise the contents
of the file at its location. -/
inductive Given (machine : Machine) (location : Option String) (type : StoreType) :
    Option ByteArray → Prop where
  | nothing (hardware : type.isHardware = true) (unlocated : location.any isLocation = false) :
      Given machine location type none
  | contents {path : String} {bytes : ByteArray} (software : type.isHardware = false)
      (located : location.filter isLocation = some path)
      (read : readStoreFile machine path = .ok bytes) :
      Given machine location type (some bytes)

/-- Once it is known what the provider is given, nothing is left of loading but its answer. -/
theorem load_of_given {input : Option ByteArray} (given : Given machine location type input) :
    loader.load machine role location password type provider =
      Outcome.mapFailure (Failure.storeLoad role location) do
        return ⟨← loader.fromProvider input password type provider, none⟩ := by
  cases given with
  | nothing hardware unlocated => rw [load, if_pos hardware, if_neg (by simp [unlocated])]
  | contents software located read =>
      rw [load, if_neg (by simp [software]), located]
      simp only [read]
      rfl

/-- Without anything to give to a provider, loading fails, whatever the password. -/
theorem exists_failure_of_not_given (h : ¬∃ input, Given machine location type input) :
    ∃ failure, ∀ password, loader.load machine role location password type provider =
      .error (.failure failure) := by
  cases hardware : type.isHardware with
  | true =>
      cases unlocated : location.any isLocation with
      | true => exact ⟨_, fun _ => by rw [load, if_pos hardware, if_pos unlocated]; rfl⟩
      | false => exact absurd ⟨none, .nothing hardware unlocated⟩ h
  | false =>
      have software : ¬type.isHardware = true := by simp [hardware]
      cases located : location.filter isLocation with
      | none => exact ⟨_, fun _ => by rw [load, if_neg software, located]; rfl⟩
      | some path =>
          cases read : readStoreFile machine path with
          | error failure =>
              refine ⟨.storeLoad role location failure, fun _ => ?_⟩
              rw [load, if_neg software, located]
              simp only [read]
              rfl
          | ok bytes => exact absurd ⟨some bytes, .contents hardware located read⟩ h

theorem exists_given (unfailed : ∀ failure,
      loader.load machine role location password type provider ≠ .error (.failure failure)) :
    ∃ input, Given machine location type input := by
  refine Classical.byContradiction fun h => ?_
  obtain ⟨failure, failed⟩ := exists_failure_of_not_given h
  exact unfailed failure (failed password)

theorem fromProvider_eq_ok {input : Option ByteArray} {store : KeyStore} :
    loader.fromProvider input password type provider = .ok store ↔
      ∃ chosen, loader.registry.select type provider = .ok chosen ∧
        chosen.load type input password = .ok store := by
  rw [fromProvider, Outcome.bind_eq_ok]
  simp only [Outcome.mapError_eq_ok]

theorem fromProvider_eq_cutShort {input : Option ByteArray} :
    loader.fromProvider input password type provider = .error .cutShort ↔
      ∃ chosen, loader.registry.select type provider = .ok chosen ∧
        chosen.load type input password = .error .cutShort := by
  rw [fromProvider, Outcome.bind_eq_cutShort]
  simp only [Outcome.mapError_ne_cutShort, Outcome.mapError_eq_ok, false_or]

/-- A store that was loaded is one that the provider has made. -/
theorem exists_of_load_eq_ok {handle : StoreHandle}
    (h : loader.load machine role location password type provider = .ok handle) :
    ∃ chosen input, loader.registry.select type provider = .ok chosen ∧
      Given machine location type input ∧
      chosen.load type input password = .ok handle.store := by
  obtain ⟨input, given⟩ := exists_given fun failure failed => by cases h.symm.trans failed
  rw [load_of_given given, Outcome.mapFailure_eq_ok] at h
  obtain ⟨store, made, h⟩ := Outcome.bind_eq_ok.mp h
  cases h
  obtain ⟨chosen, selected, made⟩ := fromProvider_eq_ok.mp made
  exact ⟨chosen, input, selected, given, made⟩

/-- Loading fails over the location of a hardware store, which has none, or with an account of the
store that could not be loaded. -/
theorem load_eq_failure {failure : Failure}
    (h : loader.load machine role location password type provider = .error (.failure failure)) :
    (type.isHardware = true ∧ failure = .invalidConfiguration (.locationOfHardware type)) ∨
      ∃ source, failure = .storeLoad role location source := by
  rw [load] at h
  split at h
  · next hardware =>
      split at h
      · cases h
        exact .inl ⟨hardware, rfl⟩
      · obtain ⟨source, -, rfl⟩ := Outcome.mapFailure_eq_failure.mp h
        exact .inr ⟨source, rfl⟩
  · split at h <;>
      · obtain ⟨source, -, rfl⟩ := Outcome.mapFailure_eq_failure.mp h
        exact .inr ⟨source, rfl⟩

/-- Loading is cut short exactly if the provider is. -/
theorem load_eq_cutShort :
    loader.load machine role location password type provider = .error .cutShort ↔
      ∃ chosen input, loader.registry.select type provider = .ok chosen ∧
        Given machine location type input ∧
        chosen.load type input password = .error .cutShort := by
  constructor
  · intro h
    obtain ⟨input, given⟩ := exists_given fun failure failed => by cases h.symm.trans failed
    rw [load_of_given given, Outcome.mapFailure_eq_cutShort, Outcome.bind_eq_cutShort] at h
    rcases h with cut | ⟨store, -, cut⟩
    · obtain ⟨chosen, selected, cut⟩ := fromProvider_eq_cutShort.mp cut
      exact ⟨chosen, input, selected, given, cut⟩
    · cases cut
  · rintro ⟨chosen, input, selected, given, cut⟩
    rw [load_of_given given, Outcome.mapFailure_eq_cutShort, Outcome.bind_eq_cutShort]
    exact .inl (fromProvider_eq_cutShort.mpr ⟨chosen, selected, cut⟩)

end Loader

end TlsListener
