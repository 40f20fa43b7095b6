import TlsListener.Proofs.Store.Location

/-!
# How loading a store is decided

A store is loaded by rules that apply in order. What the type and the location say comes first, then
the file, then the choice of a provider, and last the provider. So the first fault decides, and what
stands later does not count: without a readable file of an allowed size no provider is looked for,
and a hardware store is loaded without a look at any file.

The rules meet in what a provider receives. It is settled by the type, the location and the files
alone, and if it is anything at all then the provider that is selected is asked with just that.
-/

namespace TlsListener

namespace Failure

/-- A failure told for a role. It is another one only if it tells which store was not loaded. -/
def forRole (role : StoreRole) : Failure → Failure
  | storeLoad _ location source => storeLoad role location source
  | other => other

end Failure

namespace Loader

/-- What a provider receives: nothing for a hardware store, and otherwise the whole file that the
location names. -/
inductive Receives (machine : Machine) (location : Option String) (type : StoreType) :
    Option ByteArray → Prop where
  | nothing (hardware : type.isHardware = true) (unlocated : ∀ text, ¬Located location text) :
      Receives machine location type none
  | contents {text name : String} {bytes : ByteArray} (software : type.isHardware = false)
      (located : Located location text) (named : NamesFile text name)
      (read : machine.read name = .ok bytes) (allowed : bytes.size ≤ 4000000) :
      Receives machine location type (some bytes)

/-- What a provider makes of what it is handed, as the answer to one who loads a store. -/
def answer (chosen : Provider) (role : StoreRole) (location : Option String)
    (password : Option Secret) (type : StoreType) (input : Option ByteArray) :
    Outcome Failure StoreHandle :=
  (chosen.load type input password).mapFailure (Failure.storeLoad role location) >>= fun store =>
    .ok ⟨store, none⟩

/-- How the loading of a store ends, with one rule for everything that can decide it. -/
inductive LoadEnds (loader : Loader) (machine : Machine) (role : StoreRole)
    (location : Option String) (password : Option Secret) (type : StoreType)
    (provider : Option String) : Outcome Failure StoreHandle → Prop where
  | misplaced {text : String} (hardware : type.isHardware = true)
      (located : Located location text) :
      LoadEnds loader machine role location password type provider
        (.fail (.invalidConfiguration (.locationOfHardware type)))
  | unlocated (software : type.isHardware = false) (unlocated : ∀ text, ¬Located location text) :
      LoadEnds loader machine role location password type provider
        (.fail (.storeLoad role location .missingLocation))
  | unreadable {text name : String} {failure : IoFailure} (software : type.isHardware = false)
      (located : Located location text) (named : NamesFile text name)
      (unread : machine.read name = .error failure) :
      LoadEnds loader machine role location password type provider
        (.fail (.storeLoad role location (.io failure)))
  | oversized {text name : String} {bytes : ByteArray} (software : type.isHardware = false)
      (located : Located location text) (named : NamesFile text name)
      (read : machine.read name = .ok bytes) (excess : 4000000 < bytes.size) :
      LoadEnds loader machine role location password type provider
        (.fail (.storeLoad role location (.tooLarge 4000000)))
  | unselected {input : Option ByteArray} {failure : StoreFailure}
      (received : Receives machine location type input)
      (refused : loader.registry.select type provider = .error failure) :
      LoadEnds loader machine role location password type provider
        (.fail (.storeLoad role location failure))
  | answered {input : Option ByteArray} {chosen : Provider}
      (received : Receives machine location type input)
      (selected : loader.registry.select type provider = .ok chosen) :
      LoadEnds loader machine role location password type provider
        (answer chosen role location password type input)

variable {loader : Loader} {machine : Machine} {role : StoreRole} {location : Option String}
variable {password : Option Secret} {type : StoreType} {provider : Option String}
variable {input : Option ByteArray}

theorem receives_iff_given : Receives machine location type input ↔
    Given machine location type input := by
  constructor
  · intro received
    cases received with
    | nothing hardware unlocated =>
        refine .nothing hardware (Bool.eq_false_iff.mpr fun located => ?_)
        obtain ⟨text, located⟩ := any_isLocation.mp located
        exact unlocated text located
    | contents software located named read allowed =>
        cases namesFile_iff.mp named
        exact .contents software (filter_isLocation_eq_some.mpr located)
          (readStoreFile_eq_ok.mpr ⟨read, allowed⟩)
  · intro given
    cases given with
    | nothing hardware unlocated =>
        refine .nothing hardware fun text located => ?_
        cases unlocated.symm.trans (any_isLocation.mpr ⟨text, located⟩)
    | @contents path bytes software located read =>
        obtain ⟨read, allowed⟩ := readStoreFile_eq_ok.mp read
        exact .contents software (filter_isLocation_eq_some.mp located) (namesFile_fileName path)
          read allowed

/-- The provider that is selected answers to what it receives. -/
theorem load_of_selected {chosen : Provider} (received : Receives machine location type input)
    (selected : loader.registry.select type provider = .ok chosen) :
    loader.load machine role location password type provider =
      answer chosen role location password type input := by
  rw [load_of_given (receives_iff_given.mp received), fromProvider, selected, answer]
  change Outcome.mapFailure _ (chosen.load type input password >>= _) = _
  rcases chosen.load type input password with (_ | _) | _ <;> rfl

theorem load_of_unselected {failure : StoreFailure}
    (received : Receives machine location type input)
    (refused : loader.registry.select type provider = .error failure) :
    loader.load machine role location password type provider =
      .fail (.storeLoad role location failure) := by
  rw [load_of_given (receives_iff_given.mp received), fromProvider, refused]
  rfl

/-- A file that cannot be used decides before any provider. -/
theorem load_of_unread {text : String} {failure : StoreFailure}
    (software : type.isHardware = false) (located : Located location text)
    (unread : readStoreFile machine text = .error failure) :
    loader.load machine role location password type provider =
      .fail (.storeLoad role location failure) := by
  rw [load, if_neg (by simp [software]), filter_isLocation_eq_some.mpr located]
  simp only [unread]
  rfl

/-- Loading ends as any rule says that applies, so no two rules contradict each other. -/
theorem LoadEnds.eq {outcome : Outcome Failure StoreHandle}
    (h : LoadEnds loader machine role location password type provider outcome) :
    loader.load machine role location password type provider = outcome := by
  cases h with
  | misplaced hardware located =>
      rw [load, if_pos hardware, if_pos (any_isLocation.mpr ⟨_, located⟩)]
  | unlocated software unlocated =>
      have filtered : location.filter isLocation = none :=
        Option.eq_none_iff_forall_ne_some.mpr fun text located =>
          unlocated text (filter_isLocation_eq_some.mp located)
      rw [load, if_neg (by simp [software]), filtered]
      rfl
  | unreadable software located named unread =>
      cases namesFile_iff.mp named
      exact load_of_unread software located (readStoreFile_of_error unread)
  | oversized software located named read excess =>
      cases namesFile_iff.mp named
      refine load_of_unread software located ?_
      rw [readStoreFile_of_ok read]
      exact if_pos excess
  | unselected received refused => exact load_of_unselected received refused
  | answered received selected => exact load_of_selected received selected

/-- Once something is received, the registry and its provider decide. -/
theorem exists_loadEnds_of_receives (received : Receives machine location type input) :
    ∃ outcome, LoadEnds loader machine role location password type provider outcome := by
  cases selected : loader.registry.select type provider with
  | error failure => exact ⟨_, .unselected received selected⟩
  | ok chosen => exact ⟨_, .answered received selected⟩

/-- Some rule always applies. -/
theorem exists_loadEnds :
    ∃ outcome, LoadEnds loader machine role location password type provider outcome := by
  by_cases located : ∃ text, Located location text
  · obtain ⟨text, located⟩ := located
    cases hardware : type.isHardware with
    | true => exact ⟨_, .misplaced hardware located⟩
    | false =>
        have named := namesFile_fileName text
        cases read : machine.read (fileName text) with
        | error failure => exact ⟨_, .unreadable hardware located named read⟩
        | ok bytes =>
            by_cases allowed : bytes.size ≤ 4000000
            · exact exists_loadEnds_of_receives (.contents hardware located named read allowed)
            · exact ⟨_, .oversized hardware located named read (Nat.not_le.mp allowed)⟩
  · rw [not_exists] at located
    cases hardware : type.isHardware with
    | true => exact exists_loadEnds_of_receives (.nothing hardware located)
    | false => exact ⟨_, .unlocated hardware located⟩

theorem load_eq_iff {outcome : Outcome Failure StoreHandle} :
    loader.load machine role location password type provider = outcome ↔
      LoadEnds loader machine role location password type provider outcome := by
  constructor
  · rintro rfl
    obtain ⟨outcome, ended⟩ := exists_loadEnds
    rwa [ended.eq]
  · exact LoadEnds.eq

/-- How what a provider was handed can be told from a store. -/
def kept (input : Option ByteArray) : Protection.Kept :=
  input.elim .unchecked .archive

theorem kept_injective {input' : Option ByteArray} (h : kept input = kept input') :
    input = input' := by
  cases input <;> cases input' <;> cases h <;> rfl

/-- A provider of every type that keeps what it is handed. -/
def keeping (name : String) : Provider where
  name := name
  supports _ := true
  load type input _ := .ok { KeyStore.new type name with protection := kept input }

/-- A registry with such a provider alone selects it, by its name and without. -/
theorem select_keeping (provider : Option String) :
    Registry.select ⟨[keeping (provider.getD "")]⟩ type provider =
      .ok (keeping (provider.getD "")) := by
  cases provider <;> simp [Registry.select, Registry.get?, keeping]

/-- Whichever loader it is and whichever provider it selects, the answer is the one that this
provider has to an input. -/
def Hands (machine : Machine) (location : Option String) (password : Option Secret)
    (type : StoreType) (provider : Option String) (input : Option ByteArray) : Prop :=
  ∀ (loader : Loader) (chosen : Provider) (role : StoreRole),
    loader.registry.select type provider = .ok chosen →
      loader.load machine role location password type provider =
        answer chosen role location password type input

/-- Providers are handed what they receive. One that keeps it would tell anything else. -/
theorem hands_iff :
    Hands machine location password type provider input ↔ Receives machine location type input := by
  constructor
  · intro handed
    have loaded := handed ⟨⟨_⟩⟩ _ .key (select_keeping provider)
    obtain ⟨chosen, input', selected, given, made⟩ := exists_of_load_eq_ok loaded
    cases selected.symm.trans (select_keeping provider)
    have same : input' = input := kept_injective (congrArg KeyStore.protection (Except.ok.inj made))
    rw [← same]
    exact receives_iff_given.mpr given
  · intro received loader chosen role selected
    exact load_of_selected received selected

theorem answer_eq_failure {chosen : Provider} {failure : Failure}
    (h : answer chosen role location password type input = .error (.failure failure)) :
    ∃ source, failure = .storeLoad role location source := by
  rcases Outcome.bind_eq_error.mp h with failed | ⟨store, -, failed⟩
  · obtain ⟨source, -, rfl⟩ := Outcome.mapFailure_eq_failure.mp failed
    exact ⟨source, rfl⟩
  · cases failed

/-- The rules are the same for all roles, which matter only to what a failure tells. -/
theorem LoadEnds.forRole {outcome : Outcome Failure StoreHandle} (role' : StoreRole)
    (h : LoadEnds loader machine role location password type provider outcome) :
    LoadEnds loader machine role' location password type provider
      (outcome.mapFailure (Failure.forRole role')) := by
  cases h with
  | misplaced hardware located => exact .misplaced hardware located
  | unlocated software unlocated => exact .unlocated software unlocated
  | unreadable software located named unread => exact .unreadable software located named unread
  | oversized software located named read excess =>
      exact .oversized software located named read excess
  | unselected received refused => exact .unselected received refused
  | @answered input chosen received selected =>
      have told : (answer chosen role location password type input).mapFailure
          (Failure.forRole role') = answer chosen role' location password type input := by
        rw [answer, answer]
        rcases chosen.load type input password with (_ | _) | _ <;> rfl
      rw [told]
      exact .answered received selected

/-- Only two rules look at the providers, and both do so for what is received. -/
theorem LoadEnds.unprovided {outcome : Outcome Failure StoreHandle} {loader' : Loader}
    {password' : Option Secret} {provider' : Option String}
    (h : LoadEnds loader machine role location password type provider outcome)
    (unreceived : ∀ input, ¬Receives machine location type input) :
    LoadEnds loader' machine role location password' type provider' outcome := by
  cases h with
  | misplaced hardware located => exact .misplaced hardware located
  | unlocated software unlocated => exact .unlocated software unlocated
  | unreadable software located named unread => exact .unreadable software located named unread
  | oversized software located named read excess =>
      exact .oversized software located named read excess
  | unselected received _ => exact absurd received (unreceived _)
  | answered received _ => exact absurd received (unreceived _)

theorem LoadEnds.told {outcome : Outcome Failure StoreHandle} {failure : Failure}
    (h : LoadEnds loader machine role location password type provider outcome)
    (failed : outcome = .error (.failure failure)) :
    (type.isHardware = true ∧ (∃ text, Located location text) ∧
        failure = .invalidConfiguration (.locationOfHardware type)) ∨
      ∃ source, failure = .storeLoad role location source := by
  cases h with
  | misplaced hardware located =>
      cases failed
      exact .inl ⟨hardware, ⟨_, located⟩, rfl⟩
  | answered received selected => exact .inr (answer_eq_failure failed)
  | _ =>
      cases failed
      exact .inr ⟨_, rfl⟩

/-- What is known of the loading of a store, down to what cannot matter to it. -/
structure Decides (loader : Loader) (machine : Machine) (location : Option String)
    (password : Option Secret) (type : StoreType) (provider : Option String) : Prop where
  /-- It ends as the rules say. -/
  ruled : ∀ {role outcome}, loader.load machine role location password type provider = outcome ↔
    LoadEnds loader machine role location password type provider outcome
  /-- No file matters to a hardware store. -/
  fileless : type.isHardware = true → ∀ {role} (machine' : Machine),
    loader.load machine' role location password type provider =
      loader.load machine role location password type provider
  /-- Where nothing can be received, no provider matters, and neither does a password. -/
  unprovided : (∀ input, ¬Receives machine location type input) → ∀ {role} (loader' : Loader)
    password' provider', loader'.load machine role location password' type provider' =
      loader.load machine role location password type provider
  /-- The provider that is selected is handed what is received, and that alone. -/
  handed : ∀ {input}, Hands machine location password type provider input ↔
    Receives machine location type input
  /-- A failure tells which store could not be loaded from where, unless it is that a hardware store
  was given a location. -/
  told : ∀ {role failure},
    loader.load machine role location password type provider = .error (.failure failure) →
      (type.isHardware = true ∧ (∃ text, Located location text) ∧
        failure = .invalidConfiguration (.locationOfHardware type)) ∨
      ∃ source, failure = .storeLoad role location source ∧
        failure.message =
          "Could not load " ++ role.name ++ " store '" ++ location.getD "null" ++ "'" ∧
        failure.sourceMessage? = some source.message
  /-- Key and trust stores are loaded by the same rules. -/
  alike : ∀ {role role'}, loader.load machine role' location password type provider =
    (loader.load machine role location password type provider).mapFailure
      (Failure.forRole role')

/-- A store is loaded by the rules, whatever there is to load it with and from. -/
theorem decides : Decides loader machine location password type provider where
  ruled := load_eq_iff
  fileless := by
    intro hardware role machine'
    rw [load, if_pos hardware, load, if_pos hardware]
  unprovided := by
    intro unreceived role loader' password' provider'
    exact ((load_eq_iff.mp rfl).unprovided unreceived).eq
  handed := hands_iff
  told := by
    intro role failure failed
    rcases (load_eq_iff.mp rfl).told failed with refused | ⟨source, rfl⟩
    · exact .inl refused
    · exact .inr ⟨source, rfl, rfl, rfl⟩
  alike := (LoadEnds.forRole _ (load_eq_iff.mp rfl)).eq

end Loader

end TlsListener
