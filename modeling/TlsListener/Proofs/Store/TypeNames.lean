import TlsListener.Proofs.Text.UpperCasing
import TlsListener.Store.Loader

/-!
# The names of store types

A type is written under its name and read back from it. The three known types have names of their
own, each of which is its own canonical form; the name of any other type is the text that it was
read from, trimmed. Trimming a second time changes nothing, and the canonical form looks at nothing
but the trimmed text. So the name of a type that was read is read as the same type again, and no
name of another type turns into that of a known one on the way.

Which type a text names decides how a store is loaded, and every failure over a type tells the
type's name, so reading such a name back leads to the same way of loading.
-/

namespace TlsListener

/-- The name of a type of stores that a failure tells. -/
def StoreFailure.typeName? : StoreFailure → Option String
  | unsupportedType type | noProvider type | providerMismatch _ type => some type
  | _ => none

namespace StoreType

variable {s : String} {type : StoreType}

/-- The names of a known type, in canonical form. Any other type has none. -/
def knownNames : StoreType → List String
  | pkcs12 => ["PKCS12", "P12", "PFX"]
  | pem => ["PEM"]
  | pkcs11 => ["PKCS11"]
  | other _ => []

/-- A text names a known type in an upper case. -/
def IsKnownIn (full : Char → List Char) (s : String) : Prop :=
  ∃ type : StoreType, Text.trimmedUpper full s ∈ type.knownNames

theorem isAscii_of_mem_knownNames {name : String} (h : name ∈ type.knownNames) :
    Text.IsAscii name.toList := by
  have every : ∀ type ∈ [pkcs12, pem, pkcs11], ∀ name ∈ type.knownNames,
      (name.toList.all fun c => c.toNat < 128) = true := by
    decide
  intro c member
  cases type with
  | other => cases h
  | _ => simpa using List.all_eq_true.mp (every _ (by decide) name h) c member

/-- In every upper case the same texts name a known type. -/
theorem mem_knownNames_iff {full : Char → List Char} (casing : Text.IsUpperCasing full) :
    Text.trimmedUpper full s ∈ type.knownNames ↔ Text.canonical s ∈ type.knownNames := by
  constructor
  · intro known
    have same : Text.canonical s = Text.trimmedUpper full s :=
      (casing.trimmedUpper_eq_iff (isAscii_of_mem_knownNames known)).mp rfl
    rwa [same]
  · intro known
    have same : Text.trimmedUpper full s = Text.canonical s :=
      (casing.trimmedUpper_eq_iff (isAscii_of_mem_knownNames known)).mpr rfl
    rwa [same]

theorem parse_of_known (h : Text.canonical s ∈ type.knownNames) : parse s = type := by
  cases type with
  | pkcs12 =>
      simp only [knownNames, List.mem_cons, List.not_mem_nil, or_false] at h
      rcases h with h | h | h <;> (rw [parse, h]; rfl)
  | pem =>
      rw [parse, List.mem_singleton.mp h]
      rfl
  | pkcs11 =>
      rw [parse, List.mem_singleton.mp h]
      rfl
  | other => cases h

theorem parse_of_unknown (h : ∀ type : StoreType, Text.canonical s ∉ type.knownNames) :
    parse s = other (Text.trim s) := by
  rw [parse]
  split
  · next named => exact absurd (by rw [named]; decide) (h pkcs12)
  · next named => exact absurd (by rw [named]; decide) (h pkcs12)
  · next named => exact absurd (by rw [named]; decide) (h pkcs12)
  · next named => exact absurd (by rw [named]; decide) (h pem)
  · next named => exact absurd (by rw [named]; decide) (h pkcs11)
  · rfl

/-- Every text names a known type, or another type that has the trimmed text for its name. -/
theorem known_or_parse_eq_other (s : String) :
    (∃ type : StoreType, Text.canonical s ∈ type.knownNames) ∨ parse s = other (Text.trim s) := by
  by_cases known : ∃ type : StoreType, Text.canonical s ∈ type.knownNames
  · exact .inl known
  · exact .inr (parse_of_unknown (not_exists.mp known))

/-- Blanks around a text make no difference to the type that it names. -/
theorem parse_trim (s : String) : parse (Text.trim s) = parse s := by
  rw [parse, parse, Text.canonical_trim, Text.trim_trim]

theorem parse_name_of_known {name : String} (h : name ∈ type.knownNames) :
    parse type.name = type := by
  cases type with
  | other => cases h
  | _ => decide

/-- The name of a type that was read is read as the same type again. -/
theorem parse_name_parse (s : String) : parse (parse s).name = parse s := by
  rcases known_or_parse_eq_other s with ⟨type, known⟩ | unknown
  · rw [parse_of_known known, parse_name_of_known known]
  · have written : (parse s).name = Text.trim s := by rw [unknown, name]
    rw [written, parse_trim]

/-- Two types that were read have the same name only if they are the same. -/
theorem name_parse_inj {s' : String} : (parse s).name = (parse s').name ↔ parse s = parse s' := by
  constructor
  · intro same
    calc
      parse s = parse (parse s).name := (parse_name_parse s).symm
      _ = parse (parse s').name := by rw [same]
      _ = parse s' := parse_name_parse s'
  · intro same
    rw [same]

theorem isHardware_iff : type.isHardware = true ↔ type = pkcs11 := by
  cases type <;> simp [isHardware]

/-- Only the hardware type has its name. -/
theorem isHardware_parse : (parse s).isHardware = true ↔ Text.canonical s = "PKCS11" := by
  have named : Text.canonical s ∈ pkcs11.knownNames ↔ Text.canonical s = "PKCS11" :=
    List.mem_singleton
  rw [isHardware_iff, ← named]
  constructor
  · intro hardware
    rcases known_or_parse_eq_other s with ⟨type, known⟩ | unknown
    · have same : type = pkcs11 := (parse_of_known known).symm.trans hardware
      rwa [same] at known
    · rw [unknown] at hardware
      cases hardware
  · exact parse_of_known

/-- A failure to find a provider for a type tells no other type's name. -/
theorem eq_name_of_select {registry : Registry} {provider : Option String}
    {failure : StoreFailure} {text : String} (h : registry.select type provider = .error failure)
    (told : failure.typeName? = some text) : text = type.name := by
  cases provider with
  | some provider =>
      simp only [Registry.select] at h
      split at h
      · cases h
        cases told
      · split at h
        · cases h
        · cases h
          cases told
          rfl
  | none =>
      simp only [Registry.select] at h
      split at h
      · cases h
      · split at h
        · cases h
          cases told
          rfl
        · cases h
          cases told
          rfl

/-- What a text names as a type of stores, and how this is written and read again. -/
structure NamesStably (s : String) : Prop where
  /-- The name of the type is a name of the same type. -/
  again : parse (parse s).name = parse s
  /-- The name tells the type apart from every other that a text names. -/
  apart : ∀ {s'}, (parse s).name = (parse s').name ↔ parse s = parse s'
  /-- Texts that come to the same known name, trimmed and in upper case, name the same type. -/
  alike : ∀ {full}, Text.IsUpperCasing full → ∀ {s'},
    Text.trimmedUpper full s = Text.trimmedUpper full s' → IsKnownIn full s → parse s = parse s'
  /-- Which type a known name is that of. -/
  known : ∀ {full}, Text.IsUpperCasing full → ∀ {type : StoreType},
    Text.trimmedUpper full s ∈ type.knownNames → parse s = type
  /-- Any other text names a type of its own, under the text as it is apart from blanks around it.
  That is no hardware type, and the provider that is built in makes no stores of it. -/
  other : ∀ {full}, Text.IsUpperCasing full → ¬IsKnownIn full s →
    parse s = .other (Text.trim s) ∧ (parse s).isHardware = false ∧
      ∀ engine : Engine, (Provider.builtIn engine).supports (parse s) = false ∧
        ∀ password, (Provider.builtIn engine).load (parse s) none password =
            .fail .missingLocation ∧
          ∀ bytes, (Provider.builtIn engine).load (parse s) (some bytes) password =
            .fail (.unsupportedType (Text.trim s))
  /-- It is the hardware type under one name only. -/
  hardware : ∀ {full}, Text.IsUpperCasing full →
    ((parse s).isHardware = true ↔ Text.trimmedUpper full s = "PKCS11")
  /-- The name that a failure to find a provider tells is a name of the type. -/
  told : ∀ {registry : Registry} {provider : Option String} {failure : StoreFailure}
    {text : String}, registry.select (parse s) provider = .error failure →
      failure.typeName? = some text → parse text = parse s
  /-- A store is loaded in the same way whether the type was written and read again or not. -/
  loads : ∀ {loader : Loader} {machine : Machine} {role : StoreRole} {location : Option String}
    {password : Option Secret} {provider : Option String},
    loader.load machine role location password (parse (parse s).name) provider =
      loader.load machine role location password (parse s) provider

/-- The type that a text names is written under a name that is stable. -/
theorem namesStably (s : String) : NamesStably s where
  again := parse_name_parse s
  apart := name_parse_inj
  alike := by
    rintro full casing s' same ⟨type, known⟩
    have known' : Text.trimmedUpper full s' ∈ type.knownNames := by rwa [← same]
    calc
      parse s = type := parse_of_known ((mem_knownNames_iff casing).mp known)
      _ = parse s' := (parse_of_known ((mem_knownNames_iff casing).mp known')).symm
  known casing _ known := parse_of_known ((mem_knownNames_iff casing).mp known)
  other := by
    intro full casing unknown
    have named : parse s = .other (Text.trim s) := by
      refine parse_of_unknown fun type known => unknown ⟨type, ?_⟩
      exact (mem_knownNames_iff casing).mpr known
    rw [named]
    exact ⟨rfl, rfl, fun engine => ⟨rfl, fun password => ⟨rfl, fun bytes => rfl⟩⟩⟩
  hardware := by
    intro full casing
    have named : "PKCS11" ∈ pkcs11.knownNames := List.mem_singleton.mpr rfl
    rw [isHardware_parse, casing.trimmedUpper_eq_iff (isAscii_of_mem_knownNames named)]
  told := by
    intro registry provider failure text refused told
    have written : text = (parse s).name := eq_name_of_select refused told
    rw [written, parse_name_parse]
  loads := by
    intros
    rw [parse_name_parse]

end StoreType

end TlsListener
