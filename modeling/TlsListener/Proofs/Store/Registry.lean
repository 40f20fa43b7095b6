import Mathlib.Data.List.Induction
import TlsListener.Store.Provider

/-!
# Registries and their history

A registry is what has been made of it: providers were registered, and names were removed, in some
order. A provider is listed if no removal of its name came after it, and the listed ones stand in
the order in which they were registered, so a provider that is registered again after a removal
stands at the end.

Every selection is the earliest provider of some kind: of a name, or without one of those that
support the type. A change does not put anything before a provider, and takes it away only by its
own name. So a selection outlasts every change but that one.
-/

namespace TlsListener.Registry

/-- A change of a registry. -/
inductive Change where
  | register (provider : Provider)
  | remove (name : String)

/-- The registry after a change. -/
def Change.apply (registry : Registry) : Change → Registry
  | register provider => registry.register provider
  | remove name => (registry.remove name).2

/-- The registry after some changes, one after the other. -/
def after (registry : Registry) (changes : List Change) : Registry :=
  changes.foldl Change.apply registry

/-- The providers that are left by some changes: those that were registered and whose name was not
removed later on, in order. -/
inductive Leaves : List Change → List Provider → Prop where
  | nothing : Leaves [] []
  | lasting {provider : Provider} {changes : List Change} {left : List Provider}
      (unremoved : .remove provider.name ∉ changes) (later : Leaves changes left) :
      Leaves (.register provider :: changes) (provider :: left)
  | passing {provider : Provider} {changes : List Change} {left : List Provider}
      (removed : .remove provider.name ∈ changes) (later : Leaves changes left) :
      Leaves (.register provider :: changes) left
  | removal {name : String} {changes : List Change} {left : List Provider}
      (later : Leaves changes left) :
      Leaves (.remove name :: changes) left

/-- A provider is the earliest of those of a kind. -/
structure IsEarliest (registry : Registry) (kind : Provider → Prop) (provider : Provider) :
    Prop where
  of_kind : kind provider
  first : ∃ before after, registry.providers = before ++ provider :: after ∧
    ∀ earlier ∈ before, ¬kind earlier

/-- The providers that a selection is made among: those of the name that is asked for, or without a
name those that support the type. -/
def IsCandidate (type : StoreType) (name : Option String) (provider : Provider) : Prop :=
  match name with
  | some name => provider.name = name
  | none => provider.supports type = true

variable {registry : Registry} {provider : Provider} {name : String} {type : StoreType}
variable {changes : List Change} {left : List Provider} {kind : Provider → Prop}

theorem after_concat (last : Change) :
    registry.after (changes ++ [last]) = last.apply (registry.after changes) :=
  List.foldl_append

namespace Leaves

/-- Changes do not leave two lists of providers. -/
theorem unique {other : List Provider} (h : Leaves changes left) (h' : Leaves changes other) :
    left = other := by
  induction h generalizing other with
  | nothing =>
      cases h'
      rfl
  | lasting unremoved _ ih =>
      cases h' with
      | lasting _ later => rw [ih later]
      | passing removed _ => exact absurd removed unremoved
  | passing removed _ ih =>
      cases h' with
      | lasting unremoved _ => exact absurd removed unremoved
      | passing _ later => exact ih later
  | removal _ ih =>
      cases h' with
      | removal later => exact ih later

theorem concat_register (h : Leaves changes left) (provider : Provider) :
    Leaves (changes ++ [.register provider]) (left ++ [provider]) := by
  induction h with
  | nothing => exact .lasting (by simp) .nothing
  | lasting unremoved _ ih => exact .lasting (by simpa using unremoved) ih
  | passing removed _ ih => exact .passing (List.mem_append_left _ removed) ih
  | removal _ ih => exact .removal ih

theorem concat_remove (h : Leaves changes left) (name : String) :
    Leaves (changes ++ [.remove name]) (left.filter fun provider => provider.name != name) := by
  induction h with
  | nothing => exact .removal .nothing
  | @lasting provider changes left unremoved _ ih =>
      by_cases own : provider.name = name
      · have removed : .remove provider.name ∈ changes ++ [.remove name] := by simp [own]
        simpa [own] using passing removed ih
      · have unremoved : .remove provider.name ∉ changes ++ [.remove name] := by
          simp [unremoved, own]
        simpa [own] using lasting unremoved ih
  | passing removed _ ih => exact .passing (List.mem_append_left _ removed) ih
  | removal _ ih => exact .removal ih

/-- One more change does to the providers that are left what it does to those of a registry. -/
theorem concat (h : Leaves changes registry.providers) (last : Change) :
    Leaves (changes ++ [last]) (last.apply registry).providers := by
  cases last with
  | register provider => exact h.concat_register provider
  | remove name => exact h.concat_remove name

end Leaves

/-- An empty registry that is changed lists the providers that the changes leave. -/
theorem leaves_after (changes : List Change) : Leaves changes (empty.after changes).providers := by
  induction changes using List.reverseRecOn with
  | nil => exact .nothing
  | append_singleton changes last ih =>
      rw [after_concat]
      exact ih.concat last

/-- A removal tells whether there was a provider of the name. -/
theorem remove_eq_true :
    (registry.remove name).1 = true ↔ ∃ provider ∈ registry.providers, provider.name = name := by
  have shorter : (registry.remove name).1 = true ↔
      (registry.providers.filter fun provider => provider.name != name).length ≠
        registry.providers.length := by
    simp [remove]
  rw [shorter, ne_eq, List.length_filter_eq_length_iff]
  simp

theorem find?_eq_some {wanted : Provider → Bool} :
    registry.providers.find? wanted = some provider ↔
      registry.IsEarliest (fun provider => wanted provider = true) provider := by
  rw [List.find?_eq_some_iff_append]
  constructor
  · rintro ⟨of_kind, before, after, split, passed⟩
    exact ⟨of_kind, before, after, split, by simpa using passed⟩
  · rintro ⟨of_kind, before, after, split, passed⟩
    exact ⟨of_kind, before, after, split, by simpa using passed⟩

namespace IsEarliest

theorem mem (h : registry.IsEarliest kind provider) : provider ∈ registry.providers := by
  obtain ⟨before, after, split, -⟩ := h.first
  simp [split]

/-- No two providers are the earliest of a kind. -/
theorem unique {other : Provider} (h : registry.IsEarliest kind provider)
    (h' : registry.IsEarliest kind other) : provider = other := by
  classical
  have found {first : Provider} (h : registry.IsEarliest kind first) :
      registry.providers.find? (fun provider => decide (kind provider)) = some first := by
    rw [find?_eq_some]
    simpa using h
  exact Option.some.inj ((found h).symm.trans (found h'))

end IsEarliest

/-- Without a name the earliest provider that supports the type is asked, if there is one. -/
theorem select_none :
    (∃ first, registry.IsEarliest (fun provider => provider.supports type = true) first ∧
      registry.select type none = .ok first) ∨
    (∀ provider ∈ registry.providers, provider.supports type = false) ∧
      ∃ failure, registry.select type none = .error failure := by
  cases found : registry.providers.find? fun provider => provider.supports type with
  | some first => exact .inl ⟨first, find?_eq_some.mp found, by simp only [select, found]⟩
  | none =>
      have unsupported : ∀ provider ∈ registry.providers, provider.supports type = false := by
        simpa using found
      refine .inr ⟨unsupported, ?_⟩
      simp only [select, found]
      cases type <;> exact ⟨_, rfl⟩

/-- Asking for a name that is listed asks the earliest provider of the name, and for one that is not
there is no provider to ask. -/
theorem select_some :
    (∃ first, registry.IsEarliest (fun provider => provider.name = name) first ∧
      registry.select type (some name) =
        if first.supports type then .ok first else .error (.providerMismatch name type.name)) ∨
    (∀ provider ∈ registry.providers, provider.name ≠ name) ∧
      registry.select type (some name) = .error (.unknownProvider name) := by
  cases found : registry.get? name with
  | some first =>
      have earliest := find?_eq_some.mp found
      simp only [beq_iff_eq] at earliest
      exact .inl ⟨first, earliest, by rw [select, found]⟩
  | none =>
      have unlisted : ∀ provider ∈ registry.providers, provider.name ≠ name := by
        simpa [get?] using found
      exact .inr ⟨unlisted, by rw [select, found]⟩

/-- A selection is the earliest candidate, and supports the type. -/
theorem select_eq_ok {name : Option String} :
    registry.select type name = .ok provider ↔
      registry.IsEarliest (IsCandidate type name) provider ∧ provider.supports type = true := by
  cases name with
  | none =>
      change _ ↔ registry.IsEarliest (fun provider => provider.supports type = true) provider ∧ _
      rcases select_none with ⟨first, earliest, answer⟩ | ⟨unsupported, failure, answer⟩
      · rw [answer]
        constructor
        · rintro ⟨⟩
          exact ⟨earliest, earliest.of_kind⟩
        · rintro ⟨earliest', -⟩
          rw [earliest.unique earliest']
      · rw [answer]
        constructor
        · intro h
          cases h
        · rintro ⟨earliest, supported⟩
          cases supported.symm.trans (unsupported provider earliest.mem)
  | some name =>
      change _ ↔ registry.IsEarliest (fun provider => provider.name = name) provider ∧ _
      rcases select_some with ⟨first, earliest, answer⟩ | ⟨unlisted, answer⟩
      · rw [answer]
        constructor
        · intro h
          split at h
          · next supported =>
              cases h
              exact ⟨earliest, supported⟩
          · cases h
        · rintro ⟨earliest', supported⟩
          obtain rfl := earliest.unique earliest'
          rw [if_pos supported]
      · rw [answer]
        constructor
        · intro h
          cases h
        · rintro ⟨earliest, -⟩
          exact absurd earliest.of_kind (unlisted provider earliest.mem)

/-- A mismatch is told of the earliest provider of the name, whatever others of the name support. -/
theorem select_eq_mismatch :
    registry.select type (some name) = .error (.providerMismatch name type.name) ↔
      ∃ first, registry.IsEarliest (fun provider => provider.name = name) first ∧
        first.supports type = false := by
  rcases select_some with ⟨first, earliest, answer⟩ | ⟨unlisted, answer⟩
  · rw [answer]
    constructor
    · intro h
      split at h
      · cases h
      · next unsupported => exact ⟨first, earliest, by simpa using unsupported⟩
    · rintro ⟨other, earliest', unsupported⟩
      obtain rfl := earliest.unique earliest'
      simp [unsupported]
  · rw [answer]
    constructor
    · intro h
      cases h
    · rintro ⟨first, earliest, -⟩
      exact absurd earliest.of_kind (unlisted first earliest.mem)

namespace IsEarliest

theorem register (h : registry.IsEarliest kind provider) (other : Provider) :
    (registry.register other).IsEarliest kind provider := by
  obtain ⟨before, after, split, passed⟩ := h.first
  refine ⟨h.of_kind, before, after ++ [other], ?_, passed⟩
  simp [Registry.register, split]

/-- A removal may take away providers before and after, but none comes to stand before. -/
theorem remove (h : registry.IsEarliest kind provider) (spared : provider.name ≠ name) :
    (registry.remove name).2.IsEarliest kind provider := by
  obtain ⟨before, after, split, passed⟩ := h.first
  refine ⟨h.of_kind, before.filter fun earlier => earlier.name != name,
    after.filter fun later => later.name != name, ?_, ?_⟩
  · simp [Registry.remove, split, spared]
  · intro earlier member
    exact passed earlier (List.mem_filter.mp member).1

theorem apply {change : Change} (h : registry.IsEarliest kind provider)
    (spared : change ≠ .remove provider.name) :
    (change.apply registry).IsEarliest kind provider := by
  cases change with
  | register other => exact h.register other
  | remove name =>
      have spared : provider.name ≠ name := by
        rintro rfl
        exact spared rfl
      exact h.remove spared

/-- The earliest of a kind stays the earliest as long as its name is not removed. -/
theorem after (h : registry.IsEarliest kind provider)
    (spared : .remove provider.name ∉ changes) :
    (registry.after changes).IsEarliest kind provider := by
  induction changes generalizing registry with
  | nil => exact h
  | cons change changes ih =>
      rw [List.mem_cons, not_or] at spared
      exact ih (h.apply (Ne.symm spared.1)) spared.2

end IsEarliest

/-- What is known of a registry from the changes that have made it. -/
structure Accounts (registry : Registry) (changes : List Change) : Prop where
  /-- It lists what the changes leave, and nothing else. -/
  listed : ∀ {providers}, registry.providers = providers ↔ Leaves changes providers
  /-- A removal tells whether a provider of the name was listed. -/
  removed : ∀ {name}, (registry.remove name).1 = true ↔
    ∃ provider ∈ registry.providers, provider.name = name
  /-- Without a name, the earliest provider that supports the type is selected. -/
  unnamed : ∀ {type provider}, registry.select type none = .ok provider ↔
    registry.IsEarliest (fun provider => provider.supports type = true) provider
  /-- With a name, the earliest provider of the name is selected if it supports the type. -/
  named : ∀ {type name provider}, registry.select type (some name) = .ok provider ↔
    registry.IsEarliest (fun provider => provider.name = name) provider ∧
      provider.supports type = true
  /-- Otherwise there is a mismatch, whether or not a later provider of the name supports it. -/
  mismatched : ∀ {type name},
    registry.select type (some name) = .error (.providerMismatch name type.name) ↔
      ∃ first, registry.IsEarliest (fun provider => provider.name = name) first ∧
        first.supports type = false
  /-- A selection stays what it is after all further changes but the removal of its name. -/
  lasting : ∀ {type name provider}, registry.select type name = .ok provider → ∀ {further},
    .remove provider.name ∉ further → (registry.after further).select type name = .ok provider

/-- Whatever changes are made of an empty registry, in whatever order, they account for what it
lists and selects. -/
theorem accounts_after (changes : List Change) : (empty.after changes).Accounts changes where
  listed := by
    intro providers
    constructor
    · rintro rfl
      exact leaves_after changes
    · intro left
      exact (leaves_after changes).unique left
  removed := remove_eq_true
  unnamed := by
    intro type provider
    rw [select_eq_ok]
    exact and_iff_left_of_imp IsEarliest.of_kind
  named := select_eq_ok
  mismatched := select_eq_mismatch
  lasting := by
    intro type name provider selected further spared
    obtain ⟨earliest, supported⟩ := select_eq_ok.mp selected
    exact select_eq_ok.mpr ⟨earliest.after spared, supported⟩

-- The second provider of the name would do for the type, but is not asked.
example (load : StoreType → Option ByteArray → Option Secret → Outcome StoreFailure KeyStore) :
    (empty.after [.register ⟨"Token", StoreType.isHardware, load⟩,
        .register ⟨"Token", fun _ => true, load⟩]).select .pem (some "Token") =
      .error (.providerMismatch "Token" "PEM") := rfl

end TlsListener.Registry
