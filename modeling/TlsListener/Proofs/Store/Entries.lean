import TlsListener.Store.Basic

/-!
# Looking up private keys

An alias asks for the private key entries that carry it, and without an alias any private key entry
will do. What a look-up finds is the earliest of the entries that are asked for; certificates that
stand alone are passed over, whatever alias they carry.
-/

namespace TlsListener

/-- A private key entry is asked for: by its alias, or because no alias is given. -/
def PrivateKeyEntry.IsAskedFor (entry : PrivateKeyEntry) (name : Option String) : Prop :=
  ∀ wanted, name = some wanted → entry.name = some wanted

namespace KeyStore

variable {store : KeyStore} {name : Option String} {entry : PrivateKeyEntry}

/-- An entry is the earliest of the private key entries that are asked for. -/
def IsEarliest (store : KeyStore) (name : Option String) (entry : PrivateKeyEntry) : Prop :=
  ∃ before after, store.entries = before ++ .privateKey entry :: after ∧ entry.IsAskedFor name ∧
    ∀ earlier, .privateKey earlier ∈ before → ¬earlier.IsAskedFor name

theorem selects_privateKey {other : PrivateKeyEntry} :
    selects name (.privateKey other) = some entry ↔ other = entry ∧ entry.IsAskedFor name := by
  cases name with
  | none => simp [selects, PrivateKeyEntry.IsAskedFor]
  | some wanted =>
      simp only [selects, PrivateKeyEntry.IsAskedFor]
      constructor
      · intro h
        split at h
        · cases h
          simp_all
        · cases h
      · rintro ⟨rfl, asked⟩
        simp [asked wanted rfl]

theorem selects_eq_some {item : StoreEntry} :
    selects name item = some entry ↔ item = .privateKey entry ∧ entry.IsAskedFor name := by
  cases item with
  | privateKey other => rw [selects_privateKey, StoreEntry.privateKey.injEq]
  | trusted name certificate => simp [selects]

theorem selects_eq_none {item : StoreEntry} :
    selects name item = none ↔ ∀ entry, item = .privateKey entry → ¬entry.IsAskedFor name := by
  rw [Option.eq_none_iff_forall_ne_some]
  simp [selects_eq_some]

/-- A look-up finds the earliest private key entry that is asked for. -/
theorem findPrivateKey?_eq_some :
    store.findPrivateKey? name = some entry ↔ store.IsEarliest name entry := by
  simp only [findPrivateKey?, List.findSome?_eq_some_iff, selects_eq_some, selects_eq_none]
  constructor
  · rintro ⟨before, _, after, split, ⟨rfl, asked⟩, passed⟩
    exact ⟨before, after, split, asked, fun earlier member => passed _ member earlier rfl⟩
  · rintro ⟨before, after, split, asked, passed⟩
    refine ⟨before, _, after, split, ⟨rfl, asked⟩, ?_⟩
    rintro _ member earlier rfl
    exact passed earlier member

/-- A look-up finds nothing exactly if no private key entry is asked for. -/
theorem findPrivateKey?_eq_none :
    store.findPrivateKey? name = none ↔
      ∀ entry, .privateKey entry ∈ store.entries → ¬entry.IsAskedFor name := by
  simp only [findPrivateKey?, List.findSome?_eq_none_iff, selects_eq_none]
  constructor
  · intro passed entry member
    exact passed _ member entry rfl
  · rintro passed _ member entry rfl
    exact passed entry member

/-- An alias asks for the private key entries that carry it. -/
theorem isAskedFor_some {wanted : String} :
    entry.IsAskedFor (some wanted) ↔ entry.name = some wanted := by
  simp [PrivateKeyEntry.IsAskedFor]

/-- An alias is contained in a store whatever kind of entry carries it. -/
theorem containsAlias_iff {wanted : String} :
    store.containsAlias wanted = true ↔
      (∃ entry, .privateKey entry ∈ store.entries ∧ entry.name = some wanted) ∨
        ∃ certificate, .trusted (some wanted) certificate ∈ store.entries := by
  simp only [containsAlias, List.any_eq_true, beq_iff_eq]
  constructor
  · rintro ⟨entry | ⟨name, certificate⟩, member, carried⟩
    · exact .inl ⟨entry, member, carried⟩
    · cases carried
      exact .inr ⟨certificate, member⟩
  · rintro (⟨entry, member, carried⟩ | ⟨certificate, member⟩)
    · exact ⟨_, member, carried⟩
    · exact ⟨_, member, rfl⟩

/-- What a look-up has found stays found, however many entries are added. -/
theorem findPrivateKey?_foldl_withEntry (entries : List StoreEntry)
    (found : store.findPrivateKey? name = some entry) :
    (entries.foldl withEntry store).findPrivateKey? name = some entry := by
  induction entries generalizing store with
  | nil => exact found
  | cons added entries ih => exact ih (findPrivateKey?_withEntry added found)

end KeyStore

end TlsListener
