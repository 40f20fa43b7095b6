import TlsListener.Proofs.Traced
import TlsListener.Store.Container

/-!
# What a store is made of

An archive and a PEM text hold the same things in different shapes: perhaps a private key, perhaps
the certificate that goes with it, and other certificates. `Arranges` has one rule for each way in
which these are made into entries or refused, and both kinds of containers keep to it. They differ
in one point only: beside a private key the other certificates of an archive are entries of their
own, and those of a text are not.

So whatever holds of arranged entries holds of all stores that were read from containers. There is
no private key entry but the first, it has a chain, and no certificate is lost or made up.
-/

namespace TlsListener

/-- All certificates in a container, the one that goes with the key first. -/
def ArchiveContents.certificates (contents : ArchiveContents) : List Certificate :=
  contents.certificate.toList ++ contents.others

namespace KeyStore

/-- An archive is opened with a password and holds these contents. -/
inductive FindsInArchive (engine : Engine) (bytes : ByteArray) (password : Option Secret) :
    ArchiveContents → Prop where
  | opened {openWith : String → Option ArchiveContents} {contents : ArchiveContents}
      (archive : engine.archive bytes = some openWith)
      (passable : isPassable (passwordText password) = true)
      (opened : openWith (passwordText password) = some contents) :
      FindsInArchive engine bytes password contents

/-- A PEM text holds this private key, or none if it is not marked to hold one. -/
inductive FindsKey (engine : Engine) (bytes : ByteArray) (password : Option Secret) :
    Option PrivateKey → Prop where
  | encrypted {key : PrivateKey} (encrypted : marksEncryption bytes = true)
      (passable : isPassable (passwordText password) = true)
      (opened : engine.privateKey bytes (some (passwordText password)) = some key) :
      FindsKey engine bytes password (some key)
  | plain {key : PrivateKey} (plain : marksEncryption bytes = false)
      (marked : marksKey bytes = true) (read : engine.privateKey bytes none = some key) :
      FindsKey engine bytes password (some key)
  | unmarked (plain : marksEncryption bytes = false) (unmarked : marksKey bytes = false) :
      FindsKey engine bytes password none

/-- A PEM text holds these contents. The first certificate is the one that goes with the key. -/
inductive FindsInText (engine : Engine) (bytes : ByteArray) (password : Option Secret) :
    ArchiveContents → Prop where
  | read {certificates : List Certificate} {key : Option PrivateKey}
      (certified : engine.certificates bytes = some certificates)
      (keyed : FindsKey engine bytes password key) :
      FindsInText engine bytes password ⟨key, certificates.head?, certificates.tail⟩

/-- The entries that contents are made into, or why they are refused. -/
inductive Arranges (found : ArchiveContents) : Except StoreFailure (List StoreEntry) → Prop where
  | unleafed {account : String} (keyed : found.key.isSome) (unleafed : found.certificate = none) :
      Arranges found (.error (.provider account))
  | empty (unkeyed : found.key = none) (bare : found.certificates = []) :
      Arranges found (.error .empty)
  | keyed {key : PrivateKey} {leaf : Certificate} {alone : List Certificate}
      (keyed : found.key = some key) (leafed : found.certificate = some leaf)
      (subset : alone ⊆ found.others) :
      Arranges found
        (.ok (.privateKey ⟨leaf.name, key, leaf :: found.others⟩ :: alone.map trustedEntry))
  | unkeyed (unkeyed : found.key = none) (certified : found.certificates ≠ []) :
      Arranges found (.ok (found.certificates.map trustedEntry))

/-- A store holds what was found in a container, in good order. -/
structure IsMadeOf (store : KeyStore) (found : ArchiveContents) : Prop where
  nonempty : store.entries ≠ []
  /-- A private key entry is the first and only one. It holds the key that was found, and its chain
  is the certificate that goes with the key and the others after it. -/
  keyed : ∀ {before after entry}, store.entries = before ++ .privateKey entry :: after →
    before = [] ∧ (∀ other, .privateKey other ∉ after) ∧ found.key = some entry.key ∧
      ∃ leaf, found.certificate = some leaf ∧ entry.chain = leaf :: found.others ∧
        entry.name = leaf.name
  /-- There is one exactly if a key was found. -/
  keyed_iff : (∃ entry, .privateKey entry ∈ store.entries) ↔ found.key.isSome
  /-- The certificates that clients can be verified against are those that were found. -/
  trusted : ∀ {certificate}, certificate ∈ store.trustedCertificates ↔
    certificate ∈ found.certificates

variable {engine : Engine} {bytes : ByteArray} {password : Option Secret} {provider : String}
variable {found : ArchiveContents} {entries : List StoreEntry} {store : KeyStore}

theorem privateKey_not_mem_map_trustedEntry {certificates : List Certificate}
    {entry : PrivateKeyEntry} : .privateKey entry ∉ certificates.map trustedEntry := by
  simp [trustedEntry]

theorem flatMap_map_trustedEntry {certificates : List Certificate} :
    (certificates.map trustedEntry).flatMap StoreEntry.certificates = certificates := by
  simp [List.flatMap_map, trustedEntry, StoreEntry.certificates]

/-- Before certificates that stand alone there is one private key entry and no other. -/
theorem split_privateKey_cons {certificates : List Certificate} {first entry : PrivateKeyEntry}
    {before after : List StoreEntry}
    (split : .privateKey first :: certificates.map trustedEntry =
      before ++ .privateKey entry :: after) :
    before = [] ∧ first = entry ∧ certificates.map trustedEntry = after := by
  cases before with
  | nil =>
      cases split
      exact ⟨rfl, rfl, rfl⟩
  | cons _ before =>
      have member : .privateKey entry ∈ certificates.map trustedEntry := by
        rw [(List.cons.inj split).2]
        simp
      exact absurd member privateKey_not_mem_map_trustedEntry

/-- Entries that were arranged are in good order. -/
theorem Arranges.isMadeOf (h : Arranges found (.ok store.entries)) : store.IsMadeOf found := by
  generalize arranged : store.entries = entries at h
  cases h with
  | @keyed key leaf alone keyed leafed subset =>
      refine ⟨by simp [arranged], ?_, ?_, ?_⟩
      · intro before after entry split
        rw [arranged] at split
        obtain ⟨rfl, rfl, rfl⟩ := split_privateKey_cons split
        exact ⟨rfl, fun _ => privateKey_not_mem_map_trustedEntry, keyed, leaf, leafed, rfl, rfl⟩
      · simp [arranged, keyed]
      · intro certificate
        have chained : store.trustedCertificates = leaf :: found.others ++ alone := by
          rw [trustedCertificates, arranged, List.flatMap_cons, flatMap_map_trustedEntry]
          rfl
        rw [chained, ArchiveContents.certificates, leafed, List.mem_append,
          or_iff_left_of_imp fun member => List.mem_cons_of_mem leaf (subset member)]
        rfl
  | unkeyed unkeyed certified =>
      refine ⟨by simpa [arranged] using certified, ?_, ?_, ?_⟩
      · intro before after entry split
        have member : .privateKey entry ∈ found.certificates.map trustedEntry := by
          rw [← arranged, split]
          simp
        exact absurd member privateKey_not_mem_map_trustedEntry
      · rw [arranged, unkeyed]
        simp [trustedEntry]
      · intro certificate
        rw [trustedCertificates, arranged, flatMap_map_trustedEntry]

/-- What can be arranged has a certificate, and one for its key if it has any. -/
theorem Arranges.certified (h : Arranges found (.ok entries)) :
    (found.key.isSome → found.certificate.isSome) ∧ found.certificates ≠ [] := by
  cases h with
  | keyed keyed leafed => simp [ArchiveContents.certificates, leafed]
  | unkeyed unkeyed certified => exact ⟨by simp [unkeyed], certified⟩

/-- Without a key, certificates are arranged one by one, unless there are none. -/
theorem arranges_of_unkeyed (unkeyed : found.key = none) :
    Arranges found (nonempty (found.certificates.map trustedEntry)) := by
  by_cases bare : found.certificates = []
  · rw [bare]
    exact .empty unkeyed bare
  · rw [KeyStore.nonempty, if_neg (by simpa using bare)]
    exact .unkeyed unkeyed bare

theorem arranges_archiveEntries (found : ArchiveContents) :
    Arranges found (archiveEntries found >>= nonempty) := by
  rcases found with ⟨_ | key, certificate, others⟩
  · have unkeyed : archiveEntries ⟨none, certificate, others⟩ =
        .ok ((ArchiveContents.certificates ⟨none, certificate, others⟩).map trustedEntry) := by
      cases certificate <;> rfl
    rw [unkeyed]
    exact arranges_of_unkeyed rfl
  · cases certificate with
    | none => exact .unleafed rfl rfl
    | some leaf => exact .keyed rfl rfl (List.Subset.refl others)

/-- Beside a private key the certificates of a text are its chain and nothing else. -/
theorem arranges_textEntries (key : Option PrivateKey) (certificates : List Certificate) :
    Arranges ⟨key, certificates.head?, certificates.tail⟩
      (textEntries key certificates >>= nonempty) := by
  have all : ArchiveContents.certificates ⟨key, certificates.head?, certificates.tail⟩ =
      certificates := by
    cases certificates <;> rfl
  cases key with
  | none =>
      have arranged := arranges_of_unkeyed
        (rfl : ArchiveContents.key ⟨none, certificates.head?, certificates.tail⟩ = none)
      rwa [all] at arranged
  | some key =>
      cases certificates with
      | nil => exact .unleafed rfl rfl
      | cons leaf rest =>
          have subset : [] ⊆ ArchiveContents.others ⟨some key, some leaf, rest⟩ :=
            List.nil_subset rest
          exact .keyed rfl rfl subset

/-- How reading a container ends in which something was found. -/
inductive Settles (found : ArchiveContents) : Outcome StoreFailure KeyStore → Prop where
  | refused {failure : StoreFailure} (refused : Arranges found (.error failure)) :
      Settles found (.fail failure)
  | made {store : KeyStore} (arranged : Arranges found (.ok store.entries)) :
      Settles found (.ok store)

theorem Arranges.settles {result : Except StoreFailure (List StoreEntry)} {type : StoreType}
    {protection : Protection.Kept} (h : Arranges found result) :
    Settles found (result.mapError .failure >>= fun entries =>
      .ok ⟨type, provider, entries, protection⟩) := by
  cases result with
  | error failure => exact .refused h
  | ok entries => exact .made h

theorem openArchive_eq_ok : openArchive engine bytes (passwordText password) = .ok found ↔
    FindsInArchive engine bytes password found := by
  rw [openArchive]
  constructor
  · intro h
    split at h
    · cases h
    · next openWith archive =>
        split at h
        · next passable => exact .opened archive passable (Outcome.ofOption_eq_ok.mp h)
        · cases h
  · rintro ⟨archive, passable, opened⟩
    simp only [archive, passable, if_true]
    exact Outcome.ofOption_eq_ok.mpr opened

theorem openText_eq_ok {text : String} {key : PrivateKey} :
    openText engine bytes text = .ok key ↔
      isPassable text = true ∧ engine.privateKey bytes (some text) = some key := by
  rw [openText]
  cases isPassable text <;> simp [Outcome.cutShort]

theorem exists_textKey_eq_ok {key : Option PrivateKey} :
    (∃ protection, textKey engine bytes password = .ok (key, protection)) ↔
      FindsKey engine bytes password key := by
  rw [textKey]
  constructor
  · rintro ⟨protection, h⟩
    split at h
    · next encrypted =>
        obtain ⟨key, opened, h⟩ := Outcome.bind_eq_ok.mp h
        cases h
        obtain ⟨passable, opened⟩ := openText_eq_ok.mp opened
        exact .encrypted encrypted passable opened
    · next plain =>
        rw [Bool.not_eq_true] at plain
        split at h
        · next marked =>
            obtain ⟨key, read, h⟩ := Outcome.bind_eq_ok.mp h
            cases h
            exact .plain plain marked (Outcome.ofOption_eq_ok.mp read)
        · next unmarked =>
            cases h
            exact .unmarked plain (by simpa using unmarked)
  · intro h
    cases h with
    | encrypted encrypted passable opened =>
        rw [if_pos encrypted]
        exact ⟨_, Outcome.bind_eq_ok.mpr ⟨_, openText_eq_ok.mpr ⟨passable, opened⟩, rfl⟩⟩
    | plain plain marked read =>
        rw [if_neg (by simp [plain]), if_pos marked]
        exact ⟨_, Outcome.bind_eq_ok.mpr ⟨_, Outcome.ofOption_eq_ok.mpr read, rfl⟩⟩
    | unmarked plain unmarked =>
        rw [if_neg (by simp [plain]), if_neg (by simp [unmarked])]
        exact ⟨_, rfl⟩

theorem settles_ofArchive (h : FindsInArchive engine bytes password found) :
    Settles found (ofArchive engine bytes password provider) := by
  rw [ofArchive, openArchive_eq_ok.mpr h]
  exact (arranges_archiveEntries found).settles

theorem settles_ofText (h : FindsInText engine bytes password found) :
    Settles found (ofText engine bytes password provider) := by
  cases h with
  | @read certificates key certified keyed =>
      obtain ⟨protection, keyed⟩ := exists_textKey_eq_ok.mpr keyed
      rw [ofText, certified, keyed]
      exact (arranges_textEntries key certificates).settles

/-- What is known of reading a container of a kind, from what is found in it. -/
structure Parses (finds : ArchiveContents → Prop) (outcome : Outcome StoreFailure KeyStore) :
    Prop where
  /-- A store that is read is made of what is found, and in good order. -/
  made : ∀ {store}, outcome = .ok store → ∃ found, finds found ∧ store.IsMadeOf found
  /-- A key without its certificate is refused. -/
  unleafed : ∀ {found}, finds found → found.key.isSome → found.certificate = none →
    ∃ account, outcome = .fail (.provider account)
  /-- A container without a key and without certificates is empty. -/
  empty : ∀ {found}, finds found → found.key = none → found.certificates = [] →
    outcome = .fail .empty
  /-- Anything else makes a store. -/
  stored : ∀ {found}, finds found → (found.key.isSome → found.certificate.isSome) →
    found.certificates ≠ [] → ∃ store, outcome = .ok store

theorem parses_of_settles {finds : ArchiveContents → Prop}
    {outcome : Outcome StoreFailure KeyStore}
    (found_of_ok : ∀ {store}, outcome = .ok store → ∃ found, finds found)
    (settles : ∀ {found}, finds found → Settles found outcome) : Parses finds outcome where
  made := by
    intro store read
    obtain ⟨found, finds⟩ := found_of_ok read
    have settled := settles finds
    rw [read] at settled
    cases settled with
    | made arranged => exact ⟨found, finds, arranged.isMadeOf⟩
  unleafed := by
    intro found finds keyed unleafed
    cases settles finds with
    | refused refused =>
        cases refused with
        | unleafed => exact ⟨_, rfl⟩
        | empty unkeyed => simp [unkeyed] at keyed
    | made arranged =>
        have leafed := arranged.certified.1 keyed
        simp [unleafed] at leafed
  empty := by
    intro found finds unkeyed bare
    cases settles finds with
    | refused refused =>
        cases refused with
        | unleafed keyed => simp [unkeyed] at keyed
        | empty => rfl
    | made arranged => exact absurd bare arranged.certified.2
  stored := by
    intro found finds leafed certified
    cases settles finds with
    | refused refused =>
        cases refused with
        | unleafed keyed unleafed =>
            have leafed := leafed keyed
            simp [unleafed] at leafed
        | empty unkeyed bare => exact absurd bare certified
    | made arranged => exact ⟨_, rfl⟩

theorem parses_ofArchive :
    Parses (FindsInArchive engine bytes password) (ofArchive engine bytes password provider) := by
  refine parses_of_settles ?_ settles_ofArchive
  intro store read
  obtain ⟨found, opened, -⟩ := Outcome.bind_eq_ok.mp read
  exact ⟨found, openArchive_eq_ok.mp opened⟩

theorem parses_ofText :
    Parses (FindsInText engine bytes password) (ofText engine bytes password provider) := by
  refine parses_of_settles ?_ settles_ofText
  intro store read
  obtain ⟨certificates, certified, read⟩ := Outcome.bind_eq_ok.mp read
  obtain ⟨⟨key, protection⟩, keyed, -⟩ := Outcome.bind_eq_ok.mp read
  exact ⟨_, .read (Outcome.ofOption_eq_ok.mp certified) (exists_textKey_eq_ok.mp ⟨_, keyed⟩)⟩

end KeyStore

end TlsListener
