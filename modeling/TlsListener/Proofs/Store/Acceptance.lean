import TlsListener.Proofs.Store.Parsing
import TlsListener.Proofs.Store.Passwords
import TlsListener.Proofs.Store.Verification

/-!
# The passwords that a store accepts

A password is checked against a store without a look at its entries: the container that the store
keeps is opened once more, and that is all. Loading opens the same container and goes on from there.
So the two come to the same verdict only if nothing that follows the opening depends on the
password. For an archive the verdict is about the opening itself. For a text the certificates are
read before the key is opened and do not depend on it, and a text that was read into a store with
one key has a certificate for any other.

A text that does not tell that its key is encrypted is read without a password, and a store that a
provider builds keeps no container. Both accept every password, also one that could not be handed to
the engine.
-/

namespace TlsListener.KeyStore

variable {engine : Engine} {bytes : ByteArray} {password : Option Secret} {provider : String}
variable {store : KeyStore}

/-- A password is checked against a store, and is found to be right exactly if it is. -/
def Tells (engine : Engine) (store : KeyStore) (password : Secret) (right : Prop) : Prop :=
  ∃ verdict : Bool,
    (∀ ε : Type, (store.verifyPassword engine password : Outcome ε Bool) = .ok verdict) ∧
      (verdict = true ↔ right)

theorem tells_of_accepted {password : Secret} {right : Prop} (holds : right)
    (accepted : ∀ ε : Type, (store.verifyPassword engine password : Outcome ε Bool) = .ok true) :
    store.Tells engine password right :=
  ⟨true, accepted, iff_of_true rfl holds⟩

/-- Unless an outcome is cut short it succeeds or it does not, and it is told which. -/
theorem exists_succeeds {ε α : Type} {outcome : Outcome ε α}
    (uncut : outcome ≠ .error .cutShort) :
    ∃ verdict, (∀ ε' : Type, (succeeds outcome : Outcome ε' Bool) = .ok verdict) ∧
      (verdict = true ↔ ∃ a, outcome = .ok a) := by
  rcases outcome with (failure | _) | a
  · exact ⟨false, fun _ => rfl, by simp⟩
  · exact absurd rfl uncut
  · exact ⟨true, fun _ => rfl, by simp⟩

/-! ## Archives -/

theorem protection_of_ofArchive (read : ofArchive engine bytes password provider = .ok store) :
    store.protection = .archive bytes := by
  obtain ⟨contents, -, read⟩ := Outcome.bind_eq_ok.mp read
  obtain ⟨entries, -, read⟩ := Outcome.bind_eq_ok.mp read
  cases read
  rfl

/-- The store of an archive accepts the passwords that open the archive. -/
theorem tells_of_ofArchive (read : ofArchive engine bytes password provider = .ok store)
    {other : Secret} (passable : isPassable other.expose = true) :
    store.Tells engine other (∃ contents, FindsInArchive engine bytes (some other) contents) := by
  have uncut : openArchive engine bytes other.expose ≠ .error .cutShort := by
    intro cut
    cases passable.symm.trans (openArchive_eq_cutShort.mp cut).2
  have opens : (∃ contents, openArchive engine bytes other.expose = .ok contents) ↔
      ∃ contents, FindsInArchive engine bytes (some other) contents :=
    exists_congr fun contents => @openArchive_eq_ok engine bytes (some other) contents
  obtain ⟨verdict, told, right⟩ := exists_succeeds uncut
  refine ⟨verdict, fun ε => ?_, right.trans opens⟩
  rw [verifyPassword, protection_of_ofArchive read]
  exact told ε

/-! ## Texts -/

theorem protection_of_textKey {key : Option PrivateKey} {protection : Protection.Kept}
    (read : textKey engine bytes password = .ok (key, protection)) :
    protection = if marksEncryption bytes then .encryptedText bytes else .unchecked := by
  rw [textKey] at read
  by_cases encrypted : marksEncryption bytes
  · rw [if_pos encrypted] at read ⊢
    obtain ⟨key, -, read⟩ := Outcome.bind_eq_ok.mp read
    cases read
    rfl
  · rw [if_neg encrypted] at read ⊢
    split at read
    · obtain ⟨key, -, read⟩ := Outcome.bind_eq_ok.mp read
      cases read
      rfl
    · cases read
      rfl

theorem protection_of_ofText (read : ofText engine bytes password provider = .ok store) :
    store.protection = if marksEncryption bytes then .encryptedText bytes else .unchecked := by
  obtain ⟨certificates, -, read⟩ := Outcome.bind_eq_ok.mp read
  obtain ⟨⟨key, protection⟩, keyed, read⟩ := Outcome.bind_eq_ok.mp read
  obtain ⟨entries, -, read⟩ := Outcome.bind_eq_ok.mp read
  cases read
  exact protection_of_textKey keyed

/-- Once a text was read with an encrypted key, any password that opens the key reads the text. -/
theorem exists_ofText_iff (read : ofText engine bytes password provider = .ok store)
    (encrypted : marksEncryption bytes = true) {other : Secret} :
    (∃ again, ofText engine bytes (some other) provider = .ok again) ↔
      ∃ key, openText engine bytes other.expose = .ok key := by
  constructor
  · rintro ⟨again, read⟩
    obtain ⟨certificates, -, read⟩ := Outcome.bind_eq_ok.mp read
    obtain ⟨kept, keyed, -⟩ := Outcome.bind_eq_ok.mp read
    rw [textKey, if_pos encrypted] at keyed
    obtain ⟨key, opened, -⟩ := Outcome.bind_eq_ok.mp keyed
    exact ⟨key, opened⟩
  · rintro ⟨key, opened⟩
    obtain ⟨passable, opened⟩ := openText_eq_ok.mp opened
    obtain ⟨found, finds, made⟩ := parses_ofText.made read
    cases finds with
    | @read certificates _ certified keyed =>
        -- The certificates are those of the first reading, which had one for its key.
        have leafed : certificates.head?.isSome := by
          cases keyed with
          | encrypted =>
              obtain ⟨entry, member⟩ := made.keyed_iff.mpr rfl
              obtain ⟨before, after, split⟩ := List.append_of_mem member
              obtain ⟨-, -, -, leaf, leafed, -⟩ := made.keyed split
              exact Option.isSome_of_eq_some leafed
          | plain plain => cases encrypted.symm.trans plain
          | unmarked plain => cases encrypted.symm.trans plain
        have finds : FindsInText engine bytes (some other)
            ⟨some key, certificates.head?, certificates.tail⟩ :=
          .read certified (.encrypted encrypted passable opened)
        refine parses_ofText.stored finds (fun _ => leafed) ?_
        obtain ⟨leaf, leafed⟩ := Option.isSome_iff_exists.mp leafed
        simp [ArchiveContents.certificates, leafed]

/-- The store of a text with an encrypted key accepts the passwords that the text can be read
with. -/
theorem tells_of_encrypted (read : ofText engine bytes password provider = .ok store)
    (encrypted : marksEncryption bytes = true) {other : Secret}
    (passable : isPassable other.expose = true) :
    store.Tells engine other
      (∃ again, ofText engine bytes (some other) provider = .ok again) := by
  have uncut : openText engine bytes other.expose ≠ .error .cutShort := by
    intro cut
    cases passable.symm.trans (openText_eq_cutShort.mp cut)
  obtain ⟨verdict, told, right⟩ := exists_succeeds uncut
  refine ⟨verdict, fun ε => ?_, right.trans (exists_ofText_iff read encrypted).symm⟩
  rw [verifyPassword, protection_of_ofText read, if_pos encrypted]
  exact told ε

/-- A text without an encrypted key is read without a look at the password. -/
theorem ofText_of_plain (plain : marksEncryption bytes = false) (other : Option Secret) :
    ofText engine bytes other provider = ofText engine bytes password provider := by
  have keyed : textKey engine bytes other = textKey engine bytes password := by
    rw [textKey, textKey, plain]
    rfl
  rw [ofText, ofText, keyed]

/-! ## Every kind of store -/

/-- Checking a password against a store comes to the same verdict as loading it did, and would
do. -/
structure ChecksAsLoaded (engine : Engine) (bytes : ByteArray) (password : Option Secret)
    (provider : String) : Prop where
  /-- A password that is absent stands for the empty one. -/
  absent : ofArchive engine bytes none provider = ofArchive engine bytes (some ⟨""⟩) provider ∧
    ofText engine bytes none provider = ofText engine bytes (some ⟨""⟩) provider
  /-- The store of an archive accepts the passwords that open the archive, and no others. -/
  archive : ∀ {store}, ofArchive engine bytes password provider = .ok store →
    ∀ {other : Secret}, isPassable other.expose = true →
      store.Tells engine other (∃ contents, FindsInArchive engine bytes (some other) contents)
  /-- Among them is the one that it was loaded with. -/
  archive_own : ∀ {store}, ofArchive engine bytes password provider = .ok store →
    store.Tells engine ⟨passwordText password⟩ True
  /-- The store of a text with an encrypted key accepts the passwords that the text can be loaded
  with, and no others. -/
  encrypted : ∀ {store}, ofText engine bytes password provider = .ok store →
    marksEncryption bytes = true → ∀ {other : Secret}, isPassable other.expose = true →
      store.Tells engine other
        (∃ again, ofText engine bytes (some other) provider = .ok again)
  /-- Any other text makes the same store with every password, and that store accepts them all. -/
  plain : ∀ {store}, ofText engine bytes password provider = .ok store →
    marksEncryption bytes = false →
      (∀ other : Secret, store.Tells engine other True) ∧
      ∀ other : Option Secret, ofText engine bytes other provider = .ok store
  /-- A store that a provider builds accepts every password, whatever it is filled with. -/
  built : ∀ {store : KeyStore}, store.Built → ∀ other : Secret, store.Tells engine other True

/-- A password that a store is loaded with is right when it is checked later, and one that the store
could not be loaded with is wrong. -/
theorem checksAsLoaded (engine : Engine) (bytes : ByteArray) (password : Option Secret)
    (provider : String) : ChecksAsLoaded engine bytes password provider where
  absent := ⟨rfl, rfl⟩
  archive := tells_of_ofArchive
  archive_own := by
    intro store read
    have own : ofArchive engine bytes (some ⟨passwordText password⟩) provider = .ok store := by
      cases password <;> exact read
    exact tells_of_accepted trivial fun ε => verifyPassword_of_ofArchive own
  encrypted := tells_of_encrypted
  plain := by
    intro store read plain
    have unchecked : store.protection = .unchecked := by
      rw [protection_of_ofText read, plain]
      rfl
    refine ⟨fun other => ?_, fun other => (ofText_of_plain plain other).trans read⟩
    exact tells_of_accepted trivial fun ε => verifyPassword_of_unchecked unchecked
  built := fun built other =>
    tells_of_accepted trivial fun ε => verifyPassword_of_unchecked built.protection

end TlsListener.KeyStore
