import TlsListener.Engine
import TlsListener.Failure.Basic
import TlsListener.Text.Quoted

/-!
# Key and trust stores

A store is the parsed form of a container of keys and certificates: its type, the provider that made
it, and its entries in order. A store that was read from a protected container keeps the container,
so that a password can be checked against it later.
-/

namespace TlsListener

/-- A private key with its certificate chain, the key's own certificate first. -/
structure PrivateKeyEntry where
  name : Option String
  key : PrivateKey
  chain : List Certificate
  deriving DecidableEq

/-- An entry of a store. -/
inductive StoreEntry where
  | privateKey (entry : PrivateKeyEntry)
  | trusted (name : Option String) (certificate : Certificate)
  deriving DecidableEq

namespace StoreEntry

/-- The name of an entry, by which it is asked for as an alias. -/
def name? : StoreEntry → Option String
  | privateKey entry => entry.name
  | trusted name _ => name

/-- The certificates of an entry, in order. -/
def certificates : StoreEntry → List Certificate
  | privateKey entry => entry.chain
  | trusted _ certificate => [certificate]

/-- The certificate that an entry is about, where there is one. -/
def leaf? : StoreEntry → Option Certificate
  | privateKey entry => entry.chain.head?
  | trusted _ certificate => some certificate

end StoreEntry

/-- How a password can be checked against a store after it was read. -/
inductive Protection.Kept where
  /-- Against the archive that it was read from. -/
  | archive (bytes : ByteArray)
  /-- Against the PEM text with an encrypted key that it was read from. -/
  | encryptedText (bytes : ByteArray)
  /-- Not at all: every password will do. -/
  | unchecked

/-- A key or trust store. -/
structure KeyStore where
  type : StoreType
  provider : String
  entries : List StoreEntry
  protection : Protection.Kept

namespace KeyStore

/-- A store without entries, to be filled by its provider. -/
def new (type : StoreType) (provider : String) : KeyStore :=
  ⟨type, provider, [], .unchecked⟩

/-- A store with one more entry. -/
def withEntry (store : KeyStore) (entry : StoreEntry) : KeyStore :=
  { store with entries := store.entries ++ [entry] }

/-- Whether some entry has an alias. -/
def containsAlias (store : KeyStore) (name : String) : Bool :=
  store.entries.any fun entry => entry.name? == some name

/-- The private key entry that an entry is, if its alias is the one that is asked for. Without an
alias any will do. -/
def selects (name : Option String) : StoreEntry → Option PrivateKeyEntry
  | .privateKey entry => if name.isNone || entry.name == name then some entry else none
  | .trusted _ _ => none

/-- The first private key entry, or the first with a given alias. -/
def findPrivateKey? (store : KeyStore) (name : Option String) : Option PrivateKeyEntry :=
  store.entries.findSome? (selects name)

/-- The certificates that clients can be verified against: those of all entries, chains of private
keys included. -/
def trustedCertificates (store : KeyStore) : List Certificate :=
  store.entries.flatMap StoreEntry.certificates

/-- Summaries of the certificates that the entries are about. -/
def describe (store : KeyStore) : List CertificateSummary :=
  store.entries.filterMap fun entry => entry.leaf?.map Certificate.summary

/-- A store in a diagnostic. -/
def debug (store : KeyStore) : String :=
  Text.record "KeyStore" [
    ("store_type", store.type.debug),
    ("provider", Text.quoted store.provider),
    ("entries", toString store.entries.length)]

@[simp] theorem entries_withEntry (store : KeyStore) (entry : StoreEntry) :
    (store.withEntry entry).entries = store.entries ++ [entry] := rfl

/-- An entry that is found is found also after further entries have been added. -/
theorem findPrivateKey?_withEntry {store : KeyStore} {name : Option String}
    {found : PrivateKeyEntry} (entry : StoreEntry)
    (h : store.findPrivateKey? name = some found) :
    (store.withEntry entry).findPrivateKey? name = some found := by
  simp [findPrivateKey?] at h ⊢
  simp [h]

end KeyStore

/-- A store as it is handed around: the store, and the name under which it was handed over from
outside, if it was. Two handles are to the same store if they are equal. -/
structure StoreHandle where
  store : KeyStore
  name : Option String := none

end TlsListener
