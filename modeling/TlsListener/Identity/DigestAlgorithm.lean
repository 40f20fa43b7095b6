import TlsListener.Crypto.Digest.Basic
import TlsListener.Encoding.Identifier

/-!
# Digests by their identifiers

Algorithms name the digests that they rest on. Of some old digests only the size matters, for they
are too weak to be computed any more.
-/

namespace TlsListener

/-- The digests that can be computed, by the paths of their identifiers. -/
def digestPaths : List (List Nat × Digest) := [
  ([1, 2, 840, 113549, 2, 5], .md5),
  ([1, 3, 14, 3, 2, 26], .sha1),
  ([2, 16, 840, 1, 101, 3, 4, 2, 1], .sha256),
  ([2, 16, 840, 1, 101, 3, 4, 2, 2], .sha384),
  ([2, 16, 840, 1, 101, 3, 4, 2, 3], .sha512),
  ([2, 16, 840, 1, 101, 3, 4, 2, 4], .sha224),
  ([2, 16, 840, 1, 101, 3, 4, 2, 5], .sha512To224),
  ([2, 16, 840, 1, 101, 3, 4, 2, 6], .sha512To256),
  ([2, 16, 840, 1, 101, 3, 4, 2, 7], .sha3 28),
  ([2, 16, 840, 1, 101, 3, 4, 2, 8], .sha3 32),
  ([2, 16, 840, 1, 101, 3, 4, 2, 9], .sha3 48),
  ([2, 16, 840, 1, 101, 3, 4, 2, 10], .sha3 64),
  ([1, 2, 156, 10197, 1, 401], .sm3),
  ([1, 3, 36, 3, 2, 1], .ripemd160),
  ([1, 3, 6, 1, 4, 1, 1722, 12, 2, 1, 16], .blake2b),
  ([1, 3, 6, 1, 4, 1, 1722, 12, 2, 2, 8], .blake2s)]

/-- The sizes of digests that are known but not computed. -/
def oldDigestPaths : List (List Nat × Nat) := [
  ([1, 2, 840, 113549, 2, 4], 16),
  ([2, 5, 8, 3, 101], 16),
  ([1, 0, 10118, 3, 0, 55], 64)]

/-- The digests that keyed digests are made of, by the paths of the identifiers of the latter. -/
def keyedDigestPaths : List (List Nat × Digest) := [
  ([1, 2, 840, 113549, 2, 6], .md5),
  ([1, 2, 840, 113549, 2, 7], .sha1),
  ([1, 2, 840, 113549, 2, 8], .sha224),
  ([1, 2, 840, 113549, 2, 9], .sha256),
  ([1, 2, 840, 113549, 2, 10], .sha384),
  ([1, 2, 840, 113549, 2, 11], .sha512),
  ([1, 2, 840, 113549, 2, 12], .sha512To224),
  ([1, 2, 840, 113549, 2, 13], .sha512To256),
  ([1, 3, 6, 1, 5, 5, 8, 1, 1], .md5),
  ([1, 3, 6, 1, 5, 5, 8, 1, 2], .sha1),
  ([2, 16, 840, 1, 101, 3, 4, 2, 13], .sha3 28),
  ([2, 16, 840, 1, 101, 3, 4, 2, 14], .sha3 32),
  ([2, 16, 840, 1, 101, 3, 4, 2, 15], .sha3 48),
  ([2, 16, 840, 1, 101, 3, 4, 2, 16], .sha3 64),
  ([1, 2, 156, 10197, 1, 401, 2], .sm3)]

/-- What a table holds for the path of an identifier. -/
def findByIdentifier? (table : List (List Nat × α)) (identifier : Bytes) : Option α :=
  table.findSome? fun (path, value) =>
    if Identifier.ofPath path == identifier then some value else none

namespace Digest

/-- The digest of an identifier. -/
def ofIdentifier? (identifier : Bytes) : Option Digest :=
  findByIdentifier? digestPaths identifier

/-- The digest of a keyed digest by the identifier of the latter. -/
def ofKeyedIdentifier? (identifier : Bytes) : Option Digest :=
  findByIdentifier? keyedDigestPaths identifier

/-- The size of the digest of an identifier. -/
def sizeOf? (identifier : Bytes) : Option Nat :=
  (ofIdentifier? identifier).map size <|> findByIdentifier? oldDigestPaths identifier

/-- The identifier of SHA-1, which many algorithms rest on where they name no digest. -/
def sha1Identifier : Bytes := Identifier.ofPath [1, 3, 14, 3, 2, 26]

/-- The identifier of MD5. -/
def md5Identifier : Bytes := Identifier.ofPath [1, 2, 840, 113549, 2, 5]

end Digest

end TlsListener
