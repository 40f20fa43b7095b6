import TlsListener.Identity.PublicKey

/-!
# Signature algorithms

The algorithms by which certificates are signed. Each belongs to a kind of keys and mostly to one
digest, half of whose bits are its strength; the oldest two digests count for less. Where the
algorithm tells no digest, the key decides.
-/

namespace TlsListener

/-- What decides the strength of signatures by an algorithm. -/
inductive SignatureStrength where
  /-- The digest of the algorithm: a number of bits, none where the digest is not known any more. -/
  | fixed (bits : Nat)
  /-- The key of the certificate. -/
  | ofKey
  /-- The digest that the parameters name, or else the key of the certificate. -/
  | ofParameters
  deriving DecidableEq, Repr

/-- A known algorithm. -/
structure SignatureAlgorithm where
  path : List Nat
  /-- The kind of keys that sign by it, if a listener may have such keys. -/
  signer : Option SignerKind
  strength : SignatureStrength
  deriving DecidableEq, Repr

namespace SignatureAlgorithm

/-- The strength of MD5. -/
def md5Strength : Nat := 39

/-- The strength of SHA-1 in the algorithms that name it. -/
def sha1Strength : Nat := 63

/-- The strength of SHA-1 where parameters name it. -/
def sha1StrengthOfParameters : Nat := 64

/-- Algorithms of one kind of keys, each the last number of a path and a strength. -/
def family (front : List Nat) (signer : Option SignerKind) (members : List (Nat × Nat)) :
    List SignatureAlgorithm :=
  members.map fun (last, bits) => ⟨front ++ [last], signer, .fixed bits⟩

/-- The algorithms of RSA keys. -/
def rsaAlgorithms : List SignatureAlgorithm :=
  family [1, 2, 840, 113549, 1, 1] (some .rsa) [(2, 0), (3, 64), (4, md5Strength),
    (5, sha1Strength), (11, 128), (12, 192), (13, 256), (14, 112), (15, 112), (16, 128)] ++
  [⟨[1, 2, 840, 113549, 1, 1, 10], some .rsaPss, .ofParameters⟩] ++
  family [2, 16, 840, 1, 101, 3, 4, 3] (some .rsa) [(13, 112), (14, 128), (15, 192), (16, 256)] ++
  family [1, 3, 14, 3, 2] (some .rsa) [(3, md5Strength), (15, 0), (29, sha1Strength)] ++
  family [1, 3, 36, 3, 3, 1] (some .rsa) [(2, 80)] ++
  family [2, 5, 8, 3] (some .rsa) [(100, 64)]

/-- The algorithms of DSA keys. -/
def dsaAlgorithms : List SignatureAlgorithm :=
  family [1, 2, 840, 10040, 4] (some .dsa) [(3, sha1Strength)] ++
  family [1, 3, 14, 3, 2] (some .dsa) [(13, 0), (27, sha1Strength)] ++
  family [2, 16, 840, 1, 101, 3, 4, 3] (some .dsa) [(1, 112), (2, 128)]

/-- The algorithms of keys on curves. -/
def ecAlgorithms : List SignatureAlgorithm :=
  family [1, 2, 840, 10045, 4] (some .ec) [(1, sha1Strength)] ++
  [⟨[1, 2, 840, 10045, 4, 2], some .ec, .ofKey⟩, ⟨[1, 2, 840, 10045, 4, 3], some .ec, .ofKey⟩] ++
  family [1, 2, 840, 10045, 4, 3] (some .ec) [(1, 112), (2, 128), (3, 192), (4, 256)] ++
  family [2, 16, 840, 1, 101, 3, 4, 3] (some .ec) [(9, 112), (10, 128), (11, 192), (12, 256)] ++
  family [1, 3, 101] (some .ed25519) [(112, 128)] ++
  family [1, 3, 101] (some .ed448) [(113, 224)]

/-- The algorithms of keys that a listener cannot have. -/
def foreignAlgorithms : List SignatureAlgorithm :=
  family [1, 2, 156, 10197, 1] none [(501, 128)] ++
  family [1, 2, 643, 2, 2] none [(3, 105), (4, 105)] ++
  family [1, 2, 643, 2, 9, 1, 3] none [(3, 105), (4, 105)] ++
  family [1, 3, 133, 16, 840, 63, 0] none [(2, sha1Strength), (3, sha1Strength)] ++
  (List.range 4).flatMap fun i =>
    family [1, 3, 132, 1, 11] none [(i, [112, 128, 192, 256].getD i 0)] ++
    family [1, 3, 132, 1, 14] none [(i, [112, 128, 192, 256].getD i 0)]

/-- The known algorithms. -/
def all : List SignatureAlgorithm :=
  rsaAlgorithms ++ dsaAlgorithms ++ ecAlgorithms ++ foreignAlgorithms

/-- The algorithm of an identifier. -/
def ofIdentifier? (identifier : Bytes) : Option SignatureAlgorithm :=
  all.find? fun known => Identifier.ofPath known.path == identifier

/-- Whether keys of a kind sign by an algorithm. -/
def suits (known : SignatureAlgorithm) (key : PublicKey) : Bool :=
  known.signer.isSome &&
    (key.signerKind? == known.signer ||
      (key.signerKind?, known.signer) == (some .rsa, some .rsaPss))

/-- The strength of a digest that parameters name. -/
def digestStrength? (name : Bytes) : Option Nat :=
  if name = Digest.sha1Identifier then some sha1StrengthOfParameters
  else if name = Digest.md5Identifier then some md5Strength
  else (Digest.sizeOf? name).map (4 * ·)

/-- The strength that parameters give. -/
def parameterStrength? (algorithm : Ber.Algorithm) : Option Nat := do
  let parameters ← algorithm.decode? PssParameters.item
  guard parameters.areValid
  digestStrength? (PssParameters.digestName parameters.digest)

/-- The strength in bits of a signature by an algorithm on a certificate with the given key. There
is none to algorithms that are not known. -/
def strengthOf (algorithm : Ber.Algorithm) (key : PublicKey) : Nat :=
  match (ofIdentifier? algorithm.name).map SignatureAlgorithm.strength with
  | some (.fixed bits) => bits
  | some .ofKey => key.strength
  | some .ofParameters => (parameterStrength? algorithm).getD key.strength
  | none => 0

end SignatureAlgorithm

end TlsListener
