import TlsListener.Crypto.Bytes

/-!
# Object identifiers

Algorithms, attributes and kinds of contents are named by paths of numbers. An identifier is kept as
the bytes that stand for its path; here are those that are recognised.
-/

namespace TlsListener.Identifier

/-- The digits of a number in base 128, each but the last marked by its highest bit, put before
other bytes. -/
def base128 (marked : Bool) (n : Nat) (tail : Bytes) : Bytes :=
  let digit := (n % 128 + if marked then 128 else 0).toUInt8
  if _h : n < 128 then digit :: tail
  else base128 true (n / 128) (digit :: tail)
termination_by n

/-- The bytes of the identifier with a given path. The first two numbers share a byte. -/
def ofPath : List Nat → Bytes
  | first :: second :: rest =>
    base128 false (40 * first + second) [] ++ rest.flatMap fun n => base128 false n []
  | _ => []

/-! ## Keys -/

def rsaKey : Bytes := ofPath [1, 2, 840, 113549, 1, 1, 1]
def rsaPssKey : Bytes := ofPath [1, 2, 840, 113549, 1, 1, 10]
def maskGeneration : Bytes := ofPath [1, 2, 840, 113549, 1, 1, 8]
def dsaKey : Bytes := ofPath [1, 2, 840, 10040, 4, 1]
def ecKey : Bytes := ofPath [1, 2, 840, 10045, 2, 1]
def x25519 : Bytes := ofPath [1, 3, 101, 110]
def x448 : Bytes := ofPath [1, 3, 101, 111]
def ed25519 : Bytes := ofPath [1, 3, 101, 112]
def ed448 : Bytes := ofPath [1, 3, 101, 113]

/-! ## Fields of curves -/

def primeField : Bytes := ofPath [1, 2, 840, 10045, 1, 1]
def binaryField : Bytes := ofPath [1, 2, 840, 10045, 1, 2]
def trinomial : Bytes := ofPath [1, 2, 840, 10045, 1, 2, 3, 2]
def pentanomial : Bytes := ofPath [1, 2, 840, 10045, 1, 2, 3, 3]

/-! ## Protection by passwords -/

def pbes2 : Bytes := ofPath [1, 2, 840, 113549, 1, 5, 13]
def pbkdf2 : Bytes := ofPath [1, 2, 840, 113549, 1, 5, 12]
def pbmac1 : Bytes := ofPath [1, 2, 840, 113549, 1, 5, 14]
def scrypt : Bytes := ofPath [1, 3, 6, 1, 4, 1, 11591, 4, 11]
def sha1WithTripleDes : Bytes := ofPath [1, 2, 840, 113549, 1, 12, 1, 3]
def sha1WithDoubleDes : Bytes := ofPath [1, 2, 840, 113549, 1, 12, 1, 4]

/-! ## Archives -/

def plainData : Bytes := ofPath [1, 2, 840, 113549, 1, 7, 1]
def signedData : Bytes := ofPath [1, 2, 840, 113549, 1, 7, 2]
def envelopedData : Bytes := ofPath [1, 2, 840, 113549, 1, 7, 3]
def signedAndEnvelopedData : Bytes := ofPath [1, 2, 840, 113549, 1, 7, 4]
def digestedData : Bytes := ofPath [1, 2, 840, 113549, 1, 7, 5]
def encryptedData : Bytes := ofPath [1, 2, 840, 113549, 1, 7, 6]
def keyBag : Bytes := ofPath [1, 2, 840, 113549, 1, 12, 10, 1, 1]
def protectedKeyBag : Bytes := ofPath [1, 2, 840, 113549, 1, 12, 10, 1, 2]
def certificateBag : Bytes := ofPath [1, 2, 840, 113549, 1, 12, 10, 1, 3]
def revocationBag : Bytes := ofPath [1, 2, 840, 113549, 1, 12, 10, 1, 4]
def secretBag : Bytes := ofPath [1, 2, 840, 113549, 1, 12, 10, 1, 5]
def nestedBags : Bytes := ofPath [1, 2, 840, 113549, 1, 12, 10, 1, 6]
def x509Certificate : Bytes := ofPath [1, 2, 840, 113549, 1, 9, 22, 1]
def simpleCertificate : Bytes := ofPath [1, 2, 840, 113549, 1, 9, 22, 2]
def x509Revocations : Bytes := ofPath [1, 2, 840, 113549, 1, 9, 23, 1]
def friendlyName : Bytes := ofPath [1, 2, 840, 113549, 1, 9, 20]
def localKeyId : Bytes := ofPath [1, 2, 840, 113549, 1, 9, 21]

/-! ## Certificates -/

def commonName : Bytes := ofPath [2, 5, 4, 3]
def subjectKeyId : Bytes := ofPath [2, 5, 29, 14]
def alternativeNames : Bytes := ofPath [2, 5, 29, 17]
def authorityKeyId : Bytes := ofPath [2, 5, 29, 35]

end TlsListener.Identifier
