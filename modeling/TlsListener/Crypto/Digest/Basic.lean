import TlsListener.Crypto.Digest.Blake2
import TlsListener.Crypto.Digest.Md5
import TlsListener.Crypto.Digest.Ripemd
import TlsListener.Crypto.Digest.Sha1
import TlsListener.Crypto.Digest.Sha2
import TlsListener.Crypto.Digest.Sha3
import TlsListener.Crypto.Digest.Sm3

/-!
# Digests and keyed digests
-/

namespace TlsListener

/-- A digest. -/
structure Digest where
  /-- The digest of a message. -/
  hash : Bytes → Bytes
  /-- The number of bytes of a digest. -/
  size : Nat
  /-- The number of bytes that a digest takes in at a time. -/
  blockSize : Nat

namespace Digest

/-! ## The digests in use -/

def md5 : Digest := ⟨Md5.md5, 16, 64⟩
def sha1 : Digest := ⟨Sha1.sha1, 20, 64⟩
def sha224 : Digest := ⟨Sha2.sha224, 28, 64⟩
def sha256 : Digest := ⟨Sha2.sha256, 32, 64⟩
def sha384 : Digest := ⟨Sha2.sha384, 48, 128⟩
def sha512 : Digest := ⟨Sha2.sha512, 64, 128⟩
def sha512To224 : Digest := ⟨Sha2.sha512To224, 28, 128⟩
def sha512To256 : Digest := ⟨Sha2.sha512To256, 32, 128⟩
def sha3 (size : Nat) : Digest := ⟨Sha3.sha3 size, size, Sha3.blockSize size⟩
def sm3 : Digest := ⟨Sm3.sm3, 32, 64⟩
def ripemd160 : Digest := ⟨Ripemd.ripemd160, 20, 64⟩
def blake2b : Digest := ⟨Blake2.blake2b, 64, 128⟩
def blake2s : Digest := ⟨Blake2.blake2s, 32, 64⟩

/-- A key made up to a block; one that is longer than a block is digested first. -/
def blockOfKey (digest : Digest) (key : Bytes) : Bytes :=
  let key := if digest.blockSize < key.length then digest.hash key else key
  key ++ List.replicate (digest.blockSize - key.length) 0

/-- The keyed digest of a message. -/
def hmac (digest : Digest) (key message : Bytes) : Bytes :=
  let block := digest.blockOfKey key
  digest.hash (block.map (· ^^^ 0x5c) ++ digest.hash (block.map (· ^^^ 0x36) ++ message))

end Digest

end TlsListener
