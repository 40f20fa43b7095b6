import TlsListener.Crypto.Cipher.Aes
import TlsListener.Crypto.Cipher.Aria
import TlsListener.Crypto.Cipher.ChaCha
import TlsListener.Crypto.Cipher.Des
import TlsListener.Crypto.Cipher.Sm4

/-!
# Decrypting data

A block cipher decrypts data of any length in one of several modes. In two of them data are whole
blocks, of which the last is made up with bytes that each tell their number, and a wrong key shows
in other bytes at the end. In the others the cipher makes a stream of bytes that is combined with
the data, and nothing shows that a key is wrong.
-/

namespace TlsListener

/-- A block cipher. The functions on blocks are given by a key. -/
structure BlockCipher where
  keySize : Nat
  blockSize : Nat
  encryptBlock : Bytes → Bytes → Bytes
  decryptBlock : Bytes → Bytes → Bytes

namespace BlockCipher

/-- AES with a key of the given number of bytes. -/
def aes (keySize : Nat) : BlockCipher where
  keySize := keySize
  blockSize := 16
  encryptBlock key := Aes.encryptBlock (Aes.roundKeys key)
  decryptBlock key := Aes.decryptBlock (Aes.roundKeys key)

/-- ARIA with a key of the given number of bytes. -/
def aria (keySize : Nat) : BlockCipher where
  keySize := keySize
  blockSize := 16
  encryptBlock key := Aria.encryptBlock (Aria.roundKeys key)
  decryptBlock key := Aria.decryptBlock (Aria.roundKeys key)

/-- SM4. -/
def sm4 : BlockCipher where
  keySize := 16
  blockSize := 16
  encryptBlock key := Sm4.encryptBlock (Sm4.roundKeys key)
  decryptBlock key := Sm4.decryptBlock (Sm4.roundKeys key)

/-- Triple DES with two or three keys of eight bytes. -/
def tripleDes (keyCount : Nat) : BlockCipher where
  keySize := 8 * keyCount
  blockSize := 8
  encryptBlock key := Des.encryptBlock (Des.tripleKeys key)
  decryptBlock key := Des.decryptBlock (Des.tripleKeys key)

end BlockCipher

/-- How a block cipher is used for data. -/
inductive CipherMode where
  /-- Each block by itself. -/
  | codebook
  /-- Each block combined with the encrypted one before it. -/
  | chained
  /-- Combined with the encryption of the encrypted block before. -/
  | feedback
  /-- The same, a byte at a time. -/
  | feedback8
  /-- The same, a bit at a time. -/
  | feedback1
  /-- Combined with a block that is encrypted over and over. -/
  | outputFeedback
  /-- Combined with the encryption of a counter. -/
  | counter
  deriving DecidableEq, Repr

namespace CipherMode

/-- Decrypt chained blocks, given the block before the first. -/
def unchain (decryptBlock : Bytes → Bytes) : Bytes → List Bytes → Bytes
  | _, [] => []
  | last, block :: blocks =>
    Bytes.xor last (decryptBlock block) ++ unchain decryptBlock block blocks

/-- Decrypt blocks that were each combined with the encryption of the one before. -/
def unfeed (encryptBlock : Bytes → Bytes) : Bytes → List Bytes → Bytes
  | _, [] => []
  | last, block :: blocks =>
    Bytes.xor block (encryptBlock last) ++ unfeed encryptBlock block blocks

/-- Decrypt bytes that were each combined with the encryption of those before. -/
def unfeedBytes (encryptBlock : Bytes → Bytes) : Bytes → Bytes → Bytes
  | _, [] => []
  | register, b :: bytes =>
    (b ^^^ (encryptBlock register).headD 0) ::
      unfeedBytes encryptBlock (register.drop 1 ++ [b]) bytes

/-- Decrypt the bits of a byte that were each combined with the encryption of those before, over
the given number of bits. The bits that follow are moved to the top of the byte as they come. -/
def unfeedBits (encryptBlock : Bytes → Bytes) : Nat → Bytes → UInt8 → UInt8 → Bytes × UInt8
  | 0, register, _, done => (register, done)
  | count + 1, register, b, done =>
    let bit := b >>> 7
    let clear := bit ^^^ ((encryptBlock register).headD 0 >>> 7)
    let register := Bytes.ofNat register.length (Bytes.toNat register * 2 + bit.toNat)
    unfeedBits encryptBlock count register (b <<< 1) ((done <<< 1) ||| clear)

/-- Decrypt bytes bit by bit. -/
def unfeedByBits (encryptBlock : Bytes → Bytes) : Bytes → Bytes → Bytes
  | _, [] => []
  | register, b :: bytes =>
    let (register, clear) := unfeedBits encryptBlock 8 register b 0
    clear :: unfeedByBits encryptBlock register bytes

/-- Combine blocks with one that is encrypted over and over. -/
def combineOutput (encryptBlock : Bytes → Bytes) : Bytes → List Bytes → Bytes
  | _, [] => []
  | last, block :: blocks =>
    let next := encryptBlock last
    Bytes.xor block next ++ combineOutput encryptBlock next blocks

/-- Combine blocks with the encryption of a counter. -/
def combineCounter (encryptBlock : Bytes → Bytes) (counter : Bytes) (blocks : List Bytes) : Bytes :=
  blocks.zipIdx.flatMap fun (block, number) =>
    Bytes.xor block (encryptBlock (Bytes.ofNat counter.length (Bytes.toNat counter + number)))

/-- Whether data have to be whole blocks, the last of them made up. -/
def isPadded : CipherMode → Bool
  | codebook | chained => true
  | _ => false

/-- Decrypt data, given the block before the first, and leave on what the last block is made up
with. -/
def decryptRaw (mode : CipherMode) (cipher : BlockCipher) (key initialVector data : Bytes) :
    Bytes :=
  let blocks := pieces cipher.blockSize data
  let encrypt := cipher.encryptBlock key
  match mode with
  | codebook => blocks.flatMap (cipher.decryptBlock key)
  | chained => unchain (cipher.decryptBlock key) initialVector blocks
  | feedback => unfeed encrypt initialVector blocks
  | feedback8 => unfeedBytes encrypt initialVector data
  | feedback1 => unfeedByBits encrypt initialVector data
  | outputFeedback => combineOutput encrypt initialVector blocks
  | counter => combineCounter encrypt initialVector blocks

end CipherMode

/-- A cipher for data of any length. -/
structure Cipher where
  keySize : Nat
  /-- The number of bytes of the initial vector. -/
  vectorSize : Nat
  /-- Decrypt data by a key and an initial vector, if the data can have been encrypted so. -/
  decrypt : Bytes → Bytes → Bytes → Option Bytes

namespace Cipher

/-- Cut off the bytes that make up the last block. -/
def unpad (blockSize : Nat) (bytes : Bytes) : Option Bytes := do
  let last ← bytes.getLast?
  let count := last.toNat
  guard (0 < count ∧ count ≤ blockSize ∧ count ≤ bytes.length)
  let front := bytes.take (bytes.length - count)
  guard (bytes.drop front.length = List.replicate count last)
  return front

/-- A block cipher in a mode. -/
def ofBlockCipher (cipher : BlockCipher) (mode : CipherMode) : Cipher where
  keySize := cipher.keySize
  vectorSize := if mode = .codebook then 0 else cipher.blockSize
  decrypt key initialVector data :=
    let clear := mode.decryptRaw cipher key initialVector data
    if mode.isPadded then
      if !data.isEmpty && data.length % cipher.blockSize = 0 then unpad cipher.blockSize clear
      else none
    else some clear

/-- ChaCha20. -/
def chaCha : Cipher where
  keySize := 32
  vectorSize := 16
  decrypt key counter data := some (ChaCha.apply key counter data)

end Cipher

end TlsListener
