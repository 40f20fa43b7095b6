import TlsListener.Crypto.Cipher.Field
import TlsListener.Crypto.Word

/-!
# The SM4 block cipher

A block is four words of 32 bits. Each of thirty-two rounds adds a word that is made of the last
three and of the key of the round, and the last four words are the result, backwards. Decryption is
encryption with the round keys in the other order. The substitution of bytes is computed from its
definition, an inverse between two affine maps.
-/

namespace TlsListener.Sm4

open Field256

/-- The affine map of the substitution. -/
def affine (b : UInt8) : UInt8 :=
  linear [0xcb, 0x97, 0x2f, 0x5e, 0xbc, 0x79, 0xf2, 0xe5] b ^^^ 0xd3

/-- The substitution of bytes. -/
def substitution : Substitution :=
  .ofFunction fun b => affine (inverse 0xf5 (affine b))

/-- The bytes of a word substituted. -/
def substituteWord (word : UInt32) : UInt32 :=
  (Bytes.toNat ((Bytes.ofNat 4 word.toNat).map substitution.apply)).toUInt32

/-- The word that a round mixes into the first of four. -/
def mix (word : UInt32) : UInt32 :=
  let b := substituteWord word
  b ^^^ rotateLeft32 2 b ^^^ rotateLeft32 10 b ^^^ rotateLeft32 18 b ^^^ rotateLeft32 24 b

/-- The word that a round of the key schedule mixes into the first of four. -/
def mixKey (word : UInt32) : UInt32 :=
  let b := substituteWord word
  b ^^^ rotateLeft32 13 b ^^^ rotateLeft32 23 b

/-- One round over the last four words. -/
def step (mix : UInt32 → UInt32) (words : List UInt32) (key : UInt32) : List UInt32 :=
  match words with
  | [a, b, c, d] => [b, c, d, a ^^^ mix (b ^^^ c ^^^ d ^^^ key)]
  | _ => words

/-- The constant of a round of the key schedule: bytes that grow by seven. -/
def scheduleConstant (number : Nat) : UInt32 :=
  (Bytes.toNat ((List.range 4).map fun i => ((4 * number + i) * 7).toUInt8)).toUInt32

/-- The words that a key is combined with. -/
def systemWords : List UInt32 := [0xa3b1bac6, 0x56aa3350, 0x677d9197, 0xb27022dc]

/-- The keys of all rounds. -/
def roundKeys (key : Bytes) : List UInt32 :=
  let start := List.zipWith (· ^^^ ·) (Bytes.words32 key) systemWords
  let (keys, _) := (List.range 32).foldl (fun (keys, words) number =>
    let words := step mixKey words (scheduleConstant number)
    (words.getLastD 0 :: keys, words)) (([] : List UInt32), start)
  keys.reverse

/-- Encrypt one block, or decrypt it with the keys backwards. -/
def encryptBlock (keys : List UInt32) (block : Bytes) : Bytes :=
  Bytes.ofWords32 ((keys.foldl (step mix) (Bytes.words32 block)).reverse)

/-- Decrypt one block. -/
def decryptBlock (keys : List UInt32) (block : Bytes) : Bytes := encryptBlock keys.reverse block

end TlsListener.Sm4
