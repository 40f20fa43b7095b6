import TlsListener.Crypto.Cipher.Field

/-!
# The AES block cipher

A block is a list of sixteen bytes, column after column. The substitution of bytes is computed from
its definition: the inverse in the field of 256 elements, followed by an affine map of its bits.
-/

namespace TlsListener.Aes

open Field256

/-- The polynomial of the field, less its leading term. -/
def remainder : UInt8 := 0x1b

/-- The images of single bits under the affine map of the substitution, its constant aside. -/
def bitImages : List UInt8 := [0x1f, 0x3e, 0x7c, 0xf8, 0xf1, 0xe3, 0xc7, 0x8f]

/-- The substitution of bytes. -/
def substitution : Substitution :=
  .ofFunction fun b => linear bitImages (inverse remainder b) ^^^ 0x63

/-- The substitution backwards. -/
def substitutionBack : Substitution := substitution.undone

/-- The word that is mixed into the first of a group of words of the key schedule. -/
def scheduleWord (last : Bytes) (constant : UInt8) : Bytes :=
  match last with
  | a :: rest =>
    match (rest ++ [a]).map substitution.apply with
    | first :: others => (first ^^^ constant) :: others
    | [] => []
  | [] => []

/-- The next word of the key schedule, from the words so far. -/
def nextWord (keyWords : Nat) (words : Array Bytes) : Bytes :=
  let number := words.size
  let last := words.getD (number - 1) []
  let mixed :=
    if number % keyWords = 0 then
      scheduleWord last (power remainder 2 (number / keyWords - 1))
    else if 6 < keyWords ∧ number % keyWords = 4 then last.map substitution.apply
    else last
  Bytes.xor (words.getD (number - keyWords) []) mixed

/-- A key continued by the given number of words. -/
def expand (keyWords : Nat) : Nat → Array Bytes → Array Bytes
  | 0, words => words
  | count + 1, words => expand keyWords count (words.push (nextWord keyWords words))

/-- The keys of all rounds, the first first. -/
def roundKeys (key : Bytes) : List Bytes :=
  let keyWords := key.length / 4
  let words := expand keyWords (4 * (keyWords + 7) - keyWords) (pieces 4 key).toArray
  (pieces 4 words.toList).map List.flatten

/-- The bytes of a block in another order, given by the place that each is taken from. -/
def arrange (place : Nat → Nat) (block : Bytes) : Bytes :=
  let bytes := block.toArray
  (List.range 16).map fun i => bytes.getD (place i % 16) 0

/-- Turn each row of a block by its number. -/
def shiftRows : Bytes → Bytes := arrange fun i => i + 4 * (i % 4)

/-- Turn the rows of a block back. -/
def unshiftRows : Bytes → Bytes := arrange fun i => i + 16 - 4 * (i % 4)

/-- A column times a circulant matrix, given by its first row. -/
def mixColumn (row column : Bytes) : Bytes :=
  match row, column with
  | [p, q, r, s], [a, b, c, d] =>
    let sum := fun (w x y z : UInt8) =>
      mul remainder a w ^^^ mul remainder b x ^^^ mul remainder c y ^^^ mul remainder d z
    [sum p q r s, sum s p q r, sum r s p q, sum q r s p]
  | _, _ => column

/-- Multiply all columns of a block by a matrix. -/
def mixColumns (row block : Bytes) : Bytes := (pieces 4 block).flatMap (mixColumn row)

/-- The matrix of encryption, and the one that undoes it. -/
def matrixRow : Bytes := [2, 3, 1, 1]
def matrixRowBack : Bytes := [14, 11, 13, 9]

/-- The rounds after the first key has been mixed in. The last does not mix columns. -/
def rounds : List Bytes → Bytes → Bytes
  | [], block => block
  | [last], block => Bytes.xor last (shiftRows (block.map substitution.apply))
  | key :: others, block =>
    rounds others
      (Bytes.xor key (mixColumns matrixRow (shiftRows (block.map substitution.apply))))

/-- Encrypt one block. The key had sixteen, twenty-four or thirty-two bytes. -/
def encryptBlock (keys : List Bytes) (block : Bytes) : Bytes :=
  match keys with
  | first :: others => rounds others (Bytes.xor first block)
  | [] => block

/-- Undo the substitution and the turning of rows, then the round key. -/
def unround (key block : Bytes) : Bytes :=
  Bytes.xor key ((unshiftRows block).map substitutionBack.apply)

/-- Undo all rounds but the last one of encryption, the round keys given last first. -/
def unrounds : List Bytes → Bytes → Bytes
  | [], block => block
  | [first], block => unround first block
  | key :: others, block => unrounds others (mixColumns matrixRowBack (unround key block))

/-- Decrypt one block. -/
def decryptBlock (keys : List Bytes) (block : Bytes) : Bytes :=
  match keys.reverse with
  | last :: others => unrounds others (Bytes.xor last block)
  | [] => block

end TlsListener.Aes
