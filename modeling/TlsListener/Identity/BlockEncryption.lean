import TlsListener.Crypto.KeyDerivation
import TlsListener.Identity.CipherAlgorithm
import TlsListener.Encoding.Pem

/-!
# Encrypted blocks of PEM

The header of a block may say that its bytes are encrypted, by the name of a cipher and an initial
vector in digits of base sixteen. The key is made from a password and the beginning of the initial
vector.
-/

namespace TlsListener.Pem

/-- What a header says about the encryption of a block. -/
structure Encryption where
  cipher : Cipher
  initialVector : Bytes

/-- Drop blanks inside a line. -/
def skipBlanks (line : Bytes) : Bytes :=
  line.dropWhile fun b => b = 32 || b = 9

/-- The value of a digit in base sixteen. -/
def hexValue? (b : UInt8) : Option Nat :=
  if 48 ≤ b ∧ b ≤ 57 then some (b.toNat - 48)
  else if 65 ≤ b ∧ b ≤ 70 then some (b.toNat - 55)
  else if 97 ≤ b ∧ b ≤ 102 then some (b.toNat - 87)
  else none

/-- The bytes that digits in base sixteen stand for. -/
def hexBytes? (digits : Bytes) : Option Bytes := do
  let values ← digits.mapM hexValue?
  return (pieces 2 values).map fun pair => (pair.foldl (fun n d => n * 16 + d) 0).toUInt8

/-- A small letter as a capital letter. -/
def capital (b : UInt8) : UInt8 :=
  if 97 ≤ b ∧ b ≤ 122 then b - 32 else b

/-- The cipher of a name, in small or capital letters. -/
def cipher? (name : Bytes) : Option Cipher := do
  Cipher.ofName? (← String.fromUTF8? ⟨(name.map capital).toArray⟩)

/-- What follows a prefix. -/
def after? (front line : Bytes) : Option Bytes :=
  if front.isPrefixOf line then some (line.drop front.length) else none

/-- The initial vector in what follows the name of a cipher: a comma and digits. Where the cipher
takes none there is no comma either, but a blank still has to end the name. -/
def initialVector? (cipher : Cipher) (rest : Bytes) : Option Bytes :=
  if cipher.vectorSize = 0 then
    if rest.isEmpty || (skipBlanks rest).head? = some 44 then none else some []
  else do
    let digits ← after? [44] (skipBlanks rest)
    let count := 2 * cipher.vectorSize
    guard (count ≤ digits.length)
    hexBytes? (digits.take count)

/-- The encryption that a header tells, in two lines. -/
def encryption? (header : List Bytes) : Option Encryption := do
  let first :: second :: _ := header | none
  let mode ← after? (ascii "4,") (skipBlanks (← after? (ascii "Proc-Type:") first))
  guard (skipBlanks mode = ascii "ENCRYPTED")
  let scheme := skipBlanks (← after? (ascii "DEK-Info:") second)
  let name := scheme.takeWhile fun b => b ≠ 32 ∧ b ≠ 9 ∧ b ≠ 44
  let cipher ← cipher? name
  return ⟨cipher, ← initialVector? cipher (scheme.drop name.length)⟩

/-- How many bytes of the initial vector go into the key. -/
def saltSize : Nat := 8

/-- The bytes of a block, decrypted where its header says that they are encrypted. -/
def Block.open? (passphrase : Option Bytes) (block : Block) : Option Bytes :=
  if block.header.isEmpty then some block.data
  else do
    let ⟨cipher, initialVector⟩ ← encryption? block.header
    let salt := (initialVector ++ List.replicate saltSize 0).take saltSize
    let key := KeyDerivation.chained (← passphrase) salt cipher.keySize
    cipher.decrypt key initialVector block.data

end TlsListener.Pem
