import TlsListener.Encoding.Pem

/-!
# Passwords as algorithms take them

Some algorithms take a password as it is, others two bytes for each unit of it in UTF-16; the latter
tell an absent password from an empty one.
-/

namespace TlsListener

/-- A password as it is handed to an algorithm; there may be none. -/
structure Passphrase where
  bytes? : Option Bytes
  deriving DecidableEq, Repr

namespace Passphrase

/-- No password. -/
def absent : Passphrase := ⟨none⟩

/-- The password of a text. -/
def ofString (s : String) : Passphrase := ⟨some (ascii s)⟩

/-- The password as it is. -/
def bytes (passphrase : Passphrase) : Bytes :=
  passphrase.bytes?.getD []

/-- The units of a character in UTF-16, as bytes. -/
def wideChar (c : Char) : Bytes :=
  if c.toNat < 0x10000 then Bytes.ofNat 2 c.toNat
  else
    let n := c.toNat - 0x10000
    Bytes.ofNat 2 (0xD800 + n / 0x400) ++ Bytes.ofNat 2 (0xDC00 + n % 0x400)

/-- The password in UTF-16, with a final zero; nothing for an absent one. Bytes that are no text are
taken as the first 256 characters. -/
def wide (passphrase : Passphrase) : Bytes :=
  match passphrase.bytes? with
  | none => []
  | some bytes =>
    let chars := match String.fromUTF8? ⟨bytes.toArray⟩ with
      | some text => text.toList
      | none => bytes.map fun (b : UInt8) => Char.ofNat b.toNat
    chars.flatMap wideChar ++ [0, 0]

end Passphrase

end TlsListener
