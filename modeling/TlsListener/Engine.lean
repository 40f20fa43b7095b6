import TlsListener.Identity.Archive

/-!
# The cryptographic engine

What the operations on stores and connectors ask of a cryptographic engine: to read containers of
keys and certificates, to tell whether a key belongs to a certificate, and which cipher suites, keys
and certificates it accepts. The answers are functions of what is asked, and nothing else is assumed
of them.
-/

namespace TlsListener

/-- A cryptographic engine. -/
structure Engine where
  /-- The certificates of a PEM text, in order, unless the text is malformed. -/
  certificates : ByteArray → Option (List Certificate)
  /-- The private key of a PEM text, opened with a passphrase or without one. -/
  privateKey : ByteArray → Option String → Option PrivateKey
  /-- What is in an archive under a password, if the bytes are an archive at all. -/
  archive : ByteArray → Option (String → Option ArchiveContents)
  /-- Whether a private key belongs to a certificate. -/
  belongs : PrivateKey → Certificate → Bool
  /-- The engine's own name of a cipher suite; a name that it does not know stays as it is. -/
  suiteName : String → String
  /-- Whether the engine accepts a list of suites for the versions before TLS 1.3. -/
  acceptsList : String → Bool
  /-- Whether it accepts a list of suites for TLS 1.3. -/
  acceptsSuites : String → Bool
  /-- Whether it accepts a private key for a server. -/
  acceptsKey : PrivateKey → Bool
  /-- Whether it accepts a server's certificate, which the list of suites that is set may decide. -/
  acceptsLeaf : Option String → Certificate → Bool
  /-- Whether it accepts a certificate to verify clients against. -/
  acceptsAnchor : Certificate → Bool

/-- The character that no text may hold that is handed to the engine. -/
def nul : Char := Char.ofNat 0

/-- Whether a text can be handed to the engine. -/
def isPassable (s : String) : Bool := !s.toList.contains nul

end TlsListener
