import TlsListener.Crypto.Cipher.Basic
import TlsListener.Encoding.Identifier

/-!
# Ciphers by their names

A cipher is known by names, and mostly by an identifier. Names are those of a block cipher and of a
mode; the mode in which blocks are chained may go unsaid in a shorter name.
-/

namespace TlsListener

/-- A known cipher. -/
structure CipherAlgorithm where
  names : List String
  /-- The path of its identifier; empty where it has none. -/
  path : List Nat
  cipher : Cipher

namespace CipherAlgorithm

/-- A mode of a block cipher: the mode, and the path of the identifier of the cipher in it. -/
abbrev Member := CipherMode × List Nat

/-- The name of a mode. -/
def modeName : CipherMode → String
  | .codebook => "ECB"
  | .chained => "CBC"
  | .feedback => "CFB"
  | .feedback8 => "CFB8"
  | .feedback1 => "CFB1"
  | .outputFeedback => "OFB"
  | .counter => "CTR"

/-- A block cipher in several modes. The shorter names belong to the modes that they are given
for. -/
def family (name : String) (cipher : BlockCipher) (shorter : List (CipherMode × List String))
    (members : List Member) : List CipherAlgorithm :=
  members.map fun (mode, path) => {
    names := (name ++ "-" ++ modeName mode) :: (shorter.lookup mode).getD []
    path
    cipher := .ofBlockCipher cipher mode }

/-- The kinds of AES, whose identifiers are numbered from a different number on for each size. -/
def aes (bits first : Nat) : List CipherAlgorithm :=
  let path := fun last => [2, 16, 840, 1, 101, 3, 4, 1, first + last]
  family s!"AES-{bits}" (.aes (bits / 8)) [(.chained, [s!"AES{bits}"])]
    [(.codebook, path 1), (.chained, path 2), (.outputFeedback, path 3), (.feedback, path 4),
      (.feedback1, []), (.feedback8, []), (.counter, [])]

/-- The kinds of ARIA. -/
def aria (bits first : Nat) : List CipherAlgorithm :=
  let path := fun last => [1, 2, 410, 200046, 1, 1, first + last]
  family s!"ARIA-{bits}" (.aria (bits / 8)) [(.chained, [s!"ARIA{bits}"])]
    [(.codebook, path 1), (.chained, path 2), (.feedback, path 3), (.outputFeedback, path 4),
      (.counter, path 5), (.feedback1, []), (.feedback8, [])]

/-- SM4. -/
def sm4 : List CipherAlgorithm :=
  let path := fun last => [1, 2, 156, 10197, 1, 104, last]
  family "SM4" .sm4
    [(.chained, ["SM4"]), (.outputFeedback, ["SM4-OFB128"]), (.feedback, ["SM4-CFB128"])]
    [(.codebook, path 1), (.chained, path 2), (.outputFeedback, path 3), (.feedback, path 4),
      (.counter, path 7)]

/-- Triple DES with two keys. -/
def doubleDes : List CipherAlgorithm :=
  family "DES-EDE" (.tripleDes 2) [(.codebook, ["DES-EDE"])]
    [(.codebook, [1, 3, 14, 3, 2, 17]), (.chained, []), (.feedback, []), (.outputFeedback, [])]

/-- Triple DES with three keys. -/
def tripleDes : List CipherAlgorithm :=
  family "DES-EDE3" (.tripleDes 3) [(.codebook, ["DES-EDE3"]), (.chained, ["DES3"])]
    [(.codebook, []), (.chained, [1, 2, 840, 113549, 3, 7]), (.feedback, []), (.feedback1, []),
      (.feedback8, []), (.outputFeedback, [])]

/-- The known ciphers. -/
def all : List CipherAlgorithm :=
  aes 128 0 ++ aes 192 20 ++ aes 256 40 ++ aria 128 0 ++ aria 192 5 ++ aria 256 10 ++ sm4 ++
    doubleDes ++ tripleDes ++ [⟨["CHACHA20"], [], .chaCha⟩]

end CipherAlgorithm

namespace Cipher

/-- The cipher of an identifier. -/
def ofIdentifier? (identifier : Bytes) : Option Cipher :=
  (CipherAlgorithm.all.find? fun known =>
    !known.path.isEmpty && Identifier.ofPath known.path == identifier).map CipherAlgorithm.cipher

/-- The text of a path. -/
def pathText (path : List Nat) : String := String.intercalate "." (path.map toString)

/-- The cipher of a name in capital letters, or of the text of its path. -/
def ofName? (name : String) : Option Cipher :=
  (CipherAlgorithm.all.find? fun known =>
    known.names.contains name || !known.path.isEmpty && pathText known.path == name).map
    CipherAlgorithm.cipher

end Cipher

end TlsListener
