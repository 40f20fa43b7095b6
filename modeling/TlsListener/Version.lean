import TlsListener.Text.Upper

/-!
# Protocol versions

The four versions of the TLS protocol, oldest first, with the numbers that the protocol and the
engine know them by. A version has several accepted names; a name is recognised after trimming and
without regard to letter case.
-/

namespace TlsListener

/-- A version of the TLS protocol. -/
inductive Version where
  | tls10 | tls11 | tls12 | tls13
  deriving DecidableEq, Repr

namespace Version

/-- All versions, oldest first. -/
def all : List Version := [tls10, tls11, tls12, tls13]

theorem mem_all (v : Version) : v ∈ all := by
  cases v <;> decide

/-- The place of a version among all versions, oldest first. -/
def rank : Version → Nat
  | tls10 => 0
  | tls11 => 1
  | tls12 => 2
  | tls13 => 3

instance : LT Version := ⟨fun v w => v.rank < w.rank⟩
instance : LE Version := ⟨fun v w => v.rank ≤ w.rank⟩
instance (v w : Version) : Decidable (v < w) := inferInstanceAs (Decidable (v.rank < w.rank))
instance (v w : Version) : Decidable (v ≤ w) := inferInstanceAs (Decidable (v.rank ≤ w.rank))

/-- The name under which a version is reported. -/
def name : Version → String
  | tls10 => "TLSv1"
  | tls11 => "TLSv1.1"
  | tls12 => "TLSv1.2"
  | tls13 => "TLSv1.3"

/-- The number of a version in the protocol. -/
def wireNumber : Version → Nat
  | tls10 => 0x301
  | tls11 => 0x302
  | tls12 => 0x303
  | tls13 => 0x304

/-- The option bit by which the engine is told not to negotiate a version. -/
def disableOption : Version → Nat
  | tls10 => 1 <<< 26
  | tls11 => 1 <<< 28
  | tls12 => 1 <<< 27
  | tls13 => 1 <<< 29

/-- The accepted names of a version, in canonical form. -/
def acceptedNames : Version → List String
  | tls10 => ["TLSV1.0", "TLS1.0", "TLSV1", "TLS1"]
  | tls11 => ["TLSV1.1", "TLS1.1"]
  | tls12 => ["TLSV1.2", "TLS1.2"]
  | tls13 => ["TLSV1.3", "TLS1.3"]

/-- The version that a text names. -/
def parse? (s : String) : Option Version :=
  all.find? fun v => v.acceptedNames.contains (Text.canonical s)

end Version

end TlsListener
