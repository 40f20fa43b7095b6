import TlsListener.Failure.Basic

/-!
# The machine

What the operations need of the machine they run on: files to read and addresses to listen at. They
are given as functions, so that nothing here depends on any particular machine.
-/

namespace TlsListener

/-- A machine: the contents of files by name, and the address at which a socket listens that was to
be bound to an address. -/
structure Machine where
  read : String → Except IoFailure ByteArray
  bind : Address → Except IoFailure Address

namespace Settings

/-- The settings that a file declares. -/
def ofFile (machine : Machine) (name : String) : Except Failure Settings := do
  let bytes ← (machine.read name).mapError .io
  match String.fromUTF8? bytes with
  | some text => parse text
  | none => throw (.io .notText)

end Settings

end TlsListener
