import TlsListener.Machine.Basic
import TlsListener.Machine.FileTree

/-!
# A machine on its own

A machine with a given tree of files, for which every address is its own, so that a socket can be
bound to any. Where any port will do, the first of the ports that are kept for that is taken.
-/

namespace TlsListener.Machine

/-- The first of the ports from which one is taken where any will do. -/
def firstFreePort : UInt16 := 32768

/-- The port at which a socket listens that was to be bound to a port; zero stands for any. -/
def boundPort (port : UInt16) : UInt16 :=
  if port = 0 then firstFreePort else port

/-- A machine with the given files, at which every address can be bound. -/
def standalone (files : FileTree) : Machine where
  read := files.read
  bind address := .ok { address with port := boundPort address.port }

end TlsListener.Machine
