/-!
# The lifecycle of a connector

A connector is created, started, and stopped; a failure on the way is a state of its own, which only
a stop leaves. Its settings may be changed before a start and after a stop.
-/

namespace TlsListener

/-- Where a connector stands in its lifecycle. -/
inductive LifecycleState where
  | created
  | starting
  | started
  | failed
  | stopped
  deriving DecidableEq, Repr

namespace LifecycleState

/-- The name of a state. -/
def name : LifecycleState → String
  | created => "Created"
  | starting => "Starting"
  | started => "Started"
  | failed => "Failed"
  | stopped => "Stopped"

/-- The states in which a connector may be changed and started. -/
def isConfigurable : LifecycleState → Bool
  | created | stopped => true
  | _ => false

end LifecycleState

end TlsListener
