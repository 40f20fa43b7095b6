import TlsListener.Failure.Basic

/-!
# Log events

What an operation tells an operator while it goes on: a warning about what was left out, or an error
about a start that failed. An event is kept as what happened; its level, wording and fields are
functions of it.

Warnings and errors are the only events here. What is logged below them, to inform or to debug, is
left out: which store is being loaded and what it holds, where resolved stores came from, what was
written to a host, that a connector was left unchanged, was configured, has started or has stopped,
and what was negotiated with a peer. None of this bears on an outcome or on a state.
-/

namespace TlsListener

/-- An event of a log, at the level of a warning or above. Events below that level are left out. -/
inductive Event where
  /-- A protocol was declared that is not the family that is always negotiated. -/
  | protocolIgnored (protocol : String)
  | suiteUnsupported (suite : String)
  /-- A version has no suite among those that were configured. -/
  | versionDisabled (version : Version)
  | trustPasswordRefused
  | platformTrustUnavailable (location : Option String) (failure : Failure)
  | startFailed (address : Address) (failure : Failure)
  deriving DecidableEq

namespace Event

/-- How serious an event is. -/
inductive Level where
  | warning | error
  deriving DecidableEq, Repr

/-- The name of a level. -/
def Level.name : Level → String
  | warning => "WARN"
  | error => "ERROR"

/-- The level of an event. -/
def level : Event → Level
  | startFailed _ _ => .error
  | _ => .warning

/-- The wording of an event. -/
def message : Event → String
  | protocolIgnored _ => "Ignoring configured protocol, connectors always negotiate the TLS family"
  | suiteUnsupported _ => "Ignoring unsupported cipher suite"
  | versionDisabled _ => "Disabling protocol version without configured cipher suites"
  | trustPasswordRefused =>
    "Password verification failed for trust store, ignoring supplied password"
  | platformTrustUnavailable _ _ => "Platform trust store unavailable"
  | startFailed _ _ => "Connector failed to start"

/-- The fields of an event, each with its text. -/
def fields : Event → List (String × String)
  | protocolIgnored protocol => [("protocol", protocol)]
  | suiteUnsupported suite => [("cipher", suite)]
  | versionDisabled version => [("protocol", version.name)]
  | trustPasswordRefused => []
  | platformTrustUnavailable location failure =>
    [("truststore", Text.optional (location.map Text.quoted)), ("error", failure.message)]
  | startFailed address failure => [("addr", address.text), ("error", failure.message)]

end Event

/-- An operation that logs: the events so far, and its outcome. -/
structure Traced (α : Type) where
  events : List Event
  outcome : Outcome Failure α

namespace Traced

/-- A value without any events. -/
def value (a : α) : Traced α := ⟨[], .ok a⟩

/-- An outcome without any events. -/
def ofOutcome (outcome : Outcome Failure α) : Traced α := ⟨[], outcome⟩

/-- A failure without any events. -/
def fail (failure : Failure) : Traced α := ofOutcome (.fail failure)

/-- Events, in order. -/
def log (events : List Event) : Traced Unit := ⟨events, .ok ()⟩

/-- A single event. -/
def emit (event : Event) : Traced Unit := log [event]

/-- One operation after the other, unless the first is stopped. -/
def andThen (first : Traced α) (next : α → Traced β) : Traced β :=
  match first.outcome with
  | .ok a => ⟨first.events ++ (next a).events, (next a).outcome⟩
  | .error stop => ⟨first.events, .error stop⟩

instance : Monad Traced where
  pure := value
  bind := andThen

instance : MonadLift (Except (Stop Failure)) Traced := ⟨ofOutcome⟩

@[simp] theorem pure_eq (a : α) : (pure a : Traced α) = ⟨[], .ok a⟩ := rfl

theorem bind_eq (first : Traced α) (next : α → Traced β) :
    first >>= next = first.andThen next := rfl

@[simp] theorem bind_ok (events : List Event) (a : α) (next : α → Traced β) :
    (⟨events, .ok a⟩ : Traced α) >>= next = ⟨events ++ (next a).events, (next a).outcome⟩ := rfl

@[simp] theorem bind_error (events : List Event) (stop : Stop Failure) (next : α → Traced β) :
    (⟨events, .error stop⟩ : Traced α) >>= next = ⟨events, .error stop⟩ := rfl

end Traced

end TlsListener
