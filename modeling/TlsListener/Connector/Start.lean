import TlsListener.Connector.Basic

/-!
# Starting a connector

A start makes the context of the host's settings and then binds the address. It either does both,
and the connector is started, or it fails, which is the last thing that is logged, and leaves behind
neither listener nor context. A connector that cannot be started in its state is left alone.
-/

namespace TlsListener.Connector

/-- Bind the address of a connector. -/
def bindAddress (machine : Machine) (connector : Connector) : Outcome Failure Address :=
  match machine.bind connector.address with
  | .ok address => .ok address
  | .error failure => .fail (.startup (.cannotBind connector.address failure))

/-- The context and the address of a listener, in this order. -/
def prepare (engine : Engine) (machine : Machine) (connector : Connector) :
    Traced (ServerContext × Address) := do
  let context ← ServerContext.ofHost engine machine connector.loader connector.host
  let address ← connector.bindAddress machine
  return (context, address)

/-- A connector after an attempt to prepare it. -/
def settle (connector : Connector) (attempt : Traced (ServerContext × Address)) :
    Connector × Traced Unit :=
  match attempt.outcome with
  | .ok (context, address) =>
    ({ connector with state := .started, context := some context, listener := some address },
      ⟨attempt.events, .ok ()⟩)
  | .error (.failure failure) =>
    (connector.markFailed,
      ⟨attempt.events ++ [.startFailed connector.address failure], .fail failure⟩)
  | .error .cutShort => ({ connector with state := .starting }, ⟨attempt.events, .cutShort⟩)

/-- Start a connector. -/
def start (engine : Engine) (machine : Machine) (connector : Connector) :
    Connector × Traced Unit :=
  if connector.isConfigurable then connector.settle (connector.prepare engine machine)
  else (connector, .fail (.startup (.notStartable connector.state)))

end TlsListener.Connector
