import TlsListener.Context.Basic

/-!
# Connectors

A connector is a listener with the TLS settings of its host and a state in its lifecycle. While it
is started it listens at an address and has the context in which connections are accepted. Stopping
leaves nothing behind but its address, the defaults of the platform, and the loader of stores.
-/

namespace TlsListener

/-- A connector. -/
structure Connector where
  /-- The address that was configured. -/
  address : Address
  defaults : PlatformDefaults
  host : HostConfig
  state : LifecycleState
  /-- What loads the trust store of the platform. -/
  loader : Loader
  /-- The address that it listens at. -/
  listener : Option Address
  context : Option ServerContext

namespace Connector

/-- A connector to which nothing has been done. -/
def create (engine : Engine) (address : Address) (defaults : PlatformDefaults) : Connector where
  address
  defaults
  host := .ofDefaults defaults
  state := .created
  loader := .default engine
  listener := none
  context := none

/-- Whether the settings of a connector may be changed. -/
def isConfigurable (connector : Connector) : Bool :=
  connector.state.isConfigurable

/-- Set what loads the trust store of the platform. -/
def setLoader (connector : Connector) (loader : Loader) : Connector :=
  { connector with loader }

/-- Change the settings of the host. -/
def modifyHost (connector : Connector) (change : HostConfig → HostConfig) : Connector :=
  { connector with host := change connector.host }

/-- Note that something failed before a start. -/
def markFailed (connector : Connector) : Connector :=
  { connector with state := .failed }

/-- Stop listening. The settings of the host are as they were at first. -/
def stop (connector : Connector) : Connector :=
  { connector with
    host := .ofDefaults connector.defaults
    state := .stopped
    listener := none
    context := none }

/-- The address that a connector listens at, or else the one that was configured. -/
def localAddress (connector : Connector) : Address :=
  connector.listener.getD connector.address

/-- The address and context with which a connection is accepted, if the connector is started. -/
def endpoint (connector : Connector) : Except Failure (Address × ServerContext) :=
  match connector.listener, connector.context with
  | some address, some context => .ok (address, context)
  | _, _ => .error .notStarted

end Connector

end TlsListener
