import TlsListener.Connector.Basic
import TlsListener.Host.Binding

/-!
# Customizing a connector

A customizer holds declared settings and what they are resolved with. Applied to a connector that
may still be changed it writes them into the settings of the host, and hands the connector its
loader; if the stores cannot be resolved, the connector has failed and nothing is written. Where TLS
is not enabled it does nothing at all.
-/

namespace TlsListener

/-- Declared settings, and what their stores are resolved with. -/
structure Customizer where
  settings : Settings
  material : Option Material
  loader : Loader

namespace Connector

/-- A connector to which resolved stores have been bound. -/
def bindStores (connector : Connector) (customizer : Customizer) (stores : ResolvedStores) :
    Connector :=
  (connector.setLoader customizer.loader).modifyHost fun host =>
    host.bind customizer.settings stores

/-- Apply a customizer to a connector. -/
def customize (machine : Machine) (connector : Connector) (customizer : Customizer) :
    Connector × Traced Unit :=
  if !customizer.settings.enabled then (connector, .value ())
  else if !connector.isConfigurable then
    (connector, .fail (.invalidConfiguration (.notConfigurable connector.state)))
  else
    match customizer.loader.resolve machine customizer.settings customizer.material with
    | .ok stores =>
      (connector.bindStores customizer stores, .log (HostConfig.bindEvents customizer.settings))
    | .error (.failure failure) => (connector.markFailed, .fail failure)
    | .error .cutShort => (connector, .ofOutcome .cutShort)

end Connector

end TlsListener
