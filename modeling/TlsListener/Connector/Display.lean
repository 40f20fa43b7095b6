import TlsListener.Connector.Customize
import TlsListener.Host.Display
import TlsListener.Settings.Display

/-!
# Connectors in diagnostics

A connector is shown by address, state and host; a customizer by its settings, whether stores were
handed over, and the providers it loads with.
-/

namespace TlsListener

open Text

/-- A connector in a diagnostic. -/
def Connector.debug (connector : Connector) : String :=
  record "Connector" [
    ("addr", connector.localAddress.text),
    ("state", connector.state.name),
    ("host_config", connector.host.debug)]

/-- A customizer in a diagnostic. -/
def Customizer.debug (customizer : Customizer) : String :=
  record "TlsConnectorCustomizer" [
    ("config", customizer.settings.debug),
    ("material", toString customizer.material.isSome),
    ("resolver", customizer.loader.debugResolver)]

end TlsListener
