import TlsListener.Settings.Basic
import TlsListener.Text.Quoted

/-!
# Settings in diagnostics

The settings as one record, every field shown, passwords hidden.
-/

namespace TlsListener.Settings

open Text

/-- The settings in a diagnostic. -/
def debug (s : Settings) : String :=
  record "TlsConfig" [
    ("enabled", toString s.enabled),
    ("key_store", optional (s.keyStore.location.map quoted)),
    ("key_store_password", optional (s.keyStore.password.map Secret.debug)),
    ("key_password", optional (s.keyPassword.map Secret.debug)),
    ("key_store_type", s.keyStore.type.debug),
    ("key_store_provider", optional (s.keyStore.provider.map quoted)),
    ("key_alias", optional (s.keyAlias.map quoted)),
    ("trust_store", optional (s.trustStore.location.map quoted)),
    ("trust_store_password", optional (s.trustStore.password.map Secret.debug)),
    ("trust_store_type", s.trustStore.type.debug),
    ("trust_store_provider", optional (s.trustStore.provider.map quoted)),
    ("enabled_protocols", listed (s.enabledProtocols.map quoted)),
    ("ciphers", listed (s.ciphers.map quoted)),
    ("protocol", quoted s.protocol),
    ("client_auth", s.clientAuth.debug)]

end TlsListener.Settings
