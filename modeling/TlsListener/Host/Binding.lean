import TlsListener.Event
import TlsListener.Host.Config

/-!
# Writing settings and stores into a host

Binding writes the declared restrictions and the resolved stores over the settings of a host. What
is not declared stays as it was: the suites, the versions, and the trust store with its password,
which are written together or not at all.
-/

namespace TlsListener.HostConfig

/-- The suites, joined by colons, where any are declared. -/
def bindCiphers (host : HostConfig) (settings : Settings) : HostConfig :=
  if settings.ciphers.isEmpty then host
  else host.setCiphers (String.intercalate ":" settings.ciphers)

/-- The versions, where any are declared. -/
def bindProtocols (host : HostConfig) (settings : Settings) : HostConfig :=
  if settings.enabledProtocols.isEmpty then host
  else host.setEnabledProtocols settings.enabledProtocols

/-- The certificate of resolved stores. -/
def certificateOf (stores : ResolvedStores) : HostCertificate where
  keyStore := stores.keyStore
  keyStorePassword := stores.keyStorePassword
  keyPassword := stores.keyPassword
  keyAlias := stores.keyAlias

/-- The trust store and its password, where there is one. -/
def bindTrust (host : HostConfig) (stores : ResolvedStores) : HostConfig :=
  match stores.trustStore with
  | none => host
  | some store => (host.setTrustStore (some store)).setTrustPassword stores.trustStorePassword

/-- The settings of a host after declared settings and resolved stores have been written to it. -/
def bind (host : HostConfig) (settings : Settings) (stores : ResolvedStores) : HostConfig :=
  let host := (host.bindCiphers settings).setProtocol protocolFamily
  let host := (host.bindProtocols settings).setCertificate (certificateOf stores)
  (host.bindTrust stores).setVerification (.ofClientAuth settings.clientAuth)

/-- What is logged when settings are bound: a protocol that does not count. -/
def bindEvents (settings : Settings) : List Event :=
  if settings.protocol = protocolFamily then [] else [.protocolIgnored settings.protocol]

end TlsListener.HostConfig
