import TlsListener.Host.Config

/-!
# Hosts in diagnostics

The settings of a host as one record, every field shown, passwords hidden and stores in brief.
-/

namespace TlsListener

open Text

/-- A certificate of a host in a diagnostic. -/
def HostCertificate.debug (certificate : HostCertificate) : String :=
  record "SslHostCertificate" [
    ("keystore", certificate.keyStore.store.debug),
    ("keystore_password", optional (certificate.keyStorePassword.map Secret.debug)),
    ("key_password", optional (certificate.keyPassword.map Secret.debug)),
    ("key_alias", optional (certificate.keyAlias.map quoted))]

/-- The settings of a host in a diagnostic. -/
def HostConfig.debug (host : HostConfig) : String :=
  record "SslHostConfig" [
    ("ciphers", optional (host.ciphers.map quoted)),
    ("ssl_protocol", quoted host.protocol),
    ("enabled_protocols", braced (host.enabledProtocols.names.map quoted)),
    ("certificates", listed (host.certificate.toList.map HostCertificate.debug)),
    ("truststore_file", optional (host.trustFile.map quoted)),
    ("truststore_type", host.trustType.debug),
    ("truststore_password", optional (host.trustPassword.map Secret.debug)),
    ("truststore", optional (host.trustStore.map fun handle => handle.store.debug)),
    ("certificate_verification", host.verification.name)]

end TlsListener
