import TlsListener.Host.Binding
import TlsListener.Host.Display
import TlsListener.Settings.Display

/-!
# Passwords taken out

Settings, resolved stores and hosts carry passwords along with everything else. Taking the text out
of every password leaves the rest, and with it whether there is a password in each place. Two values
differ in nothing but the texts of their passwords exactly if they are the same without them.

No text of a password is read when settings are shown, when a password takes the place of another,
or when stores are bound to a host: each of these can be done after the texts were taken out, with
the same result.
-/

namespace TlsListener

/-- A password without its text, if there is one. -/
def Secret.redact (password : Option Secret) : Option Secret :=
  password.map fun _ => ⟨""⟩

/-- A store to be found and opened, with the password taken out. -/
def StoreDescriptor.redact (descriptor : StoreDescriptor) : StoreDescriptor :=
  { descriptor with password := Secret.redact descriptor.password }

/-- Settings with their passwords taken out. -/
def Settings.redact (settings : Settings) : Settings :=
  { settings with
    keyStore := settings.keyStore.redact
    keyPassword := Secret.redact settings.keyPassword
    trustStore := settings.trustStore.redact }

/-- Resolved stores with their passwords taken out. -/
def ResolvedStores.redact (stores : ResolvedStores) : ResolvedStores :=
  { stores with
    keyStorePassword := Secret.redact stores.keyStorePassword
    keyPassword := Secret.redact stores.keyPassword
    trustStorePassword := Secret.redact stores.trustStorePassword }

/-- The trust settings of a platform with the password taken out. -/
def PlatformDefaults.redact (defaults : PlatformDefaults) : PlatformDefaults :=
  { defaults with trustPassword := Secret.redact defaults.trustPassword }

/-- The certificate of a host with its passwords taken out. -/
def HostCertificate.redact (certificate : HostCertificate) : HostCertificate :=
  { certificate with
    keyStorePassword := Secret.redact certificate.keyStorePassword
    keyPassword := Secret.redact certificate.keyPassword }

/-- The settings of a host with their passwords taken out. -/
def HostConfig.redact (host : HostConfig) : HostConfig :=
  { host with
    certificate := host.certificate.map HostCertificate.redact
    trustPassword := Secret.redact host.trustPassword }

namespace Secret

variable {password other : Option Secret}

/-- Diagnostics show no more of a password than that there is one. -/
@[simp] theorem map_debug_redact : (redact password).map debug = password.map debug := by
  cases password with
  | none => rfl
  | some password => exact congrArg some (debug_eq ⟨""⟩ password)

@[simp] theorem redact_orElse :
    redact (password <|> other) = (redact password <|> redact other) := by
  cases password <;> rfl

end Secret

/-- Two stores to be found and opened are the same without their passwords if the rest is the same
and there is a password for both or for neither. -/
theorem StoreDescriptor.redact_inj {descriptor other : StoreDescriptor} :
    descriptor.redact = other.redact ↔
      descriptor.location = other.location ∧
      Secret.redact descriptor.password = Secret.redact other.password ∧
      descriptor.type = other.type ∧ descriptor.provider = other.provider := by
  simp [redact]

namespace Settings

variable {settings other : Settings}

theorem redact_inj :
    settings.redact = other.redact ↔
      settings.enabled = other.enabled ∧
      settings.keyStore.redact = other.keyStore.redact ∧
      Secret.redact settings.keyPassword = Secret.redact other.keyPassword ∧
      settings.keyAlias = other.keyAlias ∧
      settings.trustStore.redact = other.trustStore.redact ∧
      settings.enabledProtocols = other.enabledProtocols ∧
      settings.ciphers = other.ciphers ∧
      settings.protocol = other.protocol ∧
      settings.clientAuth = other.clientAuth := by
  simp [redact]

@[simp] theorem debug_redact : settings.redact.debug = settings.debug := by
  simp [debug, redact, StoreDescriptor.redact]

@[simp] theorem keyStorePassword_redact :
    settings.redact.keyStorePassword = Secret.redact settings.keyStorePassword :=
  Secret.redact_orElse.symm

@[simp] theorem privateKeyPassword_redact :
    settings.redact.privateKeyPassword = Secret.redact settings.privateKeyPassword :=
  Secret.redact_orElse.symm

end Settings

@[simp] theorem HostCertificate.debug_redact {certificate : HostCertificate} :
    certificate.redact.debug = certificate.debug := by
  simp [debug, redact]

namespace HostConfig

variable {host other : HostConfig} {settings : Settings} {stores : ResolvedStores}

theorem redact_inj :
    host.redact = other.redact ↔
      host.ciphers = other.ciphers ∧
      host.protocol = other.protocol ∧
      host.enabledProtocols = other.enabledProtocols ∧
      host.certificate.map HostCertificate.redact =
        other.certificate.map HostCertificate.redact ∧
      host.trustFile = other.trustFile ∧
      host.trustType = other.trustType ∧
      Secret.redact host.trustPassword = Secret.redact other.trustPassword ∧
      host.trustStore = other.trustStore ∧
      host.verification = other.verification := by
  simp [redact]

@[simp] theorem debug_redact : host.redact.debug = host.debug := by
  cases certificate : host.certificate <;> simp [debug, redact, certificate]

@[simp] theorem redact_setProtocol {protocol : String} :
    (host.setProtocol protocol).redact = host.redact.setProtocol protocol := rfl

@[simp] theorem redact_setCertificate {certificate : HostCertificate} :
    (host.setCertificate certificate).redact = host.redact.setCertificate certificate.redact := rfl

@[simp] theorem redact_setVerification {verification : ClientVerify} :
    (host.setVerification verification).redact = host.redact.setVerification verification := rfl

@[simp] theorem redact_bindCiphers :
    (host.bindCiphers settings).redact = host.redact.bindCiphers settings.redact :=
  apply_ite HostConfig.redact _ _ _

@[simp] theorem redact_bindProtocols :
    (host.bindProtocols settings).redact = host.redact.bindProtocols settings.redact :=
  apply_ite HostConfig.redact _ _ _

@[simp] theorem redact_bindTrust :
    (host.bindTrust stores).redact = host.redact.bindTrust stores.redact := by
  have same : stores.redact.trustStore = stores.trustStore := rfl
  rw [bindTrust, bindTrust, same]
  cases stores.trustStore <;> rfl

/-- Binding writes passwords, but does not read them. -/
theorem redact_bind :
    (host.bind settings stores).redact = host.redact.bind settings.redact stores.redact := by
  simp only [bind, redact_setVerification, redact_bindTrust, redact_setCertificate,
    redact_bindProtocols, redact_setProtocol, redact_bindCiphers]
  rfl

end HostConfig

end TlsListener
