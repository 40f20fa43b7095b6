/-!
# Cipher suites

The suites that the engine knows. Those of the versions before TLS 1.3 have two names each, that of
the registry of suites and the engine's own, and are put together from a key exchange, a way to
authenticate the server, a cipher, and a code that protects the messages. Suites of TLS 1.3 are
known by their registered names alone.
-/

namespace TlsListener

namespace Suite

/-- How the keys of a connection are agreed on. -/
inductive Exchange where
  | rsa | dhe | ecdhe | psk | rsaPsk | dhePsk | ecdhePsk | srp
  deriving DecidableEq, Repr

/-- How a server shows who it is. -/
inductive Authentication where
  | rsa | dss | ecdsa | psk | srp
  /-- It does not. -/
  | anonymous
  deriving DecidableEq, Repr

/-- How messages are encrypted. -/
inductive Encryption where
  | tripleDes | aes128 | aes256 | aes128Gcm | aes256Gcm | aes128Ccm | aes256Ccm | aes128Ccm8
  | aes256Ccm8 | aria128Gcm | aria256Gcm | chacha20
  /-- They are not. -/
  | plain
  deriving DecidableEq, Repr

/-- How messages are protected against changes. -/
inductive MessageCode where
  | md5 | sha1 | sha256 | sha384
  /-- By the encryption itself. -/
  | aead
  deriving DecidableEq, Repr

/-- The version from which on a suite may be used. -/
inductive Era where
  | ssl3 | tls10 | tls12
  deriving DecidableEq, Repr

/-- How strong a suite is. -/
inductive Grade where
  | low | medium | high
  /-- Approved by a federal standard. -/
  | fips
  deriving DecidableEq, Repr

end Suite

open Suite in
/-- A suite of the versions before TLS 1.3: the registered name, the engine's own, and the parts. -/
structure Suite where
  registered : String
  name : String
  exchange : Exchange
  authentication : Authentication
  encryption : Encryption
  code : MessageCode
  era : Era
  deriving DecidableEq, Repr

namespace Suite

/-- Whether a suite uses the cipher AES in one of its two oldest modes or in that of Galois. -/
def usesApprovedCipher (suite : Suite) : Bool :=
  [Encryption.aes128, .aes256, .aes128Gcm, .aes256Gcm].contains suite.encryption

/-- The grades of a suite. One that does not encrypt has none. -/
def grades (suite : Suite) : List Grade :=
  if suite.encryption = .plain then []
  else if suite.usesApprovedCipher && suite.exchange ≠ .srp then [.high, .fips]
  else [.high]

/-- The ciphers that are not offered unless they are asked for. -/
def rareCiphers : List Encryption :=
  [.aes128Ccm, .aes256Ccm, .aes128Ccm8, .aes256Ccm8, .aria128Gcm, .aria256Gcm]

/-- Whether a suite that encrypts is not offered unless it is asked for. -/
def isRare (suite : Suite) : Bool :=
  suite.encryption ≠ .plain &&
    (rareCiphers.contains suite.encryption ||
      [Authentication.anonymous, .dss].contains suite.authentication)

/-- The suites before TLS 1.3. -/
def classic : List Suite := [
  ⟨"TLS_DHE_DSS_WITH_AES_128_CBC_SHA", "DHE-DSS-AES128-SHA",
    .dhe, .dss, .aes128, .sha1, .ssl3⟩,
  ⟨"TLS_DHE_DSS_WITH_AES_128_CBC_SHA256", "DHE-DSS-AES128-SHA256",
    .dhe, .dss, .aes128, .sha256, .tls12⟩,
  ⟨"TLS_DHE_DSS_WITH_AES_128_GCM_SHA256", "DHE-DSS-AES128-GCM-SHA256",
    .dhe, .dss, .aes128Gcm, .aead, .tls12⟩,
  ⟨"TLS_DHE_DSS_WITH_AES_256_CBC_SHA", "DHE-DSS-AES256-SHA",
    .dhe, .dss, .aes256, .sha1, .ssl3⟩,
  ⟨"TLS_DHE_DSS_WITH_AES_256_CBC_SHA256", "DHE-DSS-AES256-SHA256",
    .dhe, .dss, .aes256, .sha256, .tls12⟩,
  ⟨"TLS_DHE_DSS_WITH_AES_256_GCM_SHA384", "DHE-DSS-AES256-GCM-SHA384",
    .dhe, .dss, .aes256Gcm, .aead, .tls12⟩,
  ⟨"TLS_DHE_DSS_WITH_ARIA_128_GCM_SHA256", "DHE-DSS-ARIA128-GCM-SHA256",
    .dhe, .dss, .aria128Gcm, .aead, .tls12⟩,
  ⟨"TLS_DHE_DSS_WITH_ARIA_256_GCM_SHA384", "DHE-DSS-ARIA256-GCM-SHA384",
    .dhe, .dss, .aria256Gcm, .aead, .tls12⟩,
  ⟨"TLS_DHE_PSK_WITH_AES_128_CBC_SHA", "DHE-PSK-AES128-CBC-SHA",
    .dhePsk, .psk, .aes128, .sha1, .ssl3⟩,
  ⟨"TLS_DHE_PSK_WITH_AES_128_CBC_SHA256", "DHE-PSK-AES128-CBC-SHA256",
    .dhePsk, .psk, .aes128, .sha256, .tls10⟩,
  ⟨"TLS_DHE_PSK_WITH_AES_128_CCM", "DHE-PSK-AES128-CCM",
    .dhePsk, .psk, .aes128Ccm, .aead, .tls12⟩,
  ⟨"TLS_DHE_PSK_WITH_AES_128_GCM_SHA256", "DHE-PSK-AES128-GCM-SHA256",
    .dhePsk, .psk, .aes128Gcm, .aead, .tls12⟩,
  ⟨"TLS_DHE_PSK_WITH_AES_256_CBC_SHA", "DHE-PSK-AES256-CBC-SHA",
    .dhePsk, .psk, .aes256, .sha1, .ssl3⟩,
  ⟨"TLS_DHE_PSK_WITH_AES_256_CBC_SHA384", "DHE-PSK-AES256-CBC-SHA384",
    .dhePsk, .psk, .aes256, .sha384, .tls10⟩,
  ⟨"TLS_DHE_PSK_WITH_AES_256_CCM", "DHE-PSK-AES256-CCM",
    .dhePsk, .psk, .aes256Ccm, .aead, .tls12⟩,
  ⟨"TLS_DHE_PSK_WITH_AES_256_GCM_SHA384", "DHE-PSK-AES256-GCM-SHA384",
    .dhePsk, .psk, .aes256Gcm, .aead, .tls12⟩,
  ⟨"TLS_DHE_PSK_WITH_ARIA_128_GCM_SHA256", "DHE-PSK-ARIA128-GCM-SHA256",
    .dhePsk, .psk, .aria128Gcm, .aead, .tls12⟩,
  ⟨"TLS_DHE_PSK_WITH_ARIA_256_GCM_SHA384", "DHE-PSK-ARIA256-GCM-SHA384",
    .dhePsk, .psk, .aria256Gcm, .aead, .tls12⟩,
  ⟨"TLS_DHE_PSK_WITH_CHACHA20_POLY1305_SHA256", "DHE-PSK-CHACHA20-POLY1305",
    .dhePsk, .psk, .chacha20, .aead, .tls12⟩,
  ⟨"TLS_DHE_PSK_WITH_NULL_SHA", "DHE-PSK-NULL-SHA",
    .dhePsk, .psk, .plain, .sha1, .ssl3⟩,
  ⟨"TLS_DHE_PSK_WITH_NULL_SHA256", "DHE-PSK-NULL-SHA256",
    .dhePsk, .psk, .plain, .sha256, .tls10⟩,
  ⟨"TLS_DHE_PSK_WITH_NULL_SHA384", "DHE-PSK-NULL-SHA384",
    .dhePsk, .psk, .plain, .sha384, .tls10⟩,
  ⟨"TLS_DHE_RSA_WITH_AES_128_CBC_SHA", "DHE-RSA-AES128-SHA",
    .dhe, .rsa, .aes128, .sha1, .ssl3⟩,
  ⟨"TLS_DHE_RSA_WITH_AES_128_CBC_SHA256", "DHE-RSA-AES128-SHA256",
    .dhe, .rsa, .aes128, .sha256, .tls12⟩,
  ⟨"TLS_DHE_RSA_WITH_AES_128_CCM", "DHE-RSA-AES128-CCM",
    .dhe, .rsa, .aes128Ccm, .aead, .tls12⟩,
  ⟨"TLS_DHE_RSA_WITH_AES_128_CCM_8", "DHE-RSA-AES128-CCM8",
    .dhe, .rsa, .aes128Ccm8, .aead, .tls12⟩,
  ⟨"TLS_DHE_RSA_WITH_AES_128_GCM_SHA256", "DHE-RSA-AES128-GCM-SHA256",
    .dhe, .rsa, .aes128Gcm, .aead, .tls12⟩,
  ⟨"TLS_DHE_RSA_WITH_AES_256_CBC_SHA", "DHE-RSA-AES256-SHA",
    .dhe, .rsa, .aes256, .sha1, .ssl3⟩,
  ⟨"TLS_DHE_RSA_WITH_AES_256_CBC_SHA256", "DHE-RSA-AES256-SHA256",
    .dhe, .rsa, .aes256, .sha256, .tls12⟩,
  ⟨"TLS_DHE_RSA_WITH_AES_256_CCM", "DHE-RSA-AES256-CCM",
    .dhe, .rsa, .aes256Ccm, .aead, .tls12⟩,
  ⟨"TLS_DHE_RSA_WITH_AES_256_CCM_8", "DHE-RSA-AES256-CCM8",
    .dhe, .rsa, .aes256Ccm8, .aead, .tls12⟩,
  ⟨"TLS_DHE_RSA_WITH_AES_256_GCM_SHA384", "DHE-RSA-AES256-GCM-SHA384",
    .dhe, .rsa, .aes256Gcm, .aead, .tls12⟩,
  ⟨"TLS_DHE_RSA_WITH_ARIA_128_GCM_SHA256", "DHE-RSA-ARIA128-GCM-SHA256",
    .dhe, .rsa, .aria128Gcm, .aead, .tls12⟩,
  ⟨"TLS_DHE_RSA_WITH_ARIA_256_GCM_SHA384", "DHE-RSA-ARIA256-GCM-SHA384",
    .dhe, .rsa, .aria256Gcm, .aead, .tls12⟩,
  ⟨"TLS_DHE_RSA_WITH_CHACHA20_POLY1305_SHA256", "DHE-RSA-CHACHA20-POLY1305",
    .dhe, .rsa, .chacha20, .aead, .tls12⟩,
  ⟨"TLS_DH_anon_WITH_AES_128_CBC_SHA", "ADH-AES128-SHA",
    .dhe, .anonymous, .aes128, .sha1, .ssl3⟩,
  ⟨"TLS_DH_anon_WITH_AES_128_CBC_SHA256", "ADH-AES128-SHA256",
    .dhe, .anonymous, .aes128, .sha256, .tls12⟩,
  ⟨"TLS_DH_anon_WITH_AES_128_GCM_SHA256", "ADH-AES128-GCM-SHA256",
    .dhe, .anonymous, .aes128Gcm, .aead, .tls12⟩,
  ⟨"TLS_DH_anon_WITH_AES_256_CBC_SHA", "ADH-AES256-SHA",
    .dhe, .anonymous, .aes256, .sha1, .ssl3⟩,
  ⟨"TLS_DH_anon_WITH_AES_256_CBC_SHA256", "ADH-AES256-SHA256",
    .dhe, .anonymous, .aes256, .sha256, .tls12⟩,
  ⟨"TLS_DH_anon_WITH_AES_256_GCM_SHA384", "ADH-AES256-GCM-SHA384",
    .dhe, .anonymous, .aes256Gcm, .aead, .tls12⟩,
  ⟨"TLS_ECDHE_ECDSA_WITH_AES_128_CBC_SHA", "ECDHE-ECDSA-AES128-SHA",
    .ecdhe, .ecdsa, .aes128, .sha1, .tls10⟩,
  ⟨"TLS_ECDHE_ECDSA_WITH_AES_128_CBC_SHA256", "ECDHE-ECDSA-AES128-SHA256",
    .ecdhe, .ecdsa, .aes128, .sha256, .tls12⟩,
  ⟨"TLS_ECDHE_ECDSA_WITH_AES_128_CCM", "ECDHE-ECDSA-AES128-CCM",
    .ecdhe, .ecdsa, .aes128Ccm, .aead, .tls12⟩,
  ⟨"TLS_ECDHE_ECDSA_WITH_AES_128_CCM_8", "ECDHE-ECDSA-AES128-CCM8",
    .ecdhe, .ecdsa, .aes128Ccm8, .aead, .tls12⟩,
  ⟨"TLS_ECDHE_ECDSA_WITH_AES_128_GCM_SHA256", "ECDHE-ECDSA-AES128-GCM-SHA256",
    .ecdhe, .ecdsa, .aes128Gcm, .aead, .tls12⟩,
  ⟨"TLS_ECDHE_ECDSA_WITH_AES_256_CBC_SHA", "ECDHE-ECDSA-AES256-SHA",
    .ecdhe, .ecdsa, .aes256, .sha1, .tls10⟩,
  ⟨"TLS_ECDHE_ECDSA_WITH_AES_256_CBC_SHA384", "ECDHE-ECDSA-AES256-SHA384",
    .ecdhe, .ecdsa, .aes256, .sha384, .tls12⟩,
  ⟨"TLS_ECDHE_ECDSA_WITH_AES_256_CCM", "ECDHE-ECDSA-AES256-CCM",
    .ecdhe, .ecdsa, .aes256Ccm, .aead, .tls12⟩,
  ⟨"TLS_ECDHE_ECDSA_WITH_AES_256_CCM_8", "ECDHE-ECDSA-AES256-CCM8",
    .ecdhe, .ecdsa, .aes256Ccm8, .aead, .tls12⟩,
  ⟨"TLS_ECDHE_ECDSA_WITH_AES_256_GCM_SHA384", "ECDHE-ECDSA-AES256-GCM-SHA384",
    .ecdhe, .ecdsa, .aes256Gcm, .aead, .tls12⟩,
  ⟨"TLS_ECDHE_ECDSA_WITH_ARIA_128_GCM_SHA256", "ECDHE-ECDSA-ARIA128-GCM-SHA256",
    .ecdhe, .ecdsa, .aria128Gcm, .aead, .tls12⟩,
  ⟨"TLS_ECDHE_ECDSA_WITH_ARIA_256_GCM_SHA384", "ECDHE-ECDSA-ARIA256-GCM-SHA384",
    .ecdhe, .ecdsa, .aria256Gcm, .aead, .tls12⟩,
  ⟨"TLS_ECDHE_ECDSA_WITH_CHACHA20_POLY1305_SHA256", "ECDHE-ECDSA-CHACHA20-POLY1305",
    .ecdhe, .ecdsa, .chacha20, .aead, .tls12⟩,
  ⟨"TLS_ECDHE_ECDSA_WITH_NULL_SHA", "ECDHE-ECDSA-NULL-SHA",
    .ecdhe, .ecdsa, .plain, .sha1, .tls10⟩,
  ⟨"TLS_ECDHE_PSK_WITH_AES_128_CBC_SHA", "ECDHE-PSK-AES128-CBC-SHA",
    .ecdhePsk, .psk, .aes128, .sha1, .tls10⟩,
  ⟨"TLS_ECDHE_PSK_WITH_AES_128_CBC_SHA256", "ECDHE-PSK-AES128-CBC-SHA256",
    .ecdhePsk, .psk, .aes128, .sha256, .tls10⟩,
  ⟨"TLS_ECDHE_PSK_WITH_AES_256_CBC_SHA", "ECDHE-PSK-AES256-CBC-SHA",
    .ecdhePsk, .psk, .aes256, .sha1, .tls10⟩,
  ⟨"TLS_ECDHE_PSK_WITH_AES_256_CBC_SHA384", "ECDHE-PSK-AES256-CBC-SHA384",
    .ecdhePsk, .psk, .aes256, .sha384, .tls10⟩,
  ⟨"TLS_ECDHE_PSK_WITH_CHACHA20_POLY1305_SHA256", "ECDHE-PSK-CHACHA20-POLY1305",
    .ecdhePsk, .psk, .chacha20, .aead, .tls12⟩,
  ⟨"TLS_ECDHE_PSK_WITH_NULL_SHA", "ECDHE-PSK-NULL-SHA",
    .ecdhePsk, .psk, .plain, .sha1, .tls10⟩,
  ⟨"TLS_ECDHE_PSK_WITH_NULL_SHA256", "ECDHE-PSK-NULL-SHA256",
    .ecdhePsk, .psk, .plain, .sha256, .tls10⟩,
  ⟨"TLS_ECDHE_PSK_WITH_NULL_SHA384", "ECDHE-PSK-NULL-SHA384",
    .ecdhePsk, .psk, .plain, .sha384, .tls10⟩,
  ⟨"TLS_ECDHE_RSA_WITH_AES_128_CBC_SHA", "ECDHE-RSA-AES128-SHA",
    .ecdhe, .rsa, .aes128, .sha1, .tls10⟩,
  ⟨"TLS_ECDHE_RSA_WITH_AES_128_CBC_SHA256", "ECDHE-RSA-AES128-SHA256",
    .ecdhe, .rsa, .aes128, .sha256, .tls12⟩,
  ⟨"TLS_ECDHE_RSA_WITH_AES_128_GCM_SHA256", "ECDHE-RSA-AES128-GCM-SHA256",
    .ecdhe, .rsa, .aes128Gcm, .aead, .tls12⟩,
  ⟨"TLS_ECDHE_RSA_WITH_AES_256_CBC_SHA", "ECDHE-RSA-AES256-SHA",
    .ecdhe, .rsa, .aes256, .sha1, .tls10⟩,
  ⟨"TLS_ECDHE_RSA_WITH_AES_256_CBC_SHA384", "ECDHE-RSA-AES256-SHA384",
    .ecdhe, .rsa, .aes256, .sha384, .tls12⟩,
  ⟨"TLS_ECDHE_RSA_WITH_AES_256_GCM_SHA384", "ECDHE-RSA-AES256-GCM-SHA384",
    .ecdhe, .rsa, .aes256Gcm, .aead, .tls12⟩,
  ⟨"TLS_ECDHE_RSA_WITH_ARIA_128_GCM_SHA256", "ECDHE-ARIA128-GCM-SHA256",
    .ecdhe, .rsa, .aria128Gcm, .aead, .tls12⟩,
  ⟨"TLS_ECDHE_RSA_WITH_ARIA_256_GCM_SHA384", "ECDHE-ARIA256-GCM-SHA384",
    .ecdhe, .rsa, .aria256Gcm, .aead, .tls12⟩,
  ⟨"TLS_ECDHE_RSA_WITH_CHACHA20_POLY1305_SHA256", "ECDHE-RSA-CHACHA20-POLY1305",
    .ecdhe, .rsa, .chacha20, .aead, .tls12⟩,
  ⟨"TLS_ECDHE_RSA_WITH_NULL_SHA", "ECDHE-RSA-NULL-SHA",
    .ecdhe, .rsa, .plain, .sha1, .tls10⟩,
  ⟨"TLS_ECDH_anon_WITH_AES_128_CBC_SHA", "AECDH-AES128-SHA",
    .ecdhe, .anonymous, .aes128, .sha1, .tls10⟩,
  ⟨"TLS_ECDH_anon_WITH_AES_256_CBC_SHA", "AECDH-AES256-SHA",
    .ecdhe, .anonymous, .aes256, .sha1, .tls10⟩,
  ⟨"TLS_ECDH_anon_WITH_NULL_SHA", "AECDH-NULL-SHA",
    .ecdhe, .anonymous, .plain, .sha1, .tls10⟩,
  ⟨"TLS_PSK_DHE_WITH_AES_128_CCM_8", "DHE-PSK-AES128-CCM8",
    .dhePsk, .psk, .aes128Ccm8, .aead, .tls12⟩,
  ⟨"TLS_PSK_DHE_WITH_AES_256_CCM_8", "DHE-PSK-AES256-CCM8",
    .dhePsk, .psk, .aes256Ccm8, .aead, .tls12⟩,
  ⟨"TLS_PSK_WITH_AES_128_CBC_SHA", "PSK-AES128-CBC-SHA",
    .psk, .psk, .aes128, .sha1, .ssl3⟩,
  ⟨"TLS_PSK_WITH_AES_128_CBC_SHA256", "PSK-AES128-CBC-SHA256",
    .psk, .psk, .aes128, .sha256, .tls10⟩,
  ⟨"TLS_PSK_WITH_AES_128_CCM", "PSK-AES128-CCM",
    .psk, .psk, .aes128Ccm, .aead, .tls12⟩,
  ⟨"TLS_PSK_WITH_AES_128_CCM_8", "PSK-AES128-CCM8",
    .psk, .psk, .aes128Ccm8, .aead, .tls12⟩,
  ⟨"TLS_PSK_WITH_AES_128_GCM_SHA256", "PSK-AES128-GCM-SHA256",
    .psk, .psk, .aes128Gcm, .aead, .tls12⟩,
  ⟨"TLS_PSK_WITH_AES_256_CBC_SHA", "PSK-AES256-CBC-SHA",
    .psk, .psk, .aes256, .sha1, .ssl3⟩,
  ⟨"TLS_PSK_WITH_AES_256_CBC_SHA384", "PSK-AES256-CBC-SHA384",
    .psk, .psk, .aes256, .sha384, .tls10⟩,
  ⟨"TLS_PSK_WITH_AES_256_CCM", "PSK-AES256-CCM",
    .psk, .psk, .aes256Ccm, .aead, .tls12⟩,
  ⟨"TLS_PSK_WITH_AES_256_CCM_8", "PSK-AES256-CCM8",
    .psk, .psk, .aes256Ccm8, .aead, .tls12⟩,
  ⟨"TLS_PSK_WITH_AES_256_GCM_SHA384", "PSK-AES256-GCM-SHA384",
    .psk, .psk, .aes256Gcm, .aead, .tls12⟩,
  ⟨"TLS_PSK_WITH_ARIA_128_GCM_SHA256", "PSK-ARIA128-GCM-SHA256",
    .psk, .psk, .aria128Gcm, .aead, .tls12⟩,
  ⟨"TLS_PSK_WITH_ARIA_256_GCM_SHA384", "PSK-ARIA256-GCM-SHA384",
    .psk, .psk, .aria256Gcm, .aead, .tls12⟩,
  ⟨"TLS_PSK_WITH_CHACHA20_POLY1305_SHA256", "PSK-CHACHA20-POLY1305",
    .psk, .psk, .chacha20, .aead, .tls12⟩,
  ⟨"TLS_PSK_WITH_NULL_SHA", "PSK-NULL-SHA",
    .psk, .psk, .plain, .sha1, .ssl3⟩,
  ⟨"TLS_PSK_WITH_NULL_SHA256", "PSK-NULL-SHA256",
    .psk, .psk, .plain, .sha256, .tls10⟩,
  ⟨"TLS_PSK_WITH_NULL_SHA384", "PSK-NULL-SHA384",
    .psk, .psk, .plain, .sha384, .tls10⟩,
  ⟨"TLS_RSA_PSK_WITH_AES_128_CBC_SHA", "RSA-PSK-AES128-CBC-SHA",
    .rsaPsk, .rsa, .aes128, .sha1, .ssl3⟩,
  ⟨"TLS_RSA_PSK_WITH_AES_128_CBC_SHA256", "RSA-PSK-AES128-CBC-SHA256",
    .rsaPsk, .rsa, .aes128, .sha256, .tls10⟩,
  ⟨"TLS_RSA_PSK_WITH_AES_128_GCM_SHA256", "RSA-PSK-AES128-GCM-SHA256",
    .rsaPsk, .rsa, .aes128Gcm, .aead, .tls12⟩,
  ⟨"TLS_RSA_PSK_WITH_AES_256_CBC_SHA", "RSA-PSK-AES256-CBC-SHA",
    .rsaPsk, .rsa, .aes256, .sha1, .ssl3⟩,
  ⟨"TLS_RSA_PSK_WITH_AES_256_CBC_SHA384", "RSA-PSK-AES256-CBC-SHA384",
    .rsaPsk, .rsa, .aes256, .sha384, .tls10⟩,
  ⟨"TLS_RSA_PSK_WITH_AES_256_GCM_SHA384", "RSA-PSK-AES256-GCM-SHA384",
    .rsaPsk, .rsa, .aes256Gcm, .aead, .tls12⟩,
  ⟨"TLS_RSA_PSK_WITH_ARIA_128_GCM_SHA256", "RSA-PSK-ARIA128-GCM-SHA256",
    .rsaPsk, .rsa, .aria128Gcm, .aead, .tls12⟩,
  ⟨"TLS_RSA_PSK_WITH_ARIA_256_GCM_SHA384", "RSA-PSK-ARIA256-GCM-SHA384",
    .rsaPsk, .rsa, .aria256Gcm, .aead, .tls12⟩,
  ⟨"TLS_RSA_PSK_WITH_CHACHA20_POLY1305_SHA256", "RSA-PSK-CHACHA20-POLY1305",
    .rsaPsk, .rsa, .chacha20, .aead, .tls12⟩,
  ⟨"TLS_RSA_PSK_WITH_NULL_SHA", "RSA-PSK-NULL-SHA",
    .rsaPsk, .rsa, .plain, .sha1, .ssl3⟩,
  ⟨"TLS_RSA_PSK_WITH_NULL_SHA256", "RSA-PSK-NULL-SHA256",
    .rsaPsk, .rsa, .plain, .sha256, .tls10⟩,
  ⟨"TLS_RSA_PSK_WITH_NULL_SHA384", "RSA-PSK-NULL-SHA384",
    .rsaPsk, .rsa, .plain, .sha384, .tls10⟩,
  ⟨"TLS_RSA_WITH_AES_128_CBC_SHA", "AES128-SHA",
    .rsa, .rsa, .aes128, .sha1, .ssl3⟩,
  ⟨"TLS_RSA_WITH_AES_128_CBC_SHA256", "AES128-SHA256",
    .rsa, .rsa, .aes128, .sha256, .tls12⟩,
  ⟨"TLS_RSA_WITH_AES_128_CCM", "AES128-CCM",
    .rsa, .rsa, .aes128Ccm, .aead, .tls12⟩,
  ⟨"TLS_RSA_WITH_AES_128_CCM_8", "AES128-CCM8",
    .rsa, .rsa, .aes128Ccm8, .aead, .tls12⟩,
  ⟨"TLS_RSA_WITH_AES_128_GCM_SHA256", "AES128-GCM-SHA256",
    .rsa, .rsa, .aes128Gcm, .aead, .tls12⟩,
  ⟨"TLS_RSA_WITH_AES_256_CBC_SHA", "AES256-SHA",
    .rsa, .rsa, .aes256, .sha1, .ssl3⟩,
  ⟨"TLS_RSA_WITH_AES_256_CBC_SHA256", "AES256-SHA256",
    .rsa, .rsa, .aes256, .sha256, .tls12⟩,
  ⟨"TLS_RSA_WITH_AES_256_CCM", "AES256-CCM",
    .rsa, .rsa, .aes256Ccm, .aead, .tls12⟩,
  ⟨"TLS_RSA_WITH_AES_256_CCM_8", "AES256-CCM8",
    .rsa, .rsa, .aes256Ccm8, .aead, .tls12⟩,
  ⟨"TLS_RSA_WITH_AES_256_GCM_SHA384", "AES256-GCM-SHA384",
    .rsa, .rsa, .aes256Gcm, .aead, .tls12⟩,
  ⟨"TLS_RSA_WITH_ARIA_128_GCM_SHA256", "ARIA128-GCM-SHA256",
    .rsa, .rsa, .aria128Gcm, .aead, .tls12⟩,
  ⟨"TLS_RSA_WITH_ARIA_256_GCM_SHA384", "ARIA256-GCM-SHA384",
    .rsa, .rsa, .aria256Gcm, .aead, .tls12⟩,
  ⟨"TLS_RSA_WITH_NULL_MD5", "NULL-MD5",
    .rsa, .rsa, .plain, .md5, .ssl3⟩,
  ⟨"TLS_RSA_WITH_NULL_SHA", "NULL-SHA",
    .rsa, .rsa, .plain, .sha1, .ssl3⟩,
  ⟨"TLS_RSA_WITH_NULL_SHA256", "NULL-SHA256",
    .rsa, .rsa, .plain, .sha256, .tls12⟩,
  ⟨"TLS_SRP_SHA_DSS_WITH_AES_128_CBC_SHA", "SRP-DSS-AES-128-CBC-SHA",
    .srp, .dss, .aes128, .sha1, .ssl3⟩,
  ⟨"TLS_SRP_SHA_DSS_WITH_AES_256_CBC_SHA", "SRP-DSS-AES-256-CBC-SHA",
    .srp, .dss, .aes256, .sha1, .ssl3⟩,
  ⟨"TLS_SRP_SHA_RSA_WITH_AES_128_CBC_SHA", "SRP-RSA-AES-128-CBC-SHA",
    .srp, .rsa, .aes128, .sha1, .ssl3⟩,
  ⟨"TLS_SRP_SHA_RSA_WITH_AES_256_CBC_SHA", "SRP-RSA-AES-256-CBC-SHA",
    .srp, .rsa, .aes256, .sha1, .ssl3⟩,
  ⟨"TLS_SRP_SHA_WITH_AES_128_CBC_SHA", "SRP-AES-128-CBC-SHA",
    .srp, .srp, .aes128, .sha1, .ssl3⟩,
  ⟨"TLS_SRP_SHA_WITH_AES_256_CBC_SHA", "SRP-AES-256-CBC-SHA",
    .srp, .srp, .aes256, .sha1, .ssl3⟩]

/-- Further registered names, which stand for no suite before TLS 1.3. -/
def further : List String := [
  "TLS_AES_128_CCM_8_SHA256", "TLS_AES_128_CCM_SHA256", "TLS_AES_128_GCM_SHA256",
  "TLS_AES_256_GCM_SHA384", "TLS_CHACHA20_POLY1305_SHA256",
  "TLS_DHE_DSS_WITH_CAMELLIA_128_CBC_SHA", "TLS_DHE_DSS_WITH_CAMELLIA_128_CBC_SHA256",
  "TLS_DHE_DSS_WITH_CAMELLIA_256_CBC_SHA", "TLS_DHE_DSS_WITH_CAMELLIA_256_CBC_SHA256",
  "TLS_DHE_DSS_WITH_SEED_CBC_SHA", "TLS_DHE_PSK_WITH_CAMELLIA_128_CBC_SHA256",
  "TLS_DHE_PSK_WITH_CAMELLIA_256_CBC_SHA384", "TLS_DHE_RSA_WITH_CAMELLIA_128_CBC_SHA",
  "TLS_DHE_RSA_WITH_CAMELLIA_128_CBC_SHA256", "TLS_DHE_RSA_WITH_CAMELLIA_256_CBC_SHA",
  "TLS_DHE_RSA_WITH_CAMELLIA_256_CBC_SHA256", "TLS_DHE_RSA_WITH_SEED_CBC_SHA",
  "TLS_DH_anon_WITH_CAMELLIA_128_CBC_SHA", "TLS_DH_anon_WITH_CAMELLIA_128_CBC_SHA256",
  "TLS_DH_anon_WITH_CAMELLIA_256_CBC_SHA", "TLS_DH_anon_WITH_CAMELLIA_256_CBC_SHA256",
  "TLS_DH_anon_WITH_SEED_CBC_SHA", "TLS_ECDHE_ECDSA_WITH_CAMELLIA_128_CBC_SHA256",
  "TLS_ECDHE_ECDSA_WITH_CAMELLIA_256_CBC_SHA384", "TLS_ECDHE_PSK_WITH_CAMELLIA_128_CBC_SHA256",
  "TLS_ECDHE_PSK_WITH_CAMELLIA_256_CBC_SHA384", "TLS_ECDHE_RSA_WITH_CAMELLIA_128_CBC_SHA256",
  "TLS_ECDHE_RSA_WITH_CAMELLIA_256_CBC_SHA384", "TLS_EMPTY_RENEGOTIATION_INFO_SCSV",
  "TLS_FALLBACK_SCSV", "TLS_PSK_WITH_CAMELLIA_128_CBC_SHA256",
  "TLS_PSK_WITH_CAMELLIA_256_CBC_SHA384", "TLS_RSA_PSK_WITH_CAMELLIA_128_CBC_SHA256",
  "TLS_RSA_PSK_WITH_CAMELLIA_256_CBC_SHA384", "TLS_RSA_WITH_CAMELLIA_128_CBC_SHA",
  "TLS_RSA_WITH_CAMELLIA_128_CBC_SHA256", "TLS_RSA_WITH_CAMELLIA_256_CBC_SHA",
  "TLS_RSA_WITH_CAMELLIA_256_CBC_SHA256", "TLS_RSA_WITH_IDEA_CBC_SHA", "TLS_RSA_WITH_SEED_CBC_SHA",
  "TLS_SHA256_SHA256", "TLS_SHA384_SHA384"]

/-- The suite of a registered name. -/
def ofRegistered? (name : String) : Option Suite :=
  classic.find? fun suite => suite.registered == name

/-- The engine's own name of a suite; a name that is not registered stays as it is. -/
def engineName (name : String) : String :=
  ((ofRegistered? name).map Suite.name).getD name

/-- Whether the engine accepts a list of suites for TLS 1.3: it is empty, or names any suite at all.
-/
def acceptsSuites (list : String) : Bool :=
  list.isEmpty || (list.splitOn ":").any fun name =>
    further.contains name || (ofRegistered? name).isSome

end Suite

end TlsListener
