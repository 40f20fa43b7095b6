/-!
# Passwords

A password is kept apart from other texts, so that no diagnostic shows it: the diagnostic form of
every password is the same.
-/

namespace TlsListener

/-- A password or passphrase. -/
structure Secret where
  expose : String
  deriving DecidableEq

namespace Secret

/-- A password in a diagnostic. -/
def debug (_ : Secret) : String := "Secret(***)"

/-- Diagnostics do not tell passwords apart. -/
theorem debug_eq (s t : Secret) : s.debug = t.debug := rfl

end Secret

end TlsListener
