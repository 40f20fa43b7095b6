import TlsListener.Failure.Io
import TlsListener.StoreType

/-!
# Failures of a single store

Why a key or trust store could not be read: its file, its provider, or its contents.
-/

namespace TlsListener

/-- Why a store could not be read. -/
inductive StoreFailure where
  | io (failure : IoFailure)
  /-- The cryptographic engine refused the contents. -/
  | engine
  | unsupportedType (type : String)
  | unknownProvider (provider : String)
  | noProvider (type : String)
  | providerMismatch (provider : String) (type : String)
  | missingLocation
  | tooLarge (limit : Nat)
  | empty
  /-- The provider's own account of a failure. -/
  | provider (account : String)
  deriving DecidableEq, Repr

/-- What stands where the engine's account of a failure would. Its wording is no part of any
failure here. -/
def engineAccount : String := "<openssl>"

namespace StoreFailure

/-- The text of a failure. -/
def message : StoreFailure → String
  | io failure => "I/O error: " ++ failure.message
  | engine => "OpenSSL error: " ++ engineAccount
  | unsupportedType type => "Unsupported key store type '" ++ type ++ "'"
  | unknownProvider name => "Security provider '" ++ name ++ "' is not registered"
  | noProvider type => "No security provider supports key store type '" ++ type ++ "'"
  | providerMismatch name type =>
    "Security provider '" ++ name ++ "' does not support key store type '" ++ type ++ "'"
  | missingLocation => "Key store location is not set"
  | tooLarge limit => s!"Key store file exceeds {limit} bytes"
  | empty => "Key store contains no entries"
  | provider account => account

end StoreFailure

end TlsListener
