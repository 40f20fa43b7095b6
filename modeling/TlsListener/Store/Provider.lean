import TlsListener.Store.Container

/-!
# Security providers

A provider makes stores of some types. Providers are registered in order; a store is made by the
provider that is named, or else by the first that knows its type. The provider that is built in
reads archives and PEM texts; hardware tokens are reached through providers that an application
registers.
-/

namespace TlsListener

/-- A security provider. It is handed the contents of the store's file, where there is one. -/
structure Provider where
  name : String
  supports : StoreType → Bool
  load : StoreType → Option ByteArray → Option Secret → Outcome StoreFailure KeyStore

namespace Provider

/-- The name of the provider that is built in. -/
def builtInName : String := "OpenSSL"

/-- The provider that is built in. -/
def builtIn (engine : Engine) : Provider where
  name := builtInName
  supports type :=
    match type with
    | .pkcs12 | .pem => true
    | _ => false
  load type input password :=
    match input with
    | none => .fail .missingLocation
    | some bytes =>
      match type with
      | .pkcs12 => KeyStore.ofArchive engine bytes password builtInName
      | .pem => KeyStore.ofText engine bytes password builtInName
      | other => .fail (.unsupportedType other.name)

end Provider

/-- Providers in the order in which they were registered. -/
structure Registry where
  providers : List Provider

namespace Registry

/-- No providers. -/
def empty : Registry := ⟨[]⟩

/-- One more provider, after all others. -/
def register (registry : Registry) (provider : Provider) : Registry :=
  ⟨registry.providers ++ [provider]⟩

/-- The provider that is built in, and no others. -/
def default (engine : Engine) : Registry :=
  empty.register (Provider.builtIn engine)

/-- The providers without those of a name, and whether there were any. -/
def remove (registry : Registry) (name : String) : Bool × Registry :=
  let kept := registry.providers.filter fun provider => provider.name != name
  (kept.length != registry.providers.length, ⟨kept⟩)

/-- The first provider of a name. -/
def get? (registry : Registry) (name : String) : Option Provider :=
  registry.providers.find? fun provider => provider.name == name

/-- The names of the providers. -/
def names (registry : Registry) : List String :=
  registry.providers.map Provider.name

/-- The provider that makes stores of a type: the first of the name that is asked for, if it knows
the type, or without a name the first that does. -/
def select (registry : Registry) (type : StoreType) (name : Option String) :
    Except StoreFailure Provider :=
  match name with
  | some name =>
    match registry.get? name with
    | none => .error (.unknownProvider name)
    | some provider =>
      if provider.supports type then .ok provider
      else .error (.providerMismatch name type.name)
  | none =>
    match registry.providers.find? fun provider => provider.supports type with
    | some provider => .ok provider
    | none =>
      match type with
      | .other name => .error (.unsupportedType name)
      | known => .error (.noProvider known.name)

/-- A registry in a diagnostic. -/
def debug (registry : Registry) : String :=
  Text.listed (registry.names.map Text.quoted)

end Registry

end TlsListener
