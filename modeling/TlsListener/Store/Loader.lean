import TlsListener.Machine.Basic
import TlsListener.Store.Provider

/-!
# Loading stores

A store is loaded from its location by the provider for its type. A hardware store has no location
and is asked of its provider; every other store has one and is read from a file first. Apart from a
location given for a hardware store, every failure tells which store could not be loaded from where.
-/

namespace TlsListener

/-- The largest file of a store, in bytes. -/
def maxStoreSize : Nat := 4000000

/-- What may stand before the name of a file in a location. -/
def filePrefix : String := "file:"

/-- The name of the file that a location stands for. -/
def fileName (location : String) : String :=
  let front := filePrefix.toList
  let chars := location.toList
  if front.isPrefixOf chars then String.ofList (chars.drop front.length) else location

/-- The contents of the file of a store. -/
def readStoreFile (machine : Machine) (location : String) : Except StoreFailure ByteArray := do
  let bytes ← (machine.read (fileName location)).mapError .io
  if maxStoreSize < bytes.size then throw (.tooLarge maxStoreSize)
  return bytes

/-- What loads stores: a registry of providers. -/
structure Loader where
  registry : Registry

namespace Loader

/-- The loader with the provider that is built in. -/
def default (engine : Engine) : Loader := ⟨.default engine⟩

/-- A store from the provider for its type, with or without the contents of a file. -/
def fromProvider (loader : Loader) (input : Option ByteArray) (password : Option Secret)
    (type : StoreType) (provider : Option String) : Outcome StoreFailure KeyStore := do
  let provider ← (loader.registry.select type provider).mapError .failure
  provider.load type input password

/-- Whether a location says anything. -/
def isLocation (location : String) : Bool :=
  !Text.allBlank location

/-- Load a store for a role. -/
def load (loader : Loader) (machine : Machine) (role : StoreRole) (location : Option String)
    (password : Option Secret) (type : StoreType) (provider : Option String) :
    Outcome Failure StoreHandle :=
  let named := Outcome.mapFailure (Failure.storeLoad role location)
  if type.isHardware then
    if location.any isLocation then .fail (.invalidConfiguration (.locationOfHardware type))
    else named do return ⟨← loader.fromProvider none password type provider, none⟩
  else
    match location.filter isLocation with
    | none => named (.fail .missingLocation)
    | some path => named do
      let bytes ← (readStoreFile machine path).mapError .failure
      return ⟨← loader.fromProvider (some bytes) password type provider, none⟩

/-- A loader in a diagnostic. -/
def debug (loader : Loader) : String :=
  Text.record "KeyStoreLoader" [("providers", loader.registry.debug)]

end Loader

end TlsListener
