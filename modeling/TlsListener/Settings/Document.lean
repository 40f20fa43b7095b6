import TlsListener.Settings.Basic
import TlsListener.Text.Quoted
import TlsListener.Toml.Document
import TlsListener.Toml.Excerpt

/-!
# Settings from a document

A document declares a setting by an entry under the setting's key. The entries are taken in order,
and the first that is not a declaration is complained about: its key is unknown, or its value is of
the wrong kind. Every complaint names a place in the document: that of the value where it has one,
and else that of its key.
-/

namespace TlsListener

/-- The key under which a setting is declared. -/
inductive SettingKey where
  | enabled | keyStore | keyStorePassword | keyPassword | keyStoreType | keyStoreProvider
  | keyAlias | trustStore | trustStorePassword | trustStoreType | trustStoreProvider
  | enabledProtocols | ciphers | protocol | clientAuth
  deriving DecidableEq, Repr

namespace SettingKey

/-- All keys, in the order in which they are offered when a key is unknown. -/
def all : List SettingKey :=
  [enabled, keyStore, keyStorePassword, keyPassword, keyStoreType, keyStoreProvider, keyAlias,
    trustStore, trustStorePassword, trustStoreType, trustStoreProvider, enabledProtocols, ciphers,
    protocol, clientAuth]

/-- The spelling of a key. -/
def name : SettingKey → String
  | enabled => "enabled"
  | keyStore => "key-store"
  | keyStorePassword => "key-store-password"
  | keyPassword => "key-password"
  | keyStoreType => "key-store-type"
  | keyStoreProvider => "key-store-provider"
  | keyAlias => "key-alias"
  | trustStore => "trust-store"
  | trustStorePassword => "trust-store-password"
  | trustStoreType => "trust-store-type"
  | trustStoreProvider => "trust-store-provider"
  | enabledProtocols => "enabled-protocols"
  | ciphers => "ciphers"
  | protocol => "protocol"
  | clientAuth => "client-auth"

/-- The key of a spelling. -/
def ofName? (s : String) : Option SettingKey :=
  all.find? fun key => key.name == s

end SettingKey

/-- What a setting's value may be asked to be. -/
inductive Wanted where
  | text | boolean | sequence
  deriving DecidableEq, Repr

/-- What is wrong with an entry of a document of settings. -/
inductive Complaint where
  | unknownKey (name : String)
  | unknownMode (name : String)
  /-- A value of the wrong kind, described as it was found. -/
  | wrongKind (found : String) (wanted : Wanted)
  /-- A client authentication mode that is neither a text nor a table. -/
  | modeNeitherTextNorTable
  | modeMissing
  | modeRepeated
  /-- A client authentication mode given as a key whose value is a table with entries, or an array
  with elements. -/
  | modeWithEntries
  /-- A client authentication mode given as a key of several tables. -/
  | modeWithTables
  /-- A client authentication mode given as a key whose value is neither table nor array. -/
  | modeWithValue (found : String)
  deriving DecidableEq, Repr

namespace Complaint

/-- A name between grave accents. -/
def ticked (s : String) : String := "\x60" ++ s ++ "\x60"

/-- Names to choose from. -/
def choice (names : List String) : String :=
  "expected one of " ++ String.intercalate ", " (names.map ticked)

/-- The text of a complaint. -/
def message : Complaint → String
  | unknownKey name =>
    "unknown field " ++ ticked name ++ ", " ++ choice (SettingKey.all.map (·.name))
  | unknownMode name =>
    "unknown variant " ++ ticked name ++ ", " ++ choice (ClientAuth.all.map (·.name))
  | wrongKind found .text => "invalid type: " ++ found ++ ", expected a string"
  | wrongKind found .boolean => "invalid type: " ++ found ++ ", expected a boolean"
  | wrongKind found .sequence => "invalid type: " ++ found ++ ", expected a sequence"
  | modeNeitherTextNorTable => "wanted string or table"
  | modeMissing => "wanted exactly 1 element, found 0 elements"
  | modeRepeated => "wanted exactly 1 element, more than 1 element"
  | modeWithEntries => "expected empty table"
  | modeWithTables => "expected empty array"
  | modeWithValue found => "expected table, found " ++ found

end Complaint

/-- A complaint about a place in a document. -/
structure Rejection where
  place : Toml.Span
  complaint : Complaint
  deriving DecidableEq, Repr

namespace SettingKey

open Toml

/-- An item as it is described where it is of the wrong kind. -/
def found : Item → String
  | .scalar (.text value) _ => "string " ++ Text.quoted value
  | .scalar (.integer value) _ => "integer " ++ Complaint.ticked (toString value)
  | .scalar (.number value) _ => "floating point " ++ Complaint.ticked value.render
  | .scalar (.boolean value) _ => "boolean " ++ Complaint.ticked (toString value)
  | .scalar .moment _ => "map"
  | .array _ _ => "sequence"
  | .tables _ _ => "sequence"
  | .table _ _ _ => "map"

/-- A text, complained about at `place` if it is none. -/
def readText (place : Span) : Item → Except Rejection String
  | .scalar (.text value) _ => .ok value
  | item => .error ⟨place, .wrongKind (found item) .text⟩

/-- A boolean. -/
def readBoolean (place : Span) : Item → Except Rejection Bool
  | .scalar (.boolean value) _ => .ok value
  | item => .error ⟨place, .wrongKind (found item) .boolean⟩

/-- A list of texts, each with its own place. -/
def readTexts (place : Span) : Item → Except Rejection (List String)
  | .array items _ | .tables items _ =>
    items.mapM fun item => readText (item.span?.getD place) item
  | item => .error ⟨place, .wrongKind (found item) .sequence⟩

/-- A client authentication mode by its name. -/
def readModeName (place : Span) (name : String) : Except Rejection ClientAuth :=
  match ClientAuth.ofName? name with
  | some mode => .ok mode
  | none => .error ⟨place, .unknownMode name⟩

/-- A client authentication mode: a text, or a table with the mode as its only key and an empty
table or array as its value. -/
def readMode (place : Span) : Item → Except Rejection ClientAuth
  | .scalar (.text name) _ => readModeName place name
  | .table _ [] _ => .error ⟨place, .modeMissing⟩
  | .table _ [(key, value)] _ => do
    let mode ← readModeName key.span key.name
    let valuePlace := value.span?.getD place
    match value with
    | .table _ [] _ | .array [] _ | .tables [] _ => return mode
    | .table _ _ _ | .array _ _ => throw ⟨valuePlace, .modeWithEntries⟩
    | .tables _ _ => throw ⟨valuePlace, .modeWithTables⟩
    | _ => throw ⟨valuePlace, .modeWithValue value.typeName⟩
  | .table _ _ _ => .error ⟨place, .modeRepeated⟩
  | _ => .error ⟨place, .modeNeitherTextNorTable⟩

/-- The declaration that an item makes under a key. -/
def read (key : SettingKey) (place : Span) (item : Item) : Except Rejection Setting :=
  match key with
  | enabled => .enabled <$> readBoolean place item
  | keyStore => .keyStore <$> readText place item
  | keyStorePassword => (.keyStorePassword ⟨·⟩) <$> readText place item
  | keyPassword => (.keyPassword ⟨·⟩) <$> readText place item
  | keyStoreType => (.keyStoreType <| .parse ·) <$> readText place item
  | keyStoreProvider => .keyStoreProvider <$> readText place item
  | keyAlias => .keyAlias <$> readText place item
  | trustStore => .trustStore <$> readText place item
  | trustStorePassword => (.trustStorePassword ⟨·⟩) <$> readText place item
  | trustStoreType => (.trustStoreType <| .parse ·) <$> readText place item
  | trustStoreProvider => .trustStoreProvider <$> readText place item
  | enabledProtocols => .enabledProtocols <$> readTexts place item
  | ciphers => .ciphers <$> readTexts place item
  | protocol => .protocol <$> readText place item
  | clientAuth => .clientAuth <$> readMode place item

end SettingKey

/-- The declaration that an entry of a document makes. -/
def Setting.ofEntry (key : Toml.Key) (item : Toml.Item) : Except Rejection Setting :=
  match SettingKey.ofName? key.name with
  | some known => known.read (item.span?.getD key.span) item
  | none => .error ⟨key.span, .unknownKey key.name⟩

/-- Why a document gives no settings. -/
inductive DocumentFault where
  /-- The text is no document. -/
  | malformed
  /-- The first entry that is no declaration, in the text it stands in. -/
  | rejected (text : String) (rejection : Rejection)
  deriving DecidableEq, Repr

namespace Settings

/-- The settings that the entries of a document declare. -/
def ofEntries (entries : Toml.Entries) : Except Rejection Settings :=
  ofList <$> entries.mapM fun entry => Setting.ofEntry entry.1 entry.2

/-- The settings that a text declares. -/
def ofDocument (text : String) : Except DocumentFault Settings :=
  match Toml.document? text with
  | none => .error .malformed
  | some entries => (ofEntries entries).mapError (.rejected text)

end Settings

end TlsListener
