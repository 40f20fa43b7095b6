import TlsListener.Context.Versions
import TlsListener.Engine
import TlsListener.Event
import TlsListener.Text.Blank

/-!
# The cipher suites of a context

The suites of a host are one text with colons between the names. TLS 1.3 has suites of its own, and
all older versions share theirs; each name is sorted into one of the two lists by what the engine
accepts, or left out. A version without any suite in its list is disabled rather than left to the
suites that the engine would choose for it.
-/

namespace TlsListener

/-- The names in a text of suites: what stands between its colons, trimmed, unless it is blank. -/
def suiteNames (suites : String) : List String :=
  ((suites.toList.splitOn ':').map Text.trimChars).filterMap fun name =>
    if name.isEmpty then none else some (String.ofList name)

/-- What the name of a suite is to an engine. -/
inductive SuiteKind where
  /-- A suite of the versions before TLS 1.3, under the engine's own name. -/
  | classic (name : String)
  /-- A suite of TLS 1.3. -/
  | modern
  | unsupported
  deriving DecidableEq, Repr

/-- What the name of a suite is to an engine. Where both lists accept it, it is a suite of the older
versions. -/
def Engine.suiteKind (engine : Engine) (name : String) : SuiteKind :=
  if engine.acceptsList (engine.suiteName name) then .classic (engine.suiteName name)
  else if engine.acceptsSuites name then .modern
  else .unsupported

/-- Names of suites sorted by what they are. -/
structure SortedSuites where
  /-- The suites of the versions before TLS 1.3, under the engine's own names. -/
  classic : List String
  /-- The suites of TLS 1.3. -/
  modern : List String
  unsupported : List String
  deriving DecidableEq

namespace SortedSuites

/-- Names sorted by what they are to an engine, each list in the order of the names. -/
def ofNames (engine : Engine) (names : List String) : SortedSuites where
  classic := names.filterMap fun name =>
    match engine.suiteKind name with
    | .classic own => some own
    | _ => none
  modern := names.filter fun name => engine.suiteKind name = .modern
  unsupported := names.filter fun name => engine.suiteKind name = .unsupported

/-- Whether a version has any suite. -/
def serves (sorted : SortedSuites) : Version → Bool
  | .tls13 => !sorted.modern.isEmpty
  | _ => !sorted.classic.isEmpty

/-- Whether no version has any suite. -/
def isEmpty (sorted : SortedSuites) : Bool :=
  sorted.classic.isEmpty && sorted.modern.isEmpty

end SortedSuites

/-- The lists of suites that are set in a context. Where none is set the engine chooses. -/
structure SuiteLists where
  classic : Option String := none
  modern : Option String := none
  deriving DecidableEq

namespace SuiteLists

/-- Names with colons between them, if there are any. -/
def join? (names : List String) : Option String :=
  if names.isEmpty then none else some (String.intercalate ":" names)

/-- The lists that sorted names make. -/
def ofSorted (sorted : SortedSuites) : SuiteLists where
  classic := join? sorted.classic
  modern := join? sorted.modern

/-- Whether an engine accepts the lists. -/
def areAccepted (engine : Engine) (lists : SuiteLists) : Bool :=
  lists.classic.all engine.acceptsList && lists.modern.all engine.acceptsSuites

end SuiteLists

/-- Sort the names in a text of suites, and log those that are not supported. A name that cannot be
handed to the engine cuts the sorting short. -/
def sortSuites (engine : Engine) (suites : String) : Traced SortedSuites :=
  let names := suiteNames suites
  let sorted := SortedSuites.ofNames engine (names.takeWhile isPassable)
  ⟨sorted.unsupported.map .suiteUnsupported,
    if names.all isPassable then .ok sorted else .cutShort⟩

/-- The lists of suites to set for a text of suites, and those of the given versions that remain. -/
def restrictToSuites (engine : Engine) (suites : String) (versions : List Version) :
    Traced (SuiteLists × List Version) := do
  let sorted ← sortSuites engine suites
  if sorted.isEmpty then .fail (.startup (.noSuite suites))
  else
    let lists := SuiteLists.ofSorted sorted
    if !lists.areAccepted engine then .fail .engine
    else do
      .log ((versions.filter fun version => !sorted.serves version).map .versionDisabled)
      let served := versions.filter sorted.serves
      if served.isEmpty then .fail (.startup (.noVersionForSuites suites))
      else return (lists, served)

/-- The lists of suites to set for a host, and those of the given versions that remain. -/
def chooseSuites (engine : Engine) (suites : Option String) (versions : List Version) :
    Traced (SuiteLists × List Version) :=
  match suites with
  | none => .value ({}, versions)
  | some suites => restrictToSuites engine suites versions

end TlsListener
