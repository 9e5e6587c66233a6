import SchemaLedger.Durable.Backend
import SchemaLedger.Logging.Directive
import SchemaLedger.Registry.Client
import SchemaLedger.Settings.Settings

namespace SchemaLedger

/-- A part that could not be made, or with which the program ended. -/
inductive SetupError
  | registry (detail : String)
  | store (detail : String)
  | logging (detail : String)
  | crashed
deriving DecidableEq, Repr

def SetupError.message : SetupError → String
  | registry detail => "registry client init failed: " ++ detail
  | store detail => "catalog store init failed: " ++ detail
  | logging detail => "logging init failed: " ++ detail
  | crashed => "too big"

def RegistrySettings.makeClient (s : RegistrySettings) : Except SetupError Client :=
  match Client.ofSettings s.client with
  | .ok client => .ok client
  | .error error => .error (.registry error.message)

/-- Opens the catalog: an empty one in memory, or the database that stands at the path of the
settings. -/
def StoreSettings.openBackend (s : StoreSettings) (place : Place) (database : Database) :
    Except SetupError Backend :=
  match s.durable? with
  | none => .ok (.memory .empty)
  | some settings =>
    match openDatabase settings place database with
    | (.ok (), database) => .ok (.durable database)
    | (.error (.refused error), _) => .error (.store error.message)
    | (.error .crashed, _) => .error .crashed

def LoggingSettings.makeFilter (s : LoggingSettings) : Except SetupError (List Directive) :=
  match LogFilter.parse? (trimBlank s.filter) with
  | some directives => .ok directives
  | none => .error (.logging "invalid logging.filter")

/-- A registry to ask, a catalog to keep and the policy of passes. -/
structure Service where
  client : Client
  backend : Backend
  policy : RunPolicy

/-- The client is made first, so a faulty address leaves the database alone. -/
def Service.ofSettings (settings : Settings) (place : Place) (database : Database) :
    Except SetupError Service := do
  let client ← settings.registry.makeClient
  let backend ← settings.store.openBackend place database
  pure ⟨client, backend, settings.sync.policy⟩

end SchemaLedger
