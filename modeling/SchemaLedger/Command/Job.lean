import SchemaLedger.Command.Order
import SchemaLedger.Json.Printer
import SchemaLedger.Service.Connection
import SchemaLedger.Service.Setup
import SchemaLedger.Settings.Reader
import SchemaLedger.Sync.Ingest
import SchemaLedger.Sync.Schedule

namespace SchemaLedger

/-- Why an order was not carried out. -/
inductive CommandError
  | settings (error : SettingsError)
  | setup (error : SetupError)
  | catalog (error : StoreError)
  | notCataloged (subject : String)
  | crashed
  | noInterval
deriving DecidableEq, Repr

namespace CommandError

def message : CommandError → String
  | settings error => "failed to load config: " ++ error.message
  | setup error => error.message
  | catalog error => "catalog read failed: " ++ error.message
  | notCataloged subject => "subject not cataloged: " ++ subject
  | crashed => SetupError.crashed.message
  | noInterval => "`period` must be non-zero."

/-- Whether the program did not end of itself. -/
def isCrash : CommandError → Bool
  | crashed | noInterval => true
  | _ => false

/-- A crash has a code of its own. -/
def exitCode (error : CommandError) : Nat := if error.isCrash then 101 else 1

end CommandError

namespace Program

/-- All entries of the catalog. -/
def entriesJson : Program (Except CommandError Json) := do
  match ← store .entries with
  | .ok entries => pure (.ok ((Codec.list Entry.codec).encode entries))
  | .error error => pure (.error (.catalog error))

/-- The report on one subject; that there is none is an error here. -/
def subjectJson (subject : String) : Program (Except CommandError Json) := do
  match ← subjectReport subject with
  | .ok (some report) => pure (.ok report.toJson)
  | .ok none => pure (.error (.notCataloged subject))
  | .error error => pure (.error (.catalog error))

end Program

/-- Work with everything that it needs. -/
inductive Job
  | tell (text : String)
  | read (backend : Backend) (program : Program (Except CommandError Json))
  | pass (service : Service)
  | passes (service : Service) (interval : Interval)

def CommandError.ofSetup {α : Type} : Except SetupError α → Except CommandError α
  | .ok value => .ok value
  | .error .crashed => .error .crashed
  | .error error => .error (.setup error)

/-- The catalog that an order works with. -/
def StoreSettings.backend (s : StoreSettings) (place : Place) (database : Database) :
    Except CommandError Backend :=
  CommandError.ofSetup (s.openBackend place database)

/-- The work that an order stands for. The log is set up before anything is opened; an order that
only reads the catalog needs neither a log nor a registry. -/
def Order.job (settings : Settings) (place : Place) (database : Database) :
    Order → Except CommandError Job
  | sync => do
    let _ ← CommandError.ofSetup settings.logging.makeFilter
    pure (.pass (← CommandError.ofSetup (Service.ofSettings settings place database)))
  | serve interval => do
    let _ ← CommandError.ofSetup settings.logging.makeFilter
    let service ← CommandError.ofSetup (Service.ofSettings settings place database)
    match interval <|> Interval.ofSpan? settings.sync.interval with
    | some interval => pure (.passes service interval)
    | none => throw .noInterval
  | validate => pure (.tell "config ok")
  | list => do
    let backend ← settings.store.backend place database
    pure (.read backend Program.entriesJson)
  | describe subject => do
    let backend ← settings.store.backend place database
    pure (.read backend (Program.subjectJson subject))

/-- The report of a pass as it is printed. -/
def RunReport.printed (report : RunReport) : String :=
  (RunReport.codec.encode report).pretty

namespace Job

/-- Carries out work over a network that answers at once, with a signal to stop at some moment. What
is printed comes with the catalog that remains. -/
def carryOut (network : Network) (stop : Nat) :
    Job → Except CommandError (Option String) × Option Backend
  | tell text => (.ok (some text), none)
  | read backend program =>
    let (answer, _, backend) := program.run Backend.hostAlone 0 backend
    (match answer with
      | .ok json => .ok (some json.pretty)
      | .error error => .error error, some backend)
  | pass service =>
    let (summary, _, backend) :=
      runPass (service.client.host network) service.policy 0 service.backend
    (.ok (some summary.report.printed), some backend)
  | passes service interval =>
    let (_, backend) := runPeriodic (service.client.host network) service.policy interval stop 0 0 0
      service.backend
    (.ok none, some backend)

end Job

end SchemaLedger
