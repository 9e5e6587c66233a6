import SchemaLedger.Command.Arguments
import SchemaLedger.Command.Job
import SchemaLedger.Rehearsal.Files

namespace SchemaLedger

/-- What is left of a run: its exit code, what it printed and the error that it told. -/
structure Finished where
  exit : Nat
  output : String
  complaint : Option String
deriving DecidableEq, Repr

namespace Finished

def ofHalt (halt : Halt) : Finished := ⟨halt.exitCode, halt.text ++ "\n", none⟩

/-- What a crash says is not the program's own. -/
def ofResult : Except CommandError (Option String) → Finished
  | .ok text => ⟨0, (text.map (· ++ "\n")).getD "", none⟩
  | .error error =>
    ⟨error.exitCode, "", if error.isCrash then none else some error.message⟩

end Finished

/-- The place where settings want a database. A catalog in memory leaves the files alone. -/
def Files.siteOf (files : Files) (settings : Settings) : Files.Site :=
  match settings.store.durable? with
  | none => ⟨.available, .blank, files⟩
  | some durable => files.site durable.path

/-- The files after a catalog has been kept where settings want it. -/
def Files.keep (files : Files) (settings : Settings) (backend : Option Backend) : Files :=
  match backend, settings.store.durable? with
  | some (.durable database), some durable => files.keepDatabase durable.path database
  | _, _ => files

/-- Runs the program once with what the environment says about its settings. A signal to stop comes
at the moment `stop`. -/
def Files.runProgram (files : Files) (network : Network) (stop : Nat) (named : Option String)
    (arguments : List String) : Finished × Files :=
  match Invocation.ofArguments arguments with
  | .error halt => (.ofHalt halt, files)
  | .ok invocation =>
    match Settings.load files.read invocation.settingsPath named with
    | .error error => (.ofResult (.error (.settings error)), files)
    | .ok settings =>
      let site := files.siteOf settings
      match invocation.order.job settings site.place site.database with
      | .error error => (.ofResult (.error error), files)
      | .ok job =>
        let (result, backend) := job.carryOut network stop
        (.ofResult result, site.files.keep settings backend)

end SchemaLedger
