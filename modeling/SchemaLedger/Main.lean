import SchemaLedger.Command.Arguments
import SchemaLedger.Command.Job
import SchemaLedger.Durable.Dump
import SchemaLedger.Registry.Message
import Std.Async.DNS
import Std.Async.Signal
import Std.Async.TCP

namespace SchemaLedger

open Std.Async

/-- Reads a file, or says why not. -/
def readFile (path : String) : IO (Except FileFault (List UInt8)) := do
  try
    let bytes ← IO.FS.readBinFile path
    pure (.ok bytes.toList)
  catch
    | .noFileOrDirectory .. => pure (.error .absent)
    | .inappropriateType .. => pure (.error .isADirectory)
    | error => pure (.error (.other (toString error)))

/-- What stands where settings want a database. Directories on the way to it are made. -/
def siteOf (settings : Settings) : IO (Place × Database) := do
  match settings.store.durable? with
  | none => pure (.available, .blank)
  | some durable =>
    match ← readFile durable.path with
    | .ok bytes =>
      match (Utf8.decode? bytes).bind Database.ofDump? with
      | some database => pure (.available, database)
      | none => pure (.unusable "file is not a database", .blank)
    | .error .isADirectory => pure (.directory, .blank)
    | .error .absent =>
      let parent := "/".intercalate ((durable.path.splitOn "/").dropLast)
      try
        unless parent.isEmpty do IO.FS.createDirAll parent
        pure (.available, .blank)
      catch error => pure (.unreachable (toString error), .blank)
    | .error fault => pure (.unusable fault.message, .blank)

/-- Keeps the catalog where the settings want it. -/
def keep (settings : Settings) (backend : Backend) : IO Unit := do
  match backend, settings.store.durable? with
  | .durable database, some durable => IO.FS.writeFile durable.path database.dump
  | _, _ => pure ()

/-- Everything that a connection brings before it ends. -/
partial def receive (socket : TCP.Socket.Client) (received : ByteArray) : IO ByteArray := do
  match ← (socket.recv? 65536).block with
  | some bytes => receive socket (received ++ bytes)
  | none => pure received

/-- Carries a request over a connection of its own. Only plain connections can be made. -/
def exchange (request : HttpRequest) : IO (Except String HttpResponse) := do
  let refused : String := "error sending request for url (" ++ request.url.render ++ ")"
  unless request.url.scheme == "http" do return .error refused
  try
    let port : Nat := request.url.port.getD 80
    let host := String.ofList (request.url.host.filter fun c => c ≠ '[' && c ≠ ']')
    match (← (DNS.getAddrInfo host (toString port)).block).toList with
    | [] => return .error refused
    | address :: _ =>
      let place : Std.Net.SocketAddress := match address with
        | .v4 address => .v4 ⟨address, .ofNat port⟩
        | .v6 address => .v6 ⟨address, .ofNat port⟩
      let socket ← TCP.Socket.Client.mk
      (socket.connect place).block
      (socket.sendAll #[request.text.toUTF8]).block
      let bytes ← receive socket .empty
      match HttpResponse.ofBytes? bytes.toList with
      | some response => return .ok response
      | none => return .error refused
  catch _ => return .error refused

/-- Waits for an action, but no longer than the limit. -/
def within {α : Type} (limit : Span) (act : IO α) : IO (Option α) := do
  let step : Nat := 5
  let task ← IO.asTask act .dedicated
  for _ in [0 : limit.millis / step + 1] do
    if ← IO.hasFinished task then break
    IO.sleep step.toUInt32
  if ← IO.hasFinished task then
    match task.get with
    | .ok value => pure (some value)
    | .error error => throw error
  else
    IO.cancel task
    pure none

/-- A registry to ask, if there is one, a catalog and a log. -/
structure Machine where
  client : Option Client
  backend : IO.Ref Backend
  directives : List Directive

namespace Machine

def tell (machine : Machine) (target : String) (level : Level) (message : String)
    (fields : List (String × Json)) : IO Unit :=
  if LogFilter.admits machine.directives target level then
    IO.eprintln (" ".intercalate (level.label :: message ::
      fields.map fun (name, value) => name ++ "=" ++ value.render))
  else pure ()

def perform (machine : Machine) : (effect : Effect) → IO effect.Answer
  | .query limit query => do
    match machine.client with
    | none => pure .timedOut
    | some client =>
      match ← within limit (exchange (client.request query)) with
      | none => pure .timedOut
      | some response => pure (.ofAnswer (client.answer (fun _ => response) query))
  | .store request => do
    let (answer, backend) := Backend.keeper request (← machine.backend.get)
    machine.backend.set backend
    pure answer
  | .pause span => IO.sleep (min span.millis (UInt32.size - 1)).toUInt32
  | .report event => machine.tell event.target event.level event.message event.fields

def run {α : Type} (machine : Machine) : Program α → IO α
  | .done value => pure value
  | .perform effect next => do machine.run (next (← machine.perform effect))

/-- One pass, with the time that it took. -/
def pass (machine : Machine) (policy : RunPolicy) : IO RunReport := do
  let began ← IO.monoMsNow
  let summary ← machine.run (.pass policy.retry)
  let ended ← IO.monoMsNow
  pure { summary.report with durationMillis := .ofNat (ended - began) }

/-- Passes at intervals until a signal to stop. -/
partial def passes (machine : Machine) (settings : Settings) (policy : RunPolicy)
    (interval : Interval) (stopped : IO Bool) (count deadline : Nat) : IO Unit := do
  let now := (← IO.monoMsNow) * nanosInMilli
  if ← stopped then machine.run (.report (.schedulerStopped count))
  else if now < deadline then
    IO.sleep 5
    machine.passes settings policy interval stopped count deadline
  else
    let report ← machine.pass policy
    keep settings (← machine.backend.get)
    let count := countPass count
    if 0 < report.errors then machine.run (.report (.passFailed count report.errors))
    machine.run (.report
      (.passFinished count report.subjectsSeen report.versionsNew report.subjectsRemoved))
    machine.passes settings policy interval stopped count
      (nextDeadline interval deadline now)

end Machine

/-- Works with a catalog and keeps what remains of it. -/
def withMachine {α : Type} (settings : Settings) (client : Option Client) (backend : Backend)
    (act : Machine → IO α) : IO α := do
  let machine : Machine := {
    client := client
    backend := ← IO.mkRef backend
    directives := (settings.logging.makeFilter.toOption).getD [] }
  let result ← act machine
  keep settings (← machine.backend.get)
  pure result

/-- Carries out work and answers what is to be printed. -/
def Job.perform (settings : Settings) : Job → IO (Except CommandError (Option String))
  | .tell text => pure (.ok (some text))
  | .read backend program => withMachine settings none backend fun machine => do
    match ← machine.run program with
    | .ok json => pure (.ok (some json.pretty))
    | .error error => pure (.error error)
  | .pass service => withMachine settings (some service.client) service.backend fun machine => do
    let report ← machine.pass service.policy
    if 0 < report.errors then
      machine.tell "schema_catalog" .warn "sync finished with errors"
        [("errors", .nat report.errors.toNat)]
    pure (.ok (some report.printed))
  | .passes service interval =>
    withMachine settings (some service.client) service.backend fun machine => do
      machine.tell "schema_catalog" .info "catalog sync scheduler started"
        [("interval_secs", .nat interval.seconds)]
      let waiter ← Signal.Waiter.mk .sigint false
      let signal ← waiter.wait
      machine.passes settings service.policy interval (signal.getState.map (· == .finished)) 0
        ((← IO.monoMsNow) * nanosInMilli)
      pure (.ok none)

def fail (error : CommandError) : IO UInt32 := do
  IO.eprintln error.message
  pure error.exitCode.toUInt32

/-- Reads the command line, then the settings, and carries out the order; the answer is the exit
code. -/
def runProgram (arguments : List String) : IO UInt32 := do
  match Invocation.ofArguments arguments with
  | .error halt =>
    if halt.exitCode = 0 then IO.println halt.text else IO.eprintln halt.text
    pure halt.exitCode.toUInt32
  | .ok invocation =>
    let named ← IO.getEnv Settings.variableName
    let contents ← readFile (Settings.choosePath invocation.settingsPath named)
    match Settings.load (fun _ => contents) invocation.settingsPath named with
    | .error error => fail (.settings error)
    | .ok settings =>
      let (place, database) ← siteOf settings
      match invocation.order.job settings place database with
      | .error error => fail error
      | .ok job =>
        match ← job.perform settings with
        | .error error => fail error
        | .ok text =>
          if let some text := text then IO.println text
          pure 0

end SchemaLedger

def main (arguments : List String) : IO UInt32 :=
  SchemaLedger.runProgram arguments
