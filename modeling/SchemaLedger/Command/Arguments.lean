import SchemaLedger.Command.Order
import SchemaLedger.Text.Count

namespace SchemaLedger

inductive Flag
  | config | interval
deriving DecidableEq, Repr

namespace Flag

def name : Flag → String
  | config => "config"
  | interval => "interval-secs"

/-- The settings can be named everywhere, an interval only where passes are repeated. -/
def ofName? (scope : Scope) (name : String) : Option Flag :=
  if name = "config" then some config
  else if name = "interval-secs" ∧ scope = .serve then some interval
  else none

end Flag

/-- What has been given in a scope. An option under way may lack its value. -/
structure Given where
  config : Option String
  interval : Option Interval
  subject : Option String
  pending : Option (Flag × Option String)
deriving Repr

namespace Given

def nothing : Given := ⟨none, none, none, none⟩

/-- A number of seconds, at least one. -/
def seconds? (text : String) : Option Interval :=
  match count? text with
  | some n => if within : 1 ≤ n ∧ n < UInt64.size then some (.ofSeconds n within.1) else none
  | none => none

/-- Takes the value of an option. No option is given twice. -/
def setFlag (given : Given) (flag : Flag) (value : String) : Except Halt Given :=
  match flag with
  | .config =>
    if given.config.isSome then .error (.misuse "--config cannot be used multiple times")
    else if value = "" then .error (.misuse "a value is required for --config")
    else .ok { given with config := some value, pending := none }
  | .interval =>
    if given.interval.isSome then .error (.misuse "--interval-secs cannot be used multiple times")
    else match seconds? value with
      | some interval => .ok { given with interval := some interval, pending := none }
      | none => .error (.misuse ("invalid value " ++ value ++ " for --interval-secs"))

/-- Takes the value of the option that is under way. -/
def settle (given : Given) : Except Halt Given :=
  match given.pending with
  | none => .ok given
  | some (flag, none) => .error (.misuse ("a value is required for --" ++ flag.name))
  | some (flag, some value) => given.setFlag flag value

/-- The order that a scope stands for when its words are at their end. -/
def order? (given : Given) : Scope → Except Halt Order
  | .sync => .ok .sync
  | .serve => .ok (.serve given.interval)
  | .validate => .ok .validate
  | .list => .ok .list
  | .describe =>
    match given.subject with
    | some subject => .ok (.describe subject)
    | none => .error (.misuse "a subject is required")
  | _ => .error (.misuse "a subcommand is required")

def finish (given : Given) (scope : Scope) : Except Halt Invocation := do
  let given ← given.settle
  pure ⟨← given.order? scope, given.config⟩

/-- Takes a word that is no option. -/
def takeWord (given : Given) (scope : Scope) (word : String) : Except Halt Given := do
  let given ← given.settle
  match scope, given.subject with
  | .describe, none => pure { given with subject := some word }
  | _, _ => throw (.misuse ("unexpected argument " ++ word))

/-- Takes an option with everything that is written together with it. -/
def takeOption (given : Given) (scope : Scope) (option : String) : Except Halt Given := do
  let name := (option.toList.takeWhile (· ≠ '='))
  let value := option.toList.drop name.length
  match Flag.ofName? scope (String.ofList name), value with
  | some flag, [] =>
    let given ← given.settle
    pure { given with pending := some (flag, none) }
  | some flag, _ :: value => (← given.settle).setFlag flag (String.ofList value)
  | none, _ =>
    let _ ← given.settle
    if option = "help" then throw (.help scope)
    else if option = "version" ∧ scope = .program then throw .version
    else throw (.misuse ("unexpected argument --" ++ option))

/-- Takes options of one letter; all of them end the reading. -/
def takeLetter (given : Given) (scope : Scope) (letter : Char) : Except Halt Given := do
  let _ ← given.settle
  if letter = 'h' then throw (.help scope)
  else if letter = 'V' ∧ scope = .program then throw .version
  else throw (.misuse ("unexpected argument -" ++ String.singleton letter))

end Given

namespace Invocation

/-- Behind a double dash every argument is a word. -/
def readWords (scope : Scope) : Given → List String → Except Halt Invocation
  | given, [] => given.finish scope
  | given, word :: rest =>
    match given.takeWord scope word with
    | .error halt => .error halt
    | .ok given => readWords scope given rest

/-- Reads the arguments of a scope. The settings named in the innermost scope count. -/
def readScope (scope : Scope) (given : Given) : List String → Except Halt Invocation
  | [] => given.finish scope
  | argument :: rest =>
    let inner := if given.pending matches some (_, none) then none else scope.enter? argument
    match inner with
    | some inner =>
      match readScope inner .nothing rest with
      | .error halt => .error halt
      | .ok invocation => match given.settle with
        | .error halt => .error halt
        | .ok given => .ok ⟨invocation.order, invocation.settingsPath <|> given.config⟩
    | none =>
      let step : Except Halt Given := match argument.toList with
        | '-' :: '-' :: option => given.takeOption scope (String.ofList option)
        | '-' :: letter :: _ => given.takeLetter scope letter
        | _ => match given.pending with
          | some (flag, none) => .ok { given with pending := some (flag, some argument) }
          | _ => given.takeWord scope argument
      if argument = "--" then
        match given.settle with
        | .error halt => .error halt
        | .ok given => readWords scope given rest
      else match step with
        | .error halt => .error halt
        | .ok given => readScope scope given rest

/-- Reads a command line, from behind the name of the program on. -/
def ofArguments (arguments : List String) : Except Halt Invocation :=
  readScope .program .nothing arguments

end Invocation

end SchemaLedger
