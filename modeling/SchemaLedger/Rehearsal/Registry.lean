import SchemaLedger.Json.Printer
import SchemaLedger.Registry.Query
import SchemaLedger.Table

namespace SchemaLedger

/-- What happens at one call. Without an error it is answered from what the registry holds. -/
structure Cue where
  delayMillis : Nat
  hangs : Bool
  error : Option RegistryError
  stays : Bool
deriving Repr

structure ScriptedRegistry where
  holdings : Table String (Table UInt32 Registered)
  phantoms : List String
  configs : Table String SubjectConfig
  modes : Table String String
  scripts : List (Query × List Cue)

namespace ScriptedRegistry

def empty : ScriptedRegistry := ⟨.empty, [], .empty, .empty, []⟩

def put (registry : ScriptedRegistry) (subject : String) (version : UInt32)
    (registered : Registered) : ScriptedRegistry :=
  { registry with
    holdings := registry.holdings.alter subject fun versions =>
      some ((versions.getD .empty).insert version registered) }

/-- A record schema without fields that is named for a number. -/
def numberedSchema (n : Nat) : String :=
  (Json.object [("type", .string "record"), ("name", .string ("V" ++ toString n)),
    ("fields", .array [])]).render

/-- Puts the versions from one up to a number, each with a schema of its own. -/
def putNumbered (registry : ScriptedRegistry) (subject : String) (count : Nat) : ScriptedRegistry :=
  (List.range count).foldl
    (fun registry n =>
      let version : UInt32 := .ofNat (n + 1)
      registry.put subject version
        ⟨subject, version, ⟨some (numberedSchema (n + 1)), .avro, none⟩, none, none, none⟩)
    registry

/-- A subject that has lost its last version is still listed. -/
def removeVersion (registry : ScriptedRegistry) (subject : String) (version : UInt32) :
    ScriptedRegistry :=
  { registry with
    holdings := registry.holdings.alter subject fun versions => versions.map (·.erase version) }

def removeSubject (registry : ScriptedRegistry) (subject : String) : ScriptedRegistry :=
  { registry with holdings := registry.holdings.erase subject }

/-- Lists a subject of which nothing is held. -/
def addPhantom (registry : ScriptedRegistry) (subject : String) : ScriptedRegistry :=
  { registry with phantoms := registry.phantoms ++ [subject] }

def setConfig (registry : ScriptedRegistry) (subject : String) (config : SubjectConfig) :
    ScriptedRegistry :=
  { registry with configs := registry.configs.insert subject config }

def setMode (registry : ScriptedRegistry) (subject label : String) : ScriptedRegistry :=
  { registry with modes := registry.modes.insert subject label }

/-- Replaces the cues of a call. -/
def setScript (registry : ScriptedRegistry) (call : Query) (cues : List Cue) : ScriptedRegistry :=
  { registry with scripts := (call, cues) :: registry.scripts.filter fun s => s.1 ≠ call }

/-- The cue of a call, used up unless it stays. -/
def nextCue (registry : ScriptedRegistry) (call : Query) : Option Cue × ScriptedRegistry :=
  match registry.scripts.lookup call with
  | some (cue :: later) =>
    (some cue, if cue.stays then registry else registry.setScript call later)
  | _ => (none, registry)

/-- The answer of a call that nothing keeps from being answered. -/
def answer (registry : ScriptedRegistry) : (call : Query) → Except RegistryError call.Reply
  | .subjects => .ok (registry.holdings.keys ++ registry.phantoms)
  | .latest subject =>
    match ((registry.holdings.find? subject).getD .empty).entries.getLast? with
    | some (_, registered) => .ok registered
    | none => .error (.notFound subject)
  | .version subject number =>
    match ((registry.holdings.find? subject).getD .empty).find? number with
    | some registered => .ok registered
    | none => .error (.notFound (subject ++ "/" ++ toString number.toNat))
  | .config subject => .ok (registry.configs.find? subject)
  | .mode subject =>
    match registry.modes.find? subject with
    | some label => .ok (.ofLabel label)
    | none => .error (.unsupported "mode")

end ScriptedRegistry

end SchemaLedger
