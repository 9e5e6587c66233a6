import SchemaLedger.Durable.Settings
import SchemaLedger.Durable.Store
import SchemaLedger.Text.Path

namespace SchemaLedger

/-- What stands at a path, as far as opening cares. No directory can be made for an unreachable
file, and an unusable one is no database and cannot become one. -/
inductive Place
  | directory
  | unreachable (detail : String)
  | unusable (detail : String)
  | available
deriving DecidableEq, Repr

/-- The limits for the path of a database. -/
def Place.pathLimits : Path.Limits := ⟨4096, 255⟩

/-- Why a path is refused. Its text is looked at before the file is. -/
def pathFault? (place : Place) (path : String) : Option DurableError :=
  if path = "" then some (.invalid "store path must not be empty")
  else match Path.fault? Place.pathLimits path with
    | some .tooLong => some (.invalid "store path exceeds length limit")
    | some .componentTooLong => some (.invalid "store path contains an overlong component")
    | none => match place with
      | .directory => some (.invalid "store path must be a file, not a directory")
      | .unreachable detail => some (.io detail)
      | .unusable detail => some (.database detail)
      | .available => none

namespace Database

def layoutVersion : Int := 1

/-- The recorded layout, if one is recorded. Rows behind the first do not count. -/
def recordedVersion? (db : Database) : Except DurableError (Option Int) := do
  match ← db.recorded.read "store_meta" with
  | [] => pure none
  | .integer version :: _ => pure (some version)
  | cell :: _ => throw (.unreadable 0 "version" (.wrongKind cell.kind))

end Database

/-- The statements that lay out a database, once it is known that no layout is recorded. -/
inductive LayoutStep
  | record
  | table (table : SubjectTable)
  | index (table : SubjectTable) (column : String)
deriving DecidableEq, Repr

def LayoutStep.all : List LayoutStep :=
  [record, table .entries, table .versions, index .versions "canonical_hash", table .artifacts,
    index .artifacts "subject", table .remarks]

namespace Database

def hasColumn (db : Database) : SubjectTable → String → Bool
  | .versions, name => db.versions.hasColumn name
  | .artifacts, name => db.artifacts.hasColumn name
  | .remarks, name => db.remarks.hasColumn name
  | .entries, name => db.entries.hasColumn name

/-- Carries out one step. What is there already is left alone. -/
def layOut (db : Database) : LayoutStep → Except DurableError Database
  | .record => do
    let rows ← db.recorded.read "store_meta"
    pure { db with recorded := .held (rows ++ [.integer layoutVersion]) }
  | .table .versions => pure { db with versions := db.versions.create }
  | .table .artifacts => pure { db with artifacts := db.artifacts.create }
  | .table .remarks => pure { db with remarks := db.remarks.create }
  | .table .entries => pure { db with entries := db.entries.create }
  | .index table column =>
    if db.hasColumn table column then pure db else throw (.otherColumns table.name)

/-- Carries out steps from a position on and commits behind the last; `broken` says at which
positions the database fails whatever is to be done there. -/
def layOutAll (broken : Nat → Bool) :
    List LayoutStep → Nat → Database → Except DurableError Database
  | [], position, db => if broken position then throw .interrupted else pure db
  | step :: rest, position, db =>
    if broken position then throw .interrupted
    else do layOutAll broken rest (position + 1) (← db.layOut step)

/-- Lays out a database that may fail at any statement, all or nothing. The first statement makes
the table of the record, and the second looks into it. -/
def prepareStepwise (broken : Nat → Bool) (db : Database) : Except DurableError Database :=
  if broken 0 || broken 1 then throw .interrupted
  else do
    let db := { db with recorded := db.recorded.create }
    match ← db.recordedVersion? with
    | none => db.layOutAll broken LayoutStep.all 2
    | some version =>
      if version = layoutVersion then db.layOutAll broken [] 2
      else throw (.unsupportedVersion version)

/-- Lays out a database none of whose statements fails of itself. -/
def prepare (db : Database) : Except DurableError Database :=
  db.prepareStepwise fun _ => false

end Database

/-- Why nothing was opened. -/
inductive OpenFault
  | refused (error : DurableError)
  | crashed
deriving DecidableEq, Repr

/-- What keeps a database from being looked into. The engine is told how long to wait once there is
a file to work on, and a wait that it cannot take ends the program. -/
def DurableSettings.fault? (settings : DurableSettings) (place : Place) : Option OpenFault :=
  match pathFault? place settings.path with
  | some error => some (.refused error)
  | none => if settings.waitFits then none else some .crashed

/-- Opens the database that stands at a place; it may fail at any statement. After a failure it is
as before. -/
def openStepwise (broken : Nat → Bool) (settings : DurableSettings) (place : Place)
    (db : Database) : Except OpenFault Unit × Database :=
  match settings.fault? place with
  | some fault => (.error fault, db)
  | none => match db.prepareStepwise broken with
    | .error error => (.error (.refused error), db)
    | .ok db => (.ok (), db)

/-- Opens a database none of whose statements fails of itself. -/
def openDatabase : DurableSettings → Place → Database → Except OpenFault Unit × Database :=
  openStepwise fun _ => false

end SchemaLedger
