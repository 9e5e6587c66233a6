import SchemaLedger.Durable.Cell
import SchemaLedger.Durable.Error

namespace SchemaLedger

structure EntryRow where
  subject : Cell
  mark : Cell
  compatibilityLevel : Cell
  readOnly : Cell
  environment : Cell
  ownerTeam : Cell
  personalScore : Cell
  riskScore : Cell
deriving DecidableEq, Repr

structure VersionRow where
  subject : Cell
  version : Cell
  dialect : Cell
  registryId : Cell
  body : Cell
  hash : Cell
  references : Cell
  ruleSet : Cell
  metadata : Cell
  fields : Cell
  lintReport : Cell
deriving DecidableEq, Repr

structure ArtifactRow where
  subject : Cell
  version : Cell
  kind : Cell
  payload : Cell
deriving DecidableEq, Repr

structure RemarkRow where
  subject : Cell
  key : Cell
  value : Cell
deriving DecidableEq, Repr

/-- A table may be missing, have the expected columns, or have been made by others with columns of
their own. -/
inductive Stored (ρ : Type)
  | absent
  | held (rows : List ρ)
  | foreign (columns : List String) (rows : List (List Cell))
deriving DecidableEq, Repr

namespace Stored

variable {ρ : Type}

/-- The rows, where the table has the expected columns. -/
def read (name : String) : Stored ρ → Except DurableError (List ρ)
  | absent => .error (.noTable name)
  | held rows => .ok rows
  | foreign _ _ => .error (.otherColumns name)

/-- Makes an empty table where there is none. -/
def create : Stored ρ → Stored ρ
  | absent => held []
  | table => table

/-- Whether statements find the column. -/
def hasColumn (name : String) : Stored ρ → Bool
  | absent => false
  | held _ => true
  | foreign columns _ => columns.contains name

end Stored

/-- The recorded number of the layout, and the four tables of rows. The table of the record is as
expected when it has the column of the number, whatever stands in it. -/
structure Database where
  recorded : Stored Cell
  versions : Stored VersionRow
  artifacts : Stored ArtifactRow
  remarks : Stored RemarkRow
  entries : Stored EntryRow
deriving DecidableEq, Repr

def Database.blank : Database := ⟨.absent, .absent, .absent, .absent, .absent⟩

/-- The tables that hold rows of subjects, by the order in which rows are removed. -/
inductive SubjectTable
  | versions | artifacts | remarks | entries
deriving DecidableEq, Repr

def SubjectTable.all : List SubjectTable := [versions, artifacts, remarks, entries]

def SubjectTable.name : SubjectTable → String
  | versions => "schema_versions"
  | artifacts => "schema_artifacts"
  | remarks => "subject_metadata"
  | entries => "subjects"

/-- A cell names a subject when it is that text. -/
def Cell.names (cell : Cell) (subjects : List String) : Bool :=
  match cell with
  | .text subject => subjects.contains subject
  | _ => false

end SchemaLedger
