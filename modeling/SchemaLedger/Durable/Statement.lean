import SchemaLedger.Catalog.Record
import SchemaLedger.Durable.Database

namespace SchemaLedger

inductive Statement
  | insertVersion (row : VersionRow)
  | raiseMark (subject : String) (version : UInt32)
  | updateEntry (subject : String) (change : EntryUpdate)
  | countIn (table : SubjectTable) (subjects : List String)
  | deleteIn (table : SubjectTable) (subjects : List String)
  | insertArtifact (row : ArtifactRow)
  | putRemark (row : RemarkRow)

/-- An insertion says whether it took place, and an update how many rows it changed. -/
@[reducible] def Statement.Answer : Statement → Type
  | insertVersion _ => Bool
  | raiseMark _ _ => Unit
  | updateEntry _ _ => Nat
  | countIn _ _ => Nat
  | deleteIn _ _ => Unit
  | insertArtifact _ => Unit
  | putRemark _ => Unit

namespace Statement

/-- The row of a subject that has none yet. -/
def freshEntry (subject : String) (version : UInt32) : EntryRow :=
  ⟨.text subject, .ofWord version, .null, .integer 0, .null, .null, .real (.zero false),
    .real (.zero false)⟩

/-- An empty mark counts as zero. -/
def raise (version : UInt32) (row : EntryRow) : EntryRow :=
  { row with mark := (row.mark.orElse (.integer 0)).greater (.ofWord version) }

/-- Only what the change brings is written. -/
def change (change : EntryUpdate) (row : EntryRow) : EntryRow :=
  { row with
    compatibilityLevel :=
      (Cell.ofOption .text change.compatibilityLevel).orElse row.compatibilityLevel
    readOnly := (Cell.ofOption .ofBool change.readOnly).orElse row.readOnly
    environment := (Cell.ofOption .text change.environment).orElse row.environment }

/-- How many rows of a table belong to the subjects. -/
def countOf {ρ : Type} (subject : ρ → Cell) (subjects : List String) (rows : List ρ) : Nat :=
  (rows.filter fun row => (subject row).names subjects).length

/-- The rows of a table that belong to other subjects. -/
def othersOf {ρ : Type} (subject : ρ → Cell) (subjects : List String) (rows : List ρ) : List ρ :=
  rows.filter fun row => !(subject row).names subjects

def execute : (statement : Statement) → Database → Except DurableError (statement.Answer × Database)
  | insertVersion row, db => do
    let rows ← db.versions.read SubjectTable.versions.name
    if rows.any fun r => r.subject = row.subject && r.version = row.version then pure (false, db)
    else pure (true, { db with versions := .held (rows ++ [row]) })
  | raiseMark subject version, db => do
    let rows ← db.entries.read SubjectTable.entries.name
    let rows :=
      if rows.any fun r => r.subject = .text subject then
        rows.map fun r => if r.subject = .text subject then raise version r else r
      else rows ++ [freshEntry subject version]
    pure ((), { db with entries := .held rows })
  | updateEntry subject update, db => do
    let rows ← db.entries.read SubjectTable.entries.name
    let changed := (rows.filter fun r => r.subject = .text subject).length
    let rows := rows.map fun r => if r.subject = .text subject then change update r else r
    pure (changed, { db with entries := .held rows })
  | countIn .versions subjects, db => do
    pure (countOf (·.subject) subjects (← db.versions.read SubjectTable.versions.name), db)
  | countIn .artifacts subjects, db => do
    pure (countOf (·.subject) subjects (← db.artifacts.read SubjectTable.artifacts.name), db)
  | countIn .remarks subjects, db => do
    pure (countOf (·.subject) subjects (← db.remarks.read SubjectTable.remarks.name), db)
  | countIn .entries subjects, db => do
    pure (countOf (·.subject) subjects (← db.entries.read SubjectTable.entries.name), db)
  | deleteIn .versions subjects, db => do
    let rows ← db.versions.read SubjectTable.versions.name
    pure ((), { db with versions := .held (othersOf (·.subject) subjects rows) })
  | deleteIn .artifacts subjects, db => do
    let rows ← db.artifacts.read SubjectTable.artifacts.name
    pure ((), { db with artifacts := .held (othersOf (·.subject) subjects rows) })
  | deleteIn .remarks subjects, db => do
    let rows ← db.remarks.read SubjectTable.remarks.name
    pure ((), { db with remarks := .held (othersOf (·.subject) subjects rows) })
  | deleteIn .entries subjects, db => do
    let rows ← db.entries.read SubjectTable.entries.name
    pure ((), { db with entries := .held (othersOf (·.subject) subjects rows) })
  | insertArtifact row, db => do
    let rows ← db.artifacts.read SubjectTable.artifacts.name
    pure ((), { db with artifacts := .held (rows ++ [row]) })
  | putRemark row, db => do
    let rows ← db.remarks.read SubjectTable.remarks.name
    let same (r : RemarkRow) : Bool := r.subject = row.subject && r.key = row.key
    let rows :=
      if rows.any same then rows.map fun r => if same r then { r with value := row.value } else r
      else rows ++ [row]
    pure ((), { db with remarks := .held rows })

end Statement

/-- A statement as an engine is given it: its text, and the values for the question marks in it. -/
structure Wording where
  text : String
  values : List String
deriving DecidableEq, Repr

/-- Question marks for values, one for each, with commas in between. -/
def placeholders (values : List String) : String := ", ".intercalate (values.map fun _ => "?")

/-- How a statement over the rows of several subjects is put. -/
def Statement.wording? : Statement → Option Wording
  | countIn table subjects => some ⟨"SELECT COUNT(1) FROM " ++ table.name ++ " WHERE subject IN (" ++
      placeholders subjects ++ ")", subjects⟩
  | deleteIn table subjects => some ⟨"DELETE FROM " ++ table.name ++ " WHERE subject IN (" ++
      placeholders subjects ++ ")", subjects⟩
  | _ => none

/-- Statements in a row, each chosen from the answers of those before it. -/
inductive Script (α : Type)
  | done (value : α)
  | execute (statement : Statement) (next : statement.Answer → Script α)

namespace Script

variable {α β : Type}

def bind : Script α → (α → Script β) → Script β
  | done value, f => f value
  | execute statement next, f => execute statement fun answer => (next answer).bind f

instance : Monad Script where
  pure := done
  bind := bind

def ask (statement : Statement) : Script statement.Answer := execute statement done

/-- Executes the statements from the given position on; `broken` says at which positions the
database fails whatever the statement is. -/
def run (broken : Nat → Bool) : Script α → Nat → Database →
    Except DurableError (α × Nat × Database)
  | done value, position, db => .ok (value, position, db)
  | execute statement next, position, db =>
    if broken position then .error .interrupted
    else match statement.execute db with
      | .error error => .error error
      | .ok (answer, db) => (next answer).run broken (position + 1) db

/-- All statements take effect, or the database is what it was. The commit follows the last
statement and may fail like one. -/
def transact (broken : Nat → Bool) (script : Script α) (db : Database) :
    Except DurableError α × Database :=
  match script.run broken 0 db with
  | .error error => (.error error, db)
  | .ok (value, position, after) =>
    if broken position then (.error .interrupted, db) else (.ok value, after)

end Script

end SchemaLedger
