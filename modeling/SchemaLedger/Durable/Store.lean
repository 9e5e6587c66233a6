import SchemaLedger.Catalog.Request
import SchemaLedger.Durable.Statement
import SchemaLedger.Json.Printer

namespace SchemaLedger

/-- The text of a column that holds a record or a free-form value. -/
def jsonCell {α : Type} (codec : Codec α) (value : Option α) : Cell :=
  .ofOption .text (value.map fun v => (codec.encode v).render)

def VersionRow.ofSnapshot (s : Snapshot) : VersionRow where
  subject := .text s.subject
  version := .ofWord s.version
  dialect := .text s.dialect.label
  registryId := .ofOption .integer (s.registryId.map Int64.toInt)
  body := .text s.body
  hash := .text s.hash
  references := jsonCell (.list Reference.codec) s.references
  ruleSet := jsonCell .json s.ruleSet
  metadata := jsonCell .json s.metadata
  fields := jsonCell FieldList.codec s.fields
  lintReport := jsonCell .json s.lintReport

namespace Database

/-- The value of a column, once its cell has been read as a type. -/
def column {α : Type} (index : Nat) (name : String) :
    Except Cell.Fault α → Except DurableError α
  | .ok value => .ok value
  | .error fault => .error (.unreadable index name fault)

/-- The record or value that the text of a column spells. -/
def decodeColumn {α : Type} (name : String) (codec : Codec α) :
    Option String → Except DurableError (Option α)
  | none => .ok none
  | some text =>
    match codec.ofText? text with
    | some value => .ok (some value)
    | none => .error (.undecodable name)

/-- The snapshot in a row. The cells are read first and what they spell second. -/
def snapshotOfRow (subject : String) (version : UInt32) (row : VersionRow) :
    Except DurableError Snapshot := do
  let label ← column 0 "schema_type" row.dialect.asText
  let id ← column 1 "registry_id" (row.registryId.optional Cell.asInt64)
  let body ← column 2 "schema_body" row.body.asText
  let hash ← column 3 "canonical_hash" row.hash.asText
  let references ← column 4 "references_json" (row.references.optional Cell.asText)
  let ruleSet ← column 5 "rule_set_json" (row.ruleSet.optional Cell.asText)
  let metadata ← column 6 "metadata_json" (row.metadata.optional Cell.asText)
  let fields ← column 7 "fields_meta_json" (row.fields.optional Cell.asText)
  let lintReport ← column 8 "lint_report_json" (row.lintReport.optional Cell.asText)
  let dialect ← match Dialect.ofLabel? label with
    | some dialect => pure dialect
    | none => throw (.unknownDialect subject version)
  pure {
    subject := subject
    version := version
    dialect := dialect
    registryId := id
    body := body
    hash := hash
    references := ← decodeColumn "references_json" (.list Reference.codec) references
    ruleSet := ← decodeColumn "rule_set_json" .json ruleSet
    metadata := ← decodeColumn "metadata_json" .json metadata
    fields := ← decodeColumn "fields_meta_json" FieldList.codec fields
    lintReport := ← decodeColumn "lint_report_json" .json lintReport }

def entryOfRow (row : EntryRow) : Except DurableError Entry := do
  pure {
    subject := ← column 0 "subject" row.subject.asText
    mark := ← column 1 "latest_version" (row.mark.optional Cell.asWord)
    compatibilityLevel :=
      ← column 2 "compatibility_level" (row.compatibilityLevel.optional Cell.asText)
    readOnly := ← column 3 "mode_read_only" row.readOnly.asBool
    environment := ← column 4 "environment" (row.environment.optional Cell.asText)
    ownerTeam := ← column 5 "owner_team" (row.ownerTeam.optional Cell.asText)
    personalScore := ← column 6 "pii_score" row.personalScore.asDouble
    riskScore := ← column 7 "risk_score" row.riskScore.asDouble }

/-- The row of a subject among the entries. -/
def entryRow? (db : Database) (subject : String) : Except DurableError (Option EntryRow) := do
  let rows ← db.entries.read SubjectTable.entries.name
  pure (rows.find? fun r => r.subject = .text subject)

def mark (db : Database) (subject : String) : Except DurableError (Option UInt32) := do
  match ← db.entryRow? subject with
  | none => pure none
  | some row => column 0 "latest_version" (row.mark.optional Cell.asWord)

def entry (db : Database) (subject : String) : Except DurableError (Option Entry) := do
  match ← db.entryRow? subject with
  | none => pure none
  | some row => some <$> entryOfRow row

/-- The entries in ascending order of their subjects. -/
def allEntries (db : Database) : Except DurableError (List Entry) := do
  let rows ← db.entries.read SubjectTable.entries.name
  (rows.mergeSort fun a b => !b.subject.less a.subject).mapM entryOfRow

/-- The subjects of all rows of all tables. -/
def known (db : Database) : Except DurableError Names := do
  let entries ← db.entries.read SubjectTable.entries.name
  let versions ← db.versions.read SubjectTable.versions.name
  let artifacts ← db.artifacts.read SubjectTable.artifacts.name
  let remarks ← db.remarks.read SubjectTable.remarks.name
  let cells := entries.map (·.subject) ++ versions.map (·.subject) ++ artifacts.map (·.subject) ++
    remarks.map (·.subject)
  Names.ofList <$> cells.mapM fun cell => column 0 "subject" cell.asText

def snapshot (db : Database) (subject : String) (version : UInt32) :
    Except DurableError (Option Snapshot) := do
  let rows ← db.versions.read SubjectTable.versions.name
  match rows.find? fun r => r.subject = .text subject && r.version = .ofWord version with
  | none => pure none
  | some row => some <$> snapshotOfRow subject version row

def versionNumbers (db : Database) (subject : String) : Except DurableError (List UInt32) := do
  let rows ← db.versions.read SubjectTable.versions.name
  let cells := (rows.filter fun r => r.subject = .text subject).map (·.version)
  (cells.mergeSort fun a b => !b.less a).mapM fun cell => column 0 "version" cell.asWord

end Database

/-- How many subjects a statement may name. -/
def subjectsAtOnce : Nat := 500

/-- A list cut into pieces of at most `size` elements. -/
def piecesOf {α : Type} (size : Nat) (list : List α) : List (List α) :=
  match list with
  | [] => []
  | first :: rest => (first :: rest.take (size - 1)) :: piecesOf size (rest.drop (size - 1))
termination_by list.length
decreasing_by simp only [List.length_drop, List.length_cons]; omega

namespace Script

def put (snapshot : Snapshot) : Script PutOutcome := do
  let inserted ← ask (.insertVersion (.ofSnapshot snapshot))
  ask (.raiseMark snapshot.subject snapshot.version)
  pure (if inserted then .inserted else .alreadyPresent)

/-- The rows of a table that belong to the subjects, counted piece by piece. -/
def countTable (table : SubjectTable) : List (List String) → Script Nat
  | [] => pure 0
  | piece :: rest => do
    let here ← ask (.countIn table piece)
    let there ← countTable table rest
    pure (here + there)

def count (pieces : List (List String)) : Script RowCounts := do
  let versions ← countTable .versions pieces
  let artifacts ← countTable .artifacts pieces
  let remarks ← countTable .remarks pieces
  let entries ← countTable .entries pieces
  pure ⟨entries, versions, artifacts, remarks⟩

def deleteTable (table : SubjectTable) : List (List String) → Script Unit
  | [] => pure ()
  | piece :: rest => do
    ask (.deleteIn table piece)
    deleteTable table rest

def deleteTables (pieces : List (List String)) : List SubjectTable → Script Unit
  | [] => pure ()
  | table :: rest => do
    deleteTable table pieces
    deleteTables pieces rest

/-- Counts first and deletes what was counted, dependent rows before entries. -/
def remove (pieces : List (List String)) : Script RowCounts := do
  let counts ← count pieces
  deleteTables pieces SubjectTable.all
  pure counts

def update (subject : String) (change : EntryUpdate) : Script Bool := do
  let changed ← ask (.updateEntry subject change)
  pure (0 < changed)

def attach (artifact : Artifact) : Script Unit :=
  ask (.insertArtifact ⟨.text artifact.subject, .ofOption .ofWord artifact.version,
    .text artifact.kind, jsonCell .json (some artifact.payload)⟩)

def annotate (remark : Remark) : Script Unit :=
  ask (.putRemark ⟨.text remark.subject, .text remark.key, jsonCell .json (some remark.value)⟩)

end Script

namespace Database

/-- A read changes nothing. -/
def reading {α : Type} (answer : Except DurableError α) (db : Database) :
    Except DurableError α × Database :=
  (answer, db)

/-- Carries out a request; `broken` says at which statements of its transaction the database
fails. Removing no subject takes no transaction at all. -/
def perform (broken : Nat → Bool) (db : Database) :
    (request : Request) → Except DurableError request.Answer × Database
  | .mark subject => reading (db.mark subject) db
  | .put snapshot => (Script.put snapshot).transact broken db
  | .update subject change => (Script.update subject change).transact broken db
  | .known => reading db.known db
  | .count subjects => (Script.count (piecesOf subjectsAtOnce subjects.toList)).transact broken db
  | .remove subjects =>
    if subjects.size = 0 then (.ok .zero, db)
    else (Script.remove (piecesOf subjectsAtOnce subjects.toList)).transact broken db
  | .entry subject => reading (db.entry subject) db
  | .entries => reading db.allEntries db
  | .snapshot subject version => reading (db.snapshot subject version) db
  | .versions subject => reading (db.versionNumbers subject) db
  | .attach artifact => (Script.attach artifact).transact broken db
  | .annotate remark => (Script.annotate remark).transact broken db

/-- A database none of whose statements fails of itself. -/
def keeper : Keeper Database := fun request db =>
  let (answer, db) := db.perform (fun _ => false) request
  (answer.mapError DurableError.toStoreError, db)

end Database

end SchemaLedger
