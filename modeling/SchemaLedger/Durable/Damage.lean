import SchemaLedger.Durable.Database

namespace SchemaLedger

/-- Writes a cell that must not be empty. -/
def Affinity.demand (affinity : Affinity) (value : Cell) : Option Cell :=
  match affinity.keep value with
  | .null => none
  | cell => some cell

/-- The row with another cell in the named column, where the column takes it. -/
def EntryRow.set? (column : String) (value : Cell) (row : EntryRow) : Option EntryRow :=
  match column with
  | "subject" => some { row with subject := Affinity.text.keep value }
  | "latest_version" => some { row with mark := Affinity.integer.keep value }
  | "compatibility_level" => some { row with compatibilityLevel := Affinity.text.keep value }
  | "mode_read_only" => (Affinity.integer.demand value).map fun c => { row with readOnly := c }
  | "environment" => some { row with environment := Affinity.text.keep value }
  | "owner_team" => some { row with ownerTeam := Affinity.text.keep value }
  | "pii_score" => (Affinity.real.demand value).map fun c => { row with personalScore := c }
  | "risk_score" => (Affinity.real.demand value).map fun c => { row with riskScore := c }
  | _ => none

def VersionRow.set? (column : String) (value : Cell) (row : VersionRow) : Option VersionRow :=
  match column with
  | "subject" => (Affinity.text.demand value).map fun c => { row with subject := c }
  | "version" => (Affinity.integer.demand value).map fun c => { row with version := c }
  | "schema_type" => (Affinity.text.demand value).map fun c => { row with dialect := c }
  | "registry_id" => some { row with registryId := Affinity.integer.keep value }
  | "schema_body" => (Affinity.text.demand value).map fun c => { row with body := c }
  | "canonical_hash" => (Affinity.text.demand value).map fun c => { row with hash := c }
  | "references_json" => some { row with references := Affinity.text.keep value }
  | "rule_set_json" => some { row with ruleSet := Affinity.text.keep value }
  | "metadata_json" => some { row with metadata := Affinity.text.keep value }
  | "fields_meta_json" => some { row with fields := Affinity.text.keep value }
  | "lint_report_json" => some { row with lintReport := Affinity.text.keep value }
  | _ => none

/-- A change from outside. -/
inductive Damage
  | recordVersion (value : Cell)
  | setVersionColumn (subject column : String) (value : Cell)
  | setEntryColumn (subject column : String) (value : Cell)
  | deleteEntry (subject : String)
  | drop (table : String)

namespace Damage

/-- Changes the rows that a column takes the cell in, if the table is there. -/
def mapRows {ρ : Type} (f : ρ → Option ρ) : Stored ρ → Stored ρ
  | .held rows => .held (rows.map fun row => (f row).getD row)
  | table => table

def apply (db : Database) : Damage → Database
  | recordVersion value =>
    { db with recorded := mapRows (fun _ => Affinity.integer.demand value) db.recorded }
  | setVersionColumn subject column value =>
    { db with
      versions := mapRows
        (fun row => if row.subject = .text subject then row.set? column value else none)
        db.versions }
  | setEntryColumn subject column value =>
    { db with
      entries := mapRows
        (fun row => if row.subject = .text subject then row.set? column value else none)
        db.entries }
  | deleteEntry subject =>
    match db.entries with
    | .held rows =>
      { db with entries := .held (rows.filter fun row => row.subject ≠ .text subject) }
    | _ => db
  | drop "subjects" => { db with entries := .absent }
  | drop "schema_versions" => { db with versions := .absent }
  | drop "schema_artifacts" => { db with artifacts := .absent }
  | drop "subject_metadata" => { db with remarks := .absent }
  | drop "store_meta" => { db with recorded := .absent }
  | drop _ => db

end Damage

end SchemaLedger
