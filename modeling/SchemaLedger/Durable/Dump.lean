import SchemaLedger.Durable.Database
import SchemaLedger.Json.Printer
import SchemaLedger.Record.Shape

namespace SchemaLedger

def Cell.codec : Codec Cell where
  encode
    | .null => .null
    | .integer value => .int value
    | .real value => .number (.double value)
    | .text value => .string value
  decode
    | _, .null => some .null
    | _, .string value => value.text?.map .text
    | _, .number numeral => numeral.number?.map fun
      | .integer value _ _ => .integer value
      | .double value => .real value
    | _, _ => none

def EntryRow.codec : Codec EntryRow :=
  (Shape.required "subject" Cell.codec <| .required "latest_version" Cell.codec <|
      .required "compatibility_level" Cell.codec <| .required "mode_read_only" Cell.codec <|
      .required "environment" Cell.codec <| .required "owner_team" Cell.codec <|
      .required "pii_score" Cell.codec <| .required "risk_score" Cell.codec .done).record
    (fun (subject, mark, level, readOnly, environment, team, personal, risk, ()) =>
      ⟨subject, mark, level, readOnly, environment, team, personal, risk⟩)
    fun r => (r.subject, r.mark, r.compatibilityLevel, r.readOnly, r.environment, r.ownerTeam,
      r.personalScore, r.riskScore, ())

def VersionRow.codec : Codec VersionRow :=
  (Shape.required "subject" Cell.codec <| .required "version" Cell.codec <|
      .required "schema_type" Cell.codec <| .required "registry_id" Cell.codec <|
      .required "schema_body" Cell.codec <| .required "canonical_hash" Cell.codec <|
      .required "references" Cell.codec <| .required "rule_set" Cell.codec <|
      .required "registry_metadata" Cell.codec <| .required "fields_meta" Cell.codec <|
      .required "lint_report" Cell.codec .done).record
    (fun (subject, version, dialect, id, body, hash, references, rules, metadata, fields, lint,
        ()) =>
      ⟨subject, version, dialect, id, body, hash, references, rules, metadata, fields, lint⟩)
    fun r => (r.subject, r.version, r.dialect, r.registryId, r.body, r.hash, r.references,
      r.ruleSet, r.metadata, r.fields, r.lintReport, ())

def ArtifactRow.codec : Codec ArtifactRow :=
  (Shape.required "subject" Cell.codec <| .required "version" Cell.codec <|
      .required "kind" Cell.codec <| .required "payload" Cell.codec .done).record
    (fun (subject, version, kind, payload, ()) => ⟨subject, version, kind, payload⟩)
    fun r => (r.subject, r.version, r.kind, r.payload, ())

def RemarkRow.codec : Codec RemarkRow :=
  (Shape.required "subject" Cell.codec <| .required "key" Cell.codec <|
      .required "value" Cell.codec .done).record
    (fun (subject, key, value, ()) => ⟨subject, key, value⟩)
    fun r => (r.subject, r.key, r.value, ())

/-- Columns and rows of a table that others made. -/
def foreignTableCodec : Codec (List String × List (List Cell)) :=
  (Shape.required "columns" (.list .string) <|
      .required "rows" (.list (.list Cell.codec)) .done).record
    (fun (columns, rows, ()) => (columns, rows)) fun (columns, rows) => (columns, rows, ())

/-- A missing table is null, and one with the expected columns the list of its rows. -/
def Stored.codec {ρ : Type} (row : Codec ρ) : Codec (Stored ρ) where
  encode
    | .absent => .null
    | .held rows => (Codec.list row).encode rows
    | .foreign columns rows => foreignTableCodec.encode (columns, rows)
  decode
    | _, .null => some .absent
    | room, .array items => ((Codec.list row).decode room (.array items)).map .held
    | room, document =>
      (foreignTableCodec.decode room document).map fun (columns, rows) => .foreign columns rows

def Database.codec : Codec Database :=
  (Shape.required "store_meta" (Stored.codec Cell.codec) <|
      .required "schema_versions" (Stored.codec VersionRow.codec) <|
      .required "schema_artifacts" (Stored.codec ArtifactRow.codec) <|
      .required "subject_metadata" (Stored.codec RemarkRow.codec) <|
      .required "subjects" (Stored.codec EntryRow.codec) .done).record
    (fun (recorded, versions, artifacts, remarks, entries, ()) =>
      ⟨recorded, versions, artifacts, remarks, entries⟩)
    fun db => (db.recorded, db.versions, db.artifacts, db.remarks, db.entries, ())

def Database.dump (db : Database) : String := (Database.codec.encode db).render

/-- An empty text stands for a database in which nothing has been made. -/
def Database.ofDump? (text : String) : Option Database :=
  if text = "" then some .blank else Database.codec.ofText? text

end SchemaLedger
