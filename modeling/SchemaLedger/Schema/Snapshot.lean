import SchemaLedger.Digest.Fingerprint
import SchemaLedger.Schema.Inference
import SchemaLedger.Schema.Registered

namespace SchemaLedger

structure Snapshot where
  subject : String
  version : UInt32
  dialect : Dialect
  registryId : Option Int64
  body : String
  hash : String
  references : Option (List Reference)
  ruleSet : Option Json
  metadata : Option Json
  fields : Option FieldList
  lintReport : Option Json
deriving BEq, Repr

namespace Snapshot

def codec : Codec Snapshot :=
  (Shape.required "subject" .string <| .required "version" .uint32 <|
      .required "schema_type" Dialect.codec <| .optional "registry_id" .int64 <|
      .required "schema_body" .string <| .required "canonical_hash" .string <|
      .optional "references" (.list Reference.codec) <| .optional "rule_set" .json <|
      .optional "registry_metadata" .json <| .optional "fields_meta" FieldList.codec <|
      .optional "lint_report" .json .done).record
    (fun (subject, version, dialect, id, body, hash, references, ruleSet, metadata, fields, lint,
        ()) =>
      ⟨subject, version, dialect, id, body, hash, references, ruleSet, metadata, fields, lint⟩)
    fun s => (s.subject, s.version, s.dialect, s.registryId, s.body, s.hash, s.references,
      s.ruleSet, s.metadata, s.fields, s.lintReport, ())

/-- The snapshot of a registered version under the subject and the version that were asked for. A
version without a schema text has none. Lint reports are written by others. -/
def ofRegistered? (subject : String) (version : UInt32) (registered : Registered) :
    Option Snapshot := do
  let body ← registered.schema.text.filter (· ≠ "")
  pure {
    subject := subject
    version := version
    dialect := registered.schema.dialect
    registryId := registered.schema.id
    body := body
    hash := fingerprint body
    references := registered.references
    ruleSet := registered.ruleSet
    metadata := registered.metadata
    fields := if registered.schema.dialect.listsFields then FieldList.ofBody? body else none
    lintReport := none }

end Snapshot

end SchemaLedger
