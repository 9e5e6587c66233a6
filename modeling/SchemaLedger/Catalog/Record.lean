import SchemaLedger.Record.Shape
import SchemaLedger.Schema.Snapshot

namespace SchemaLedger

/-- The entry of a subject. Its mark is the highest version kept of it; the owner and the scores are
set by others. -/
structure Entry where
  subject : String
  mark : Option UInt32
  compatibilityLevel : Option String
  readOnly : Bool
  environment : Option String
  ownerTeam : Option String
  personalScore : Double
  riskScore : Double
deriving DecidableEq, Repr

namespace Entry

/-- The entry of a subject of which nothing is kept yet. -/
def fresh (subject : String) : Entry :=
  ⟨subject, none, none, false, none, none, .zero false, .zero false⟩

def codec : Codec Entry :=
  (Shape.required "subject" .string <| .optional "latest_version" .uint32 <|
      .optional "compatibility_level" .string <| .required "mode_read_only" .bool <|
      .optional "environment" .string <| .optional "owner_team" .string <|
      .required "pii_score" .double <| .required "risk_score" .double .done).record
    (fun (subject, mark, level, readOnly, environment, owner, personal, risk, ()) =>
      ⟨subject, mark, level, readOnly, environment, owner, personal, risk⟩)
    fun e => (e.subject, e.mark, e.compatibilityLevel, e.readOnly, e.environment, e.ownerTeam,
      e.personalScore, e.riskScore, ())

end Entry

/-- Something made from a subject or from one of its versions. -/
structure Artifact where
  subject : String
  version : Option UInt32
  kind : String
  payload : Json
deriving BEq, Repr

def Artifact.codec : Codec Artifact :=
  (Shape.required "subject" .string <| .optional "version" .uint32 <| .required "kind" .string <|
      .required "payload" .json .done).record
    (fun (subject, version, kind, payload, ()) => ⟨subject, version, kind, payload⟩)
    fun a => (a.subject, a.version, a.kind, a.payload, ())

/-- A remark on a subject under a key of its own. -/
structure Remark where
  subject : String
  key : String
  value : Json
deriving BEq, Repr

def Remark.codec : Codec Remark :=
  (Shape.required "subject" .string <| .required "key" .string <|
      .required "value" .json .done).record
    (fun (subject, key, value, ()) => ⟨subject, key, value⟩)
    fun r => (r.subject, r.key, r.value, ())

/-- How many rows of each kind. -/
structure RowCounts where
  entries : Nat
  versions : Nat
  artifacts : Nat
  remarks : Nat
deriving DecidableEq, Repr

namespace RowCounts

def zero : RowCounts := ⟨0, 0, 0, 0⟩

def add (a b : RowCounts) : RowCounts :=
  ⟨a.entries + b.entries, a.versions + b.versions, a.artifacts + b.artifacts, a.remarks + b.remarks⟩

/-- Records hold counts of 64 bits. -/
def codec : Codec RowCounts :=
  (Shape.required "subjects" .uint64 <| .required "versions" .uint64 <|
      .required "artifacts" .uint64 <| .required "metadata" .uint64 .done).record
    (fun (entries, versions, artifacts, remarks, ()) =>
      ⟨entries.toNat, versions.toNat, artifacts.toNat, remarks.toNat⟩)
    fun c => (.ofNat c.entries, .ofNat c.versions, .ofNat c.artifacts, .ofNat c.remarks, ())

end RowCounts

/-- What other readers or tools have set on an entry; a setting that is absent leaves the stored one
as it is. -/
structure EntryUpdate where
  compatibilityLevel : Option String
  readOnly : Option Bool
  environment : Option String
deriving DecidableEq, Repr

def EntryUpdate.apply (update : EntryUpdate) (entry : Entry) : Entry :=
  { entry with
    compatibilityLevel := update.compatibilityLevel <|> entry.compatibilityLevel
    readOnly := update.readOnly.getD entry.readOnly
    environment := update.environment <|> entry.environment }

inductive PutOutcome
  | inserted | alreadyPresent
deriving DecidableEq, Repr

end SchemaLedger
