import SchemaLedger.Record.Shape
import SchemaLedger.Schema.Dialect

namespace SchemaLedger

/-- A schema of another subject that a schema refers to by name. -/
structure Reference where
  name : String
  subject : String
  version : UInt32
deriving DecidableEq, Repr

def Reference.codec : Codec Reference :=
  (Shape.required "name" .string <| .required "subject" .string <|
      .required "version" .uint32 .done).record
    (fun (name, subject, version, ()) => ⟨name, subject, version⟩)
    fun r => (r.name, r.subject, r.version, ())

/-- The schema text itself, its dialect and the number under which the registry knows it. -/
structure SchemaBody where
  text : Option String
  dialect : Dialect
  id : Option Int64
deriving DecidableEq, Repr

def SchemaBody.codec : Codec SchemaBody :=
  (Shape.optional "schema_str" .string <| .required "schema_type" Dialect.codec <|
      .optional "schema_id" .int64 .done).record
    (fun (text, dialect, id, ()) => ⟨text, dialect, id⟩) fun b => (b.text, b.dialect, b.id, ())

/-- A version as a registry gives it. The subject and the version are those that the answer
reports, which need not be those that were asked for. -/
structure Registered where
  subject : String
  version : UInt32
  schema : SchemaBody
  references : Option (List Reference)
  ruleSet : Option Json
  metadata : Option Json
deriving BEq, Repr

def Registered.codec : Codec Registered :=
  (Shape.required "subject" .string <| .required "version" .uint32 <|
      .required "schema" SchemaBody.codec <| .optional "references" (.list Reference.codec) <|
      .optional "rule_set" .json <| .optional "metadata" .json .done).record
    (fun (subject, version, schema, references, ruleSet, metadata, ()) =>
      ⟨subject, version, schema, references, ruleSet, metadata⟩)
    fun r => (r.subject, r.version, r.schema, r.references, r.ruleSet, r.metadata, ())

structure SubjectConfig where
  compatibilityLevel : Option String
deriving DecidableEq, Repr

def SubjectConfig.codec : Codec SubjectConfig :=
  (Shape.optional "compatibility_level" .string .done).record (fun (level, ()) => ⟨level⟩)
    fun c => (c.compatibilityLevel, ())

/-- Whether a subject takes new versions; labels without a meaning here are kept. -/
inductive SubjectMode
  | readOnly
  | other (label : String)
deriving DecidableEq, Repr

namespace SubjectMode

def ofLabel (label : String) : SubjectMode :=
  if label.toUpper = "READONLY" then readOnly else other label

def isReadOnly : SubjectMode → Bool
  | readOnly => true
  | other _ => false

/-- A label of its own stands in an object with one member. -/
def codec : Codec SubjectMode where
  encode
    | readOnly => .string "ReadOnly"
    | other label => .object [("Other", .string label)]
  decode
    | _ + 1, .object [(key, .null)] => if key.text? = some "ReadOnly" then some readOnly else none
    | _ + 1, .object [(key, .string label)] =>
      if key.text? = some "Other" then label.text?.map other else none
    | _, .string label => if label.text? = some "ReadOnly" then some readOnly else none
    | _, _ => none

end SubjectMode

end SchemaLedger
