import SchemaLedger.Schema.Registered

namespace SchemaLedger

/-- A version as it is written by a registry; all but its number may be left out. -/
structure VersionPayload where
  subject : Option String
  version : UInt32
  id : Option Int64
  text : Option String
  dialect : Option String
  references : Option (List Reference)
  metadata : Option Json
  ruleSet : Option Json
deriving BEq, Repr

/-- A field that may be left out anywhere. -/
def Shape.free {α ρ : Type} (name : String) (codec : Codec α) (rest : Shape ρ) :
    Shape (Option α × ρ) :=
  .field name codec.option (.anywhere none) rest

def VersionPayload.codec : Codec VersionPayload :=
  (Shape.free "subject" .string <| .required "version" .uint32 <| .free "id" .int64 <|
      .free "schema" .string <| .free "schemaType" .string <|
      .free "references" (.list Reference.codec) <| .free "metadata" .json <|
      .free "ruleSet" .json .done).record
    (fun (subject, version, id, text, dialect, references, metadata, ruleSet, ()) =>
      ⟨subject, version, id, text, dialect, references, metadata, ruleSet⟩)
    fun p => (p.subject, p.version, p.id, p.text, p.dialect, p.references, p.metadata,
      p.ruleSet, ())

/-- The version that a payload tells of, when its dialect is known. The subject is the one asked for
unless the registry names one, and an empty schema text is none. -/
def VersionPayload.registered? (asked : String) (p : VersionPayload) : Option Registered := do
  let dialect ← match p.dialect with
    | none => some default
    | some label => Dialect.ofLabel? label
  pure {
    subject := p.subject.getD asked
    version := p.version
    schema := ⟨p.text.filter (· ≠ ""), dialect, p.id⟩
    references := p.references
    ruleSet := p.ruleSet
    metadata := p.metadata }

structure ConfigPayload where
  compatibilityLevel : Option String
deriving DecidableEq, Repr

def ConfigPayload.codec : Codec ConfigPayload :=
  (Shape.free "compatibilityLevel" .string .done).record (fun (level, ()) => ⟨level⟩)
    fun p => (p.compatibilityLevel, ())

structure ModePayload where
  mode : String
deriving DecidableEq, Repr

def ModePayload.codec : Codec ModePayload :=
  (Shape.required "mode" .string .done).record (fun (mode, ()) => ⟨mode⟩) fun p => (p.mode, ())

/-- What goes with a status that is no success. -/
structure FailurePayload where
  code : Option Int64
  message : Option String
deriving DecidableEq, Repr

def FailurePayload.codec : Codec FailurePayload :=
  (Shape.free "error_code" .int64 <| .free "message" .string .done).record
    (fun (code, message, ()) => ⟨code, message⟩) fun p => (p.code, p.message, ())

/-- The code and the message, as far as they are given. -/
def FailurePayload.text? (p : FailurePayload) : Option String :=
  match p.code, p.message with
  | some code, some message => some (toString code.toInt ++ ": " ++ message)
  | none, some message => some message
  | some code, none => some (toString code.toInt)
  | none, none => none

end SchemaLedger
