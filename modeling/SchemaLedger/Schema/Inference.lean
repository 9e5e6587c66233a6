import SchemaLedger.Record.Shape
import SchemaLedger.Text.Search

namespace SchemaLedger

/-- Whole names stand before the letters that shorten them. -/
def environmentPrefixes : List (String × String) :=
  [("dev.", "dev"), ("stg.", "stg"), ("prod.", "prod"), ("d.", "dev"), ("s.", "stg"),
    ("p.", "prod")]

/-- The environment that the first segment of a subject names. -/
def environment? (subject : String) : Option String :=
  (environmentPrefixes.find? fun p => startsWith p.1 subject).map (·.2)

def personalKeywords : List String := ["email", "phone", "ssn", "passport", "address", "name"]

/-- A field may hold personal data when its name contains a keyword in any case of ASCII letters. -/
def suggestsPersonalData (name : String) : Bool :=
  personalKeywords.any (occursIn · name.toLower)

/-- A declared field; its type is copied from the schema as it stands there. -/
structure FieldNote where
  name : String
  type : Json
  personal : Bool
deriving BEq, Repr

def FieldNote.codec : Codec FieldNote :=
  (Shape.required "name" .string <| .required "type" .json <|
      .required "pii_candidate" .bool .done).record
    (fun (name, type, personal, ()) => ⟨name, type, personal⟩)
    fun f => (f.name, f.type, f.personal, ())

/-- A member without a text as its name is no field, and a missing type is null. -/
def FieldNote.ofJson? (field : Json) : Option FieldNote := do
  let name ← (← field.member? "name").string?
  pure ⟨name, (field.member? "type").getD .null, suggestsPersonalData name⟩

/-- The declared fields of a schema, in the order of their declaration. -/
structure FieldList where
  fields : List FieldNote
deriving BEq, Repr

def FieldList.personalCount (list : FieldList) : Nat :=
  (list.fields.filter (·.personal)).length

def FieldList.codec : Codec FieldList :=
  (Shape.required "fields" (.list FieldNote.codec) .done).record
    (fun (fields, ()) => ⟨fields⟩) fun l => (l.fields, ())

def FieldList.ofJson? (schema : Json) : Option FieldList := do
  let fields ← (← schema.member? "fields").items?
  pure ⟨fields.filterMap FieldNote.ofJson?⟩

/-- A text that is not JSON, or does not list fields, has no field list at all. -/
def FieldList.ofBody? (body : String) : Option FieldList :=
  (Json.parse? body).bind FieldList.ofJson?

end SchemaLedger
