import SchemaLedger.Record.Codec

namespace SchemaLedger

/-- What a field is when nothing is given for it. A field may be required; it may be left out of
objects only; or it has a default, which also stands for it when an array ends early. -/
inductive Absence (α : Type)
  | required
  | inObject (value : α)
  | anywhere (value : α)

def Absence.object? {α : Type} : Absence α → Option α
  | .required => none
  | .inObject value => some value
  | .anywhere value => some value

def Absence.array? {α : Type} : Absence α → Option α
  | .anywhere value => some value
  | _ => none

/-- A row of fields whose values together make a nested pair. -/
inductive Shape : Type → Type 1
  | done : Shape Unit
  | field {α ρ : Type} (name : String) (codec : Codec α) (absence : Absence α) (rest : Shape ρ) :
      Shape (α × ρ)

namespace Shape

def required {α ρ : Type} (name : String) (codec : Codec α) (rest : Shape ρ) : Shape (α × ρ) :=
  .field name codec .required rest

/-- A field that objects may leave out. -/
def optional {α ρ : Type} (name : String) (codec : Codec α) (rest : Shape ρ) :
    Shape (Option α × ρ) :=
  .field name codec.option (.inObject none) rest

def names : {ρ : Type} → Shape ρ → List String
  | _, .done => []
  | _, .field name _ _ rest => name :: rest.names

def encode : {ρ : Type} → Shape ρ → ρ → List (String × Json)
  | _, .done, () => []
  | _, .field name codec _ rest, (value, values) => (name, codec.encode value) :: rest.encode values

/-- The values of the fields among members whose keys have been read. -/
def ofMembers? (room : Nat) (members : List (String × Document)) : {ρ : Type} → Shape ρ → Option ρ
  | _, .done => some ()
  | _, .field name codec absence rest => do
    let value ← match members.lookup name with
      | some document => codec.decode room document
      | none => absence.object?
    let values ← ofMembers? room members rest
    pure (value, values)

/-- The values of the fields in a row of items; all items have to be used. -/
def ofItems? (room : Nat) : {ρ : Type} → Shape ρ → List Document → Option ρ
  | _, .done, [] => some ()
  | _, .done, _ :: _ => none
  | _, .field _ codec _ rest, item :: items => do
    let value ← codec.decode room item
    let values ← ofItems? room rest items
    pure (value, values)
  | _, .field _ _ absence rest, [] => do
    let value ← absence.array?
    let values ← ofItems? room rest []
    pure (value, values)

/-- No known name is given twice. -/
def distinct (known : List String) (members : List (String × Document)) : Bool :=
  known.all fun name => (members.filter fun m => m.1 == name).length ≤ 1

def decode {ρ : Type} (shape : Shape ρ) : Nat → Document → Option ρ
  | room + 1, .object members => do
    let members ← Document.readKeys? members
    guard (distinct shape.names members)
    shape.ofMembers? room members
  | room + 1, .array items => shape.ofItems? room items
  | _, _ => none

def codec {ρ : Type} (shape : Shape ρ) : Codec ρ where
  encode values := .object (shape.encode values)
  decode := shape.decode

/-- The codec of a structure with the same fields. -/
def record {α ρ : Type} (shape : Shape ρ) (make : ρ → α) (fields : α → ρ) : Codec α :=
  shape.codec.convert make fields

end Shape

end SchemaLedger
