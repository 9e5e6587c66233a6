import SchemaLedger.Json.Document
import SchemaLedger.Table

namespace SchemaLedger

/-- Members stand in the order in which they are written out. -/
inductive Json
  | null
  | bool (value : Bool)
  | number (value : Number)
  | string (value : String)
  | array (items : List Json)
  | object (members : List (String × Json))
deriving BEq, Repr, Inhabited

def Json.nat (n : Nat) : Json :=
  match Number.ofInt? n with
  | some value => .number value
  | none => .null

def Json.int (n : Int) : Json :=
  match Number.ofInt? n with
  | some value => .number value
  | none => .null

/-- The member of an object with the given key; other values have none. -/
def Json.member? (key : String) : Json → Option Json
  | .object members => members.lookup key
  | _ => none

def Json.items? : Json → Option (List Json)
  | .array items => some items
  | _ => none

def Json.string? : Json → Option String
  | .string value => some value
  | _ => none

mutual

/-- The value of a document, when every string spells a text, every number lies within the doubles
and no more than `room` containers stand around anything. -/
def Document.value? (room : Nat) : Document → Option Json
  | .null => some .null
  | .bool value => some (.bool value)
  | .number value => value.number?.map .number
  | .string value => value.text?.map .string
  | .array items =>
    match room with
    | 0 => none
    | room + 1 => (Document.itemValues? room items).map .array
  | .object members =>
    match room with
    | 0 => none
    | room + 1 => (Document.memberValues? room members).map fun members =>
      .object (Table.ofList members).entries

def Document.itemValues? (room : Nat) : List Document → Option (List Json)
  | [] => some []
  | item :: rest => do
    let value ← Document.value? room item
    let values ← Document.itemValues? room rest
    pure (value :: values)

def Document.memberValues? (room : Nat) : List (Quoted × Document) → Option (List (String × Json))
  | [] => some []
  | (key, item) :: rest => do
    let key ← key.text?
    let value ← Document.value? room item
    let values ← Document.memberValues? room rest
    pure ((key, value) :: values)

end

/-- How many containers a text may open around a value that is read from it. -/
def Json.nestingLimit : Nat := 127

def Json.parse? (text : String) : Option Json :=
  (Document.parse? text).bind (Document.value? Json.nestingLimit)

end SchemaLedger
