import SchemaLedger.Json.Value

namespace SchemaLedger

/-- `decode` is told how many containers may still be opened around what it reads. -/
structure Codec (α : Type) where
  encode : α → Json
  decode : Nat → Document → Option α

namespace Codec

def string : Codec String where
  encode := .string
  decode
    | _, .string quoted => quoted.text?
    | _, _ => none

def bool : Codec Bool where
  encode := .bool
  decode
    | _, .bool value => some value
    | _, _ => none

/-- The integer that a document denotes, if it does. -/
def integer? : Document → Option Int
  | .number numeral =>
    match numeral.number? with
    | some (.integer value _ _) => some value
    | _ => none
  | _ => none

/-- Integers of a bounded type. -/
def word {α : Type} (least greatest : Int) (toInt : α → Int) (ofInt : Int → α) : Codec α where
  encode value := .int (toInt value)
  decode _ document := do
    let value ← integer? document
    guard (least ≤ value ∧ value ≤ greatest)
    pure (ofInt value)

def uint32 : Codec UInt32 := word 0 4294967295 (·.toNat) (UInt32.ofNat ·.toNat)

def uint64 : Codec UInt64 := word 0 18446744073709551615 (·.toNat) (UInt64.ofNat ·.toNat)

def int64 : Codec Int64 :=
  word (-9223372036854775808) 9223372036854775807 Int64.toInt Int64.ofInt

/-- A double may be given as an integer. -/
def double : Codec Double where
  encode value := .number (.double value)
  decode
    | _, .number numeral => numeral.number?.map Number.toDouble
    | _, _ => none

/-- Free-form values. -/
def json : Codec Json where
  encode := id
  decode := Document.value?

/-- Nothing is written as null, and null is read as nothing. -/
def option {α : Type} (codec : Codec α) : Codec (Option α) where
  encode
    | none => .null
    | some value => codec.encode value
  decode
    | _, .null => some none
    | room, document => (codec.decode room document).map some

def list {α : Type} (codec : Codec α) : Codec (List α) where
  encode values := .array (values.map codec.encode)
  decode
    | room + 1, .array items => items.mapM (codec.decode room)
    | _, _ => none

/-- Sets are written in ascending order and read in any, repetitions included. -/
def names : Codec Names where
  encode set := .array (set.toList.map .string)
  decode room document := (list string).decode room document |>.map Names.ofList

/-- The label that a document names: a string, or an object with the label as its one member and
null as its value. -/
def label? : Nat → Document → Option String
  | _, .string quoted => quoted.text?
  | _ + 1, .object [(key, .null)] => key.text?
  | _, _ => none

/-- One of finitely many values, each under its label. -/
def label {α : Type} (toLabel : α → String) (ofLabel? : String → Option α) : Codec α where
  encode value := .string (toLabel value)
  decode room document := (label? room document).bind ofLabel?

/-- A type written as another one. -/
def convert {α β : Type} (codec : Codec α) (toFun : α → β) (invFun : β → α) : Codec β where
  encode value := codec.encode (invFun value)
  decode room document := (codec.decode room document).map toFun

/-- Reads a whole text. -/
def ofText? {α : Type} (codec : Codec α) (text : String) : Option α :=
  (Document.parse? text).bind (codec.decode Json.nestingLimit)

def ofBytes? {α : Type} (codec : Codec α) (bytes : List UInt8) : Option α :=
  (Document.ofBytes? bytes).bind (codec.decode Json.nestingLimit)

end Codec

end SchemaLedger
