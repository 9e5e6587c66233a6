import SchemaLedger.Record.Codec

namespace SchemaLedger

inductive Dialect
  | avro | json | protobuf
deriving DecidableEq, Repr

namespace Dialect

/-- Registries that leave the dialect out mean this one. -/
instance : Inhabited Dialect := ⟨avro⟩

def label : Dialect → String
  | avro => "AVRO"
  | json => "JSON"
  | protobuf => "PROTOBUF"

def ofExactLabel? (label : String) : Option Dialect :=
  if label = "AVRO" then some avro
  else if label = "JSON" then some json
  else if label = "PROTOBUF" then some protobuf
  else none

/-- Labels count in any case of their ASCII letters. -/
def ofLabel? (label : String) : Option Dialect := ofExactLabel? label.toUpper

/-- Only schemas of record dialects list fields that can be looked at. -/
def listsFields : Dialect → Bool
  | avro => true
  | _ => false

/-- Records hold the label in its exact spelling. -/
def codec : Codec Dialect := .label label ofExactLabel?

end Dialect

end SchemaLedger
