import SchemaLedger.Catalog.Error
import SchemaLedger.Durable.Cell

namespace SchemaLedger

inductive DurableError
  | io (detail : String)
  | database (detail : String)
  | versionMismatch (detail : String)
  | invalid (detail : String)
deriving DecidableEq, Repr

namespace DurableError

def message : DurableError → String
  | io detail => "sqlite store io error: " ++ detail
  | database detail => "sqlite store db error: " ++ detail
  | versionMismatch detail => "sqlite store version mismatch: " ++ detail
  | invalid detail => "sqlite store invalid data: " ++ detail

/-- The same failure as one of any catalog. -/
def toStoreError : DurableError → StoreError
  | io detail => .io detail
  | database detail => .store detail
  | versionMismatch detail => .versionMismatch detail
  | invalid detail => .invalid detail

def noTable (name : String) : DurableError := .database ("no such table: " ++ name)

/-- A table that others made, without the columns that are needed. -/
def otherColumns (name : String) : DurableError := .database ("no such column in " ++ name)

/-- A cell that is no value of the type that its column is read as. Columns are counted from zero in
the order in which a statement names them. -/
def unreadable (index : Nat) (column : String) : Cell.Fault → DurableError
  | .wrongKind kind => .database ("Invalid column type " ++ kind ++ " at index: " ++
      toString index ++ ", name: " ++ column)
  | .outOfRange value => .database ("Integer " ++ toString value ++ " out of range at index " ++
      toString index)

def interrupted : DurableError := .database "statement interrupted"

def undecodable (column : String) : DurableError := .invalid ("undecodable column " ++ column)

def unknownDialect (subject : String) (version : UInt32) : DurableError :=
  .invalid ("unknown schema type for " ++ subject ++ " v" ++ toString version.toNat)

def unsupportedVersion (recorded : Int) : DurableError :=
  .versionMismatch ("unsupported schema version: " ++ toString recorded)

end DurableError

end SchemaLedger
