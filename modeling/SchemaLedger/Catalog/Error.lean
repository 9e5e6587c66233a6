namespace SchemaLedger

inductive StoreError
  | io (detail : String)
  | store (detail : String)
  | corrupt (detail : String)
  | versionMismatch (detail : String)
  | invalid (detail : String)
deriving DecidableEq, Repr

def StoreError.message : StoreError → String
  | io detail => "store io error: " ++ detail
  | store detail => "store error: " ++ detail
  | corrupt detail => "store corruption: " ++ detail
  | versionMismatch detail => "store version mismatch: " ++ detail
  | invalid detail => "store invalid data: " ++ detail

end SchemaLedger
