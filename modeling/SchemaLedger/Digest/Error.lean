namespace SchemaLedger

inductive DigestError
  | notCanonical (detail : String)
deriving DecidableEq, Repr

def DigestError.message : DigestError → String
  | notCanonical detail => "failed to canonicalize json: " ++ detail

end SchemaLedger
