namespace SchemaLedger

inductive RegistryError
  | notFound (detail : String)
  | unsupported (detail : String)
  | transport (detail : String)
  | protocol (detail : String)
deriving DecidableEq, Repr

def RegistryError.message : RegistryError → String
  | notFound detail => "registry item not found: " ++ detail
  | unsupported detail => "registry operation unsupported: " ++ detail
  | transport detail => "registry transport error: " ++ detail
  | protocol detail => "registry protocol error: " ++ detail

end SchemaLedger
