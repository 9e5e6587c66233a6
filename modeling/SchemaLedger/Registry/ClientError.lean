import SchemaLedger.Registry.Error

namespace SchemaLedger

inductive ClientError
  | config (detail : String)
  | transport (detail : String)
  | status (code : Nat) (detail : String)
  | protocol (detail : String)
  | tooLarge (actual limit : UInt64)
deriving DecidableEq, Repr

namespace ClientError

def message : ClientError → String
  | config detail => "registry client config error: " ++ detail
  | transport detail => "registry transport error: " ++ detail
  | status code detail => "registry http status " ++ toString code ++ ": " ++ detail
  | protocol detail => "registry protocol error: " ++ detail
  | tooLarge actual limit => "registry response exceeds size limit (" ++ toString actual.toNat ++
      " > " ++ toString limit.toNat ++ ")"

def notFoundStatus : Nat := 404

/-- The same failure for those who do not care how a registry is reached. Only one status says that
a thing is absent; any other leaves that open. -/
def toRegistryError : ClientError → RegistryError
  | status code detail =>
    if code = notFoundStatus then .notFound detail else .transport (status code detail).message
  | protocol detail => .protocol detail
  | tooLarge actual limit => .protocol (tooLarge actual limit).message
  | error => .transport error.message

end ClientError

end SchemaLedger
