import SchemaLedger.Text.Display

namespace SchemaLedger

def defaultUserAgent : String := "schema-catalog/0.1.0"

def defaultMaxResponseBytes : UInt64 := 16777216

structure ClientSettings where
  baseUrl : String
  username : Option String
  password : Option String
  userAgent : String
  maxResponseBytes : UInt64
deriving DecidableEq, Repr

def ClientSettings.standard (baseUrl : String) : ClientSettings :=
  ⟨baseUrl, none, none, defaultUserAgent, defaultMaxResponseBytes⟩

/-- The settings for people to look at, without the password. -/
def ClientSettings.display (s : ClientSettings) : String :=
  Display.record "HttpRegistryConfig"
    [("base_url", Display.text s.baseUrl), ("username", Display.optional s.username),
      ("password", Display.secret s.password), ("user_agent", Display.text s.userAgent),
      ("max_response_bytes", toString s.maxResponseBytes.toNat)]

end SchemaLedger
