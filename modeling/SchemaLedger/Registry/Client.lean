import SchemaLedger.Registry.ClientSettings
import SchemaLedger.Registry.Exchange
import SchemaLedger.Registry.Payload
import SchemaLedger.Registry.Query
import SchemaLedger.Text.Base64
import SchemaLedger.Text.Blank

namespace SchemaLedger

structure Client where
  base : Url
  credentials : Option (String × String)
  userAgent : String
  maxResponseBytes : UInt64
deriving DecidableEq, Repr

/-- The segments below the base address at which a call is answered. -/
def Query.segments : Query → List String
  | subjects => ["subjects"]
  | latest subject => ["subjects", subject, "versions", "latest"]
  | version subject number => ["subjects", subject, "versions", toString number.toNat]
  | config subject => ["config", subject]
  | mode subject => ["mode", subject]

namespace Client

/-- Header values hold no control characters but tabs. -/
def isHeaderText (text : String) : Bool :=
  text.toList.all fun c => (0x20 ≤ c.toNat && c.toNat ≠ 0x7F) || c == '\t'

/-- A name and a password go together or not at all. -/
def credentials? (username password : Option String) :
    Except ClientError (Option (String × String)) :=
  match username, password with
  | some username, some password => .ok (some (username, password))
  | none, none => .ok none
  | _, _ => .error (.config "registry username and password must be set together")

/-- Makes a client, if its settings allow one. -/
def ofSettings (settings : ClientSettings) : Except ClientError Client := do
  let base ← match Url.parse settings.baseUrl with
    | .ok url => pure url
    | .error .unreadable => throw (.config "invalid registry url")
    | .error (.otherScheme scheme) =>
      throw (.config ("unsupported registry url scheme: " ++ scheme))
  let credentials ← credentials? settings.username settings.password
  if settings.maxResponseBytes = 0 then
    throw (.config "max_response_bytes must be greater than zero")
  if isHeaderText settings.userAgent then
    pure ⟨base, credentials, settings.userAgent, settings.maxResponseBytes⟩
  else throw (.config "builder error")

/-- The forms of answers that registries know. -/
def accept : String := "application/vnd.schemaregistry.v1+json, application/json"

/-- A subject without a setting of its own is asked for the one that holds for all. -/
def url (client : Client) (query : Query) : Url :=
  let url := client.base.below query.segments
  match query with
  | .config _ => url.addQuery "defaultToGlobal" "true"
  | _ => url

/-- The credentials of the client or else those that stand in its base address. -/
def loginBytes? (client : Client) : Option (List UInt8) :=
  match client.credentials with
  | some (username, password) => some (Utf8.encode (username ++ ":" ++ password))
  | none =>
    if client.base.username.isEmpty && client.base.password.isEmpty then none
    else some (Percent.decode client.base.username ++
      0x3A :: Percent.decode client.base.password)

/-- Addresses in requests do not show credentials. -/
def request (client : Client) (query : Query) : HttpRequest where
  url := { client.url query with username := [], password := [], fragment := none }
  authorization := client.loginBytes?.map fun bytes => "Basic " ++ Base64.encode bytes
  accept := accept
  userAgent := client.userAgent

/-- What a status that is no success says: what its body spells out, or else the body itself. -/
def statusText (body : List UInt8) : String :=
  ((FailurePayload.codec.ofBytes? body).bind FailurePayload.text?).getD
    (trimBlank (Utf8.decodeLossy body))

def undecodable : ClientError := .protocol "invalid registry response"

/-- The payload of an answer. Its size is looked at before its status. -/
def payload {α : Type} (codec : Codec α) (limit : UInt64) (response : HttpResponse) :
    Except ClientError α := do
  let body ← response.body.read limit .empty
  unless response.isSuccess do
    throw (.status response.status (statusText body))
  match codec.ofBytes? body with
  | some value => pure value
  | none => throw undecodable

def registered (limit : UInt64) (subject : String) (response : HttpResponse) :
    Except RegistryError Registered :=
  match payload VersionPayload.codec limit response with
  | .error error => .error error.toRegistryError
  | .ok payload => match payload.registered? subject with
    | some registered => .ok registered
    | none => .error (.protocol ("unknown schema type for subject " ++ subject))

/-- These say of a mode that the registry knows no modes. -/
def modelessStatuses : List Nat := [404, 405, 501]

def modeOf (limit : UInt64) (response : HttpResponse) : Except RegistryError SubjectMode :=
  match payload ModePayload.codec limit response with
  | .ok payload => .ok (.ofLabel payload.mode)
  | .error (.status code detail) =>
    if code ∈ modelessStatuses then .error (.unsupported detail)
    else .error (ClientError.status code detail).toRegistryError
  | .error error => .error error.toRegistryError

/-- What an answer means for the call that it answers. -/
def reply (limit : UInt64) : (query : Query) → HttpResponse → Except RegistryError query.Reply
  | .subjects, response =>
    match payload (.list .string) limit response with
    | .ok subjects => .ok subjects
    | .error error => .error error.toRegistryError
  | .latest subject, response => registered limit subject response
  | .version subject _, response => registered limit subject response
  | .config _, response =>
    match payload ConfigPayload.codec limit response with
    | .ok payload => .ok (some ⟨payload.compatibilityLevel⟩)
    | .error error => .error error.toRegistryError
  | .mode _, response => modeOf limit response

/-- Carries out a call. -/
def answer (client : Client) (network : Network) (query : Query) :
    Except RegistryError query.Reply :=
  match network (client.request query) with
  | .error detail => .error (ClientError.transport detail).toRegistryError
  | .ok response => reply client.maxResponseBytes query response

end Client

end SchemaLedger
