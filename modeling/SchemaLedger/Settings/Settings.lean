import SchemaLedger.Durable.Settings
import SchemaLedger.Registry.ClientSettings
import SchemaLedger.Settings.Error
import SchemaLedger.Sync.Policy
import SchemaLedger.Text.Blank
import SchemaLedger.Text.Path
import SchemaLedger.Text.Search

namespace SchemaLedger

structure RegistrySettings where
  url : String
  username : Option String
  password : Option String
  userAgent : String
  maxResponseBytes : UInt64
deriving DecidableEq, Repr

structure SyncSettings where
  maxConcurrent : UInt64
  requestTimeoutMillis : UInt64
  maxRetries : UInt32
  retryBaseDelayMillis : UInt64
  intervalSeconds : UInt64
deriving DecidableEq, Repr

inductive StoreKind
  | memory | sqlite
deriving DecidableEq, Repr

structure StoreSettings where
  kind : StoreKind
  path : Option String
  busyTimeoutMillis : UInt64
  journal : JournalMode
  sync : SyncMode
deriving DecidableEq, Repr

structure LoggingSettings where
  filter : String
  ansi : Bool
deriving DecidableEq, Repr

structure Settings where
  registry : RegistrySettings
  sync : SyncSettings
  store : StoreSettings
  logging : LoggingSettings
deriving DecidableEq, Repr

def SyncSettings.standard : SyncSettings := ⟨15, 10000, 3, 500, 300⟩

def StoreSettings.standard : StoreSettings :=
  ⟨.memory, none, DurableSettings.defaultBusyTimeoutMillis, .wal, .full⟩

def LoggingSettings.standard : LoggingSettings := ⟨"info", true⟩

/-- The limits for every path in settings and for the path of their file. -/
def Settings.pathLimits : Path.Limits := ⟨4096, 255⟩

/-- Passes over a rule that is kept. -/
def demand (kept : Bool) (fault : SettingsFault) : Except SettingsFault Unit :=
  if kept then .ok () else .error fault

namespace RegistrySettings

def greatestResponseLimit : UInt64 := 268435456

def longestUserAgent : Nat := 256

def validate (s : RegistrySettings) : Except SettingsFault Unit := do
  let url := trimBlank s.url
  demand (url ≠ "") .urlMissing
  demand (startsWith "http://" url || startsWith "https://" url) .urlWithoutScheme
  demand (s.username.isSome == s.password.isSome) .credentialsHalfSet
  demand (trimBlank s.userAgent ≠ "" && s.userAgent.utf8ByteSize ≤ longestUserAgent)
    .userAgentOutOfRange
  demand (s.maxResponseBytes ≠ 0 && s.maxResponseBytes ≤ greatestResponseLimit)
    .maxResponseBytesOutOfRange

def client (s : RegistrySettings) : ClientSettings :=
  ⟨trimBlank s.url, s.username, s.password, s.userAgent, s.maxResponseBytes⟩

/-- The settings for people to look at, without the password. -/
def display (s : RegistrySettings) : String :=
  Display.record "RegistrySection"
    [("url", Display.text s.url), ("username", Display.optional s.username),
      ("password", Display.secret s.password), ("user_agent", Display.text s.userAgent),
      ("max_response_bytes", toString s.maxResponseBytes.toNat)]

end RegistrySettings

namespace SyncSettings

def validate (s : SyncSettings) : Except SettingsFault Unit := do
  demand (1 ≤ s.maxConcurrent && s.maxConcurrent ≤ 256) .maxConcurrentOutOfRange
  demand (100 ≤ s.requestTimeoutMillis && s.requestTimeoutMillis ≤ 120000) .requestTimeoutOutOfRange
  demand (1 ≤ s.maxRetries && s.maxRetries ≤ 10) .maxRetriesOutOfRange
  demand (1 ≤ s.retryBaseDelayMillis && s.retryBaseDelayMillis ≤ 60000) .retryBaseDelayOutOfRange
  demand (s.intervalSeconds ≠ 0) .intervalZero

def policy (s : SyncSettings) : RunPolicy :=
  ⟨s.maxConcurrent.toNat, ⟨.ofMillis s.requestTimeoutMillis.toNat, s.maxRetries,
    .ofMillis s.retryBaseDelayMillis.toNat⟩⟩

/-- The time from one pass to the next. -/
def interval (s : SyncSettings) : Span := .ofSeconds s.intervalSeconds.toNat

end SyncSettings

namespace StoreSettings

/-- The rules for the path of a database. -/
def checkPath (path : String) : Except SettingsFault Unit := do
  demand (path ≠ "") .storePathEmpty
  match Path.fault? Settings.pathLimits path with
  | some .tooLong => throw .storePathTooLong
  | some .componentTooLong => throw .storePathComponentTooLong
  | none => pure ()

def validate (s : StoreSettings) : Except SettingsFault Unit :=
  match s.kind, s.path with
  | .memory, none => .ok ()
  | .memory, some _ => .error .memoryWithPath
  | .sqlite, none => .error .durableWithoutPath
  | .sqlite, some path => checkPath path

/-- How the database is opened, unless the catalog stays in memory. -/
def durable? (s : StoreSettings) : Option DurableSettings :=
  match s.kind with
  | .memory => none
  | .sqlite => s.path.map fun path => ⟨path, s.busyTimeoutMillis, s.journal, s.sync⟩

end StoreSettings

def LoggingSettings.validate (s : LoggingSettings) : Except SettingsFault Unit :=
  demand (trimBlank s.filter ≠ "") .filterEmpty

/-- The first fault in the order of the sections counts. -/
def Settings.validate (s : Settings) : Except SettingsFault Unit := do
  s.registry.validate
  s.sync.validate
  s.store.validate
  s.logging.validate

end SchemaLedger
