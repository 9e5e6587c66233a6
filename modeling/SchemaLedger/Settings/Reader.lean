import SchemaLedger.Settings.Settings
import SchemaLedger.Text.Utf8
import SchemaLedger.Toml.Reader

namespace SchemaLedger

/-- A section as it is given: values by the place and the name of a setting. It may be a table, an
array of the values in the order of the settings, or a moment, which counts as a table without any
known name. -/
def Toml.section? : Toml → Option (Nat → String → Option Toml)
  | .table members => some fun _ name => members.lookup name
  | .array items => some fun place _ => items[place]?
  | .moment _ => some fun _ _ => none
  | _ => none

namespace Toml

def asText? : Toml → Option String
  | .string value => some value
  | _ => none

def asTruth? : Toml → Option Bool
  | .bool value => some value
  | _ => none

def asUInt64? : Toml → Option UInt64
  | .integer value =>
    if 0 ≤ value ∧ value < 18446744073709551616 then some (.ofNat value.toNat) else none
  | _ => none

def asUInt32? : Toml → Option UInt32
  | .integer value => if 0 ≤ value ∧ value < 4294967296 then some (.ofNat value.toNat) else none
  | _ => none

/-- One of a few labels: a text, or a table with the label as its one name and nothing under it. -/
def asLabel? {α : Type} (ofLabel? : String → Option α) : Toml → Option α
  | .string label => ofLabel? label
  | .table [(label, .table [])] => ofLabel? label
  | .table [(label, .array [])] => ofLabel? label
  | _ => none

end Toml

/-- A setting that may be left out. -/
def setting? {α : Type} (view : Nat → String → Option Toml) (place : Nat) (name : String)
    (read : Toml → Option α) (otherwise : Option α) : Option α :=
  match view place name with
  | none => otherwise
  | some value => read value

def StoreKind.ofLabel? (label : String) : Option StoreKind :=
  if label = "memory" then some memory else if label = "sqlite" then some sqlite else none

namespace Settings

def registry? (given : Toml) : Option RegistrySettings := do
  let view ← given.section?
  pure {
    url := ← setting? view 0 "url" Toml.asText? none
    username := ← setting? view 1 "username" (fun v => v.asText?.map some) (some none)
    password := ← setting? view 2 "password" (fun v => v.asText?.map some) (some none)
    userAgent := ← setting? view 3 "user_agent" Toml.asText? (some defaultUserAgent)
    maxResponseBytes :=
      ← setting? view 4 "max_response_bytes" Toml.asUInt64? (some defaultMaxResponseBytes) }

def sync? (given : Toml) : Option SyncSettings := do
  let view ← given.section?
  let d := SyncSettings.standard
  pure {
    maxConcurrent := ← setting? view 0 "max_concurrent" Toml.asUInt64? (some d.maxConcurrent)
    requestTimeoutMillis :=
      ← setting? view 1 "request_timeout_ms" Toml.asUInt64? (some d.requestTimeoutMillis)
    maxRetries := ← setting? view 2 "max_retries" Toml.asUInt32? (some d.maxRetries)
    retryBaseDelayMillis :=
      ← setting? view 3 "retry_base_delay_ms" Toml.asUInt64? (some d.retryBaseDelayMillis)
    intervalSeconds := ← setting? view 4 "interval_secs" Toml.asUInt64? (some d.intervalSeconds) }

def store? (given : Toml) : Option StoreSettings := do
  let view ← given.section?
  let d := StoreSettings.standard
  pure {
    kind := ← setting? view 0 "type" (Toml.asLabel? StoreKind.ofLabel?) (some d.kind)
    path := ← setting? view 1 "path" (fun v => v.asText?.map some) (some none)
    busyTimeoutMillis :=
      ← setting? view 2 "busy_timeout_ms" Toml.asUInt64? (some d.busyTimeoutMillis)
    journal :=
      ← setting? view 3 "journal_mode" (Toml.asLabel? JournalMode.ofLabel?) (some d.journal)
    sync := ← setting? view 4 "sync_mode" (Toml.asLabel? SyncMode.ofLabel?) (some d.sync) }

def logging? (given : Toml) : Option LoggingSettings := do
  let view ← given.section?
  let d := LoggingSettings.standard
  pure {
    filter := ← setting? view 0 "filter" Toml.asText? (some d.filter)
    ansi := ← setting? view 1 "ansi" Toml.asTruth? (some d.ansi) }

/-- The settings that a text spells, whether or not they keep the rules. -/
def parse? (text : String) : Option Settings := do
  let root ← Toml.parse? text
  pure {
    registry := ← (root.lookup "registry").bind registry?
    sync := ← ((root.lookup "sync").map sync?).getD (some .standard)
    store := ← ((root.lookup "store").map store?).getD (some .standard)
    logging := ← ((root.lookup "logging").map logging?).getD (some .standard) }

/-- The settings that a text spells, when they keep the rules. -/
def ofText (text : String) : Except SettingsError Settings :=
  match parse? text with
  | none => .error (.parse "")
  | some settings => match settings.validate with
    | .error fault => .error fault.toError
    | .ok () => .ok settings

end Settings

/-- Why a file cannot be read. -/
inductive FileFault
  | absent
  | notADirectory
  | isADirectory
  | nameTooLong
  | nameWithNul
  | other (message : String)
deriving DecidableEq, Repr

def FileFault.message : FileFault → String
  | absent => "No such file or directory (os error 2)"
  | notADirectory => "Not a directory (os error 20)"
  | isADirectory => "Is a directory (os error 21)"
  | nameTooLong => "File name too long (os error 36)"
  | nameWithNul => "file name contained an unexpected NUL byte"
  | other message => message

namespace Settings

def variableName : String := "SCHEMA_CATALOG_CONFIG"

def defaultFile : String := "schema-catalog.toml"

def greatestFileSize : Nat := 1048576

/-- The path that was asked for, else the one that the environment names, else the usual one. -/
def choosePath (asked named : Option String) : String :=
  (asked <|> named).getD defaultFile

def checkPath (path : String) : Except SettingsFault Unit :=
  match Path.fault? pathLimits path with
  | some .tooLong => .error .filePathTooLong
  | some .componentTooLong => .error .filePathComponentTooLong
  | none => .ok ()

/-- The text in the bytes of a file. The size is looked at first. -/
def textOfBytes (bytes : List UInt8) : Except SettingsFault String :=
  if greatestFileSize < bytes.length then .error .fileTooLarge
  else match Utf8.decode? bytes with
    | none => .error .fileNotText
    | some text => .ok text

/-- What comes of a file that has been read, or not. -/
def ofFile (path : String) (contents : Except FileFault (List UInt8)) :
    Except SettingsError Settings :=
  match contents with
  | .error fault => .error (.io ("failed to read " ++ path ++ ": " ++ fault.message))
  | .ok bytes => match textOfBytes bytes with
    | .error fault => .error fault.toError
    | .ok text => ofText text

/-- Loads settings; `read` is how files are read. -/
def load (read : String → Except FileFault (List UInt8)) (asked named : Option String) :
    Except SettingsError Settings :=
  let path := choosePath asked named
  match checkPath path with
  | .error fault => .error fault.toError
  | .ok () => ofFile path (read path)

end Settings

end SchemaLedger
