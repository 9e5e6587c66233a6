namespace SchemaLedger

inductive SettingsError
  | io (detail : String)
  | parse (detail : String)
  | invalid (detail : String)
deriving DecidableEq, Repr

def SettingsError.message : SettingsError → String
  | io detail => "config io error: " ++ detail
  | parse detail => "config parse error: " ++ detail
  | invalid detail => "invalid config: " ++ detail

/-- A setting with a value that is not allowed. -/
inductive SettingsFault
  | urlMissing
  | urlWithoutScheme
  | credentialsHalfSet
  | userAgentOutOfRange
  | maxResponseBytesOutOfRange
  | maxConcurrentOutOfRange
  | requestTimeoutOutOfRange
  | maxRetriesOutOfRange
  | retryBaseDelayOutOfRange
  | intervalZero
  | memoryWithPath
  | durableWithoutPath
  | storePathEmpty
  | storePathTooLong
  | storePathComponentTooLong
  | filterEmpty
  | filePathTooLong
  | filePathComponentTooLong
  | fileTooLarge
  | fileNotText
deriving DecidableEq, Repr

def SettingsFault.message : SettingsFault → String
  | urlMissing => "registry.url must be set"
  | urlWithoutScheme => "registry.url must include http:// or https://"
  | credentialsHalfSet => "registry.username and registry.password must be set together"
  | userAgentOutOfRange => "registry.user_agent out of range"
  | maxResponseBytesOutOfRange => "registry.max_response_bytes out of range"
  | maxConcurrentOutOfRange => "sync.max_concurrent out of range"
  | requestTimeoutOutOfRange => "sync.request_timeout_ms out of range"
  | maxRetriesOutOfRange => "sync.max_retries out of range"
  | retryBaseDelayOutOfRange => "sync.retry_base_delay_ms out of range"
  | intervalZero => "sync.interval_secs must be greater than zero"
  | memoryWithPath => "memory store must not set path"
  | durableWithoutPath => "sqlite store requires path"
  | storePathEmpty => "store.path must be non-empty"
  | storePathTooLong => "store.path exceeds max length"
  | storePathComponentTooLong => "store.path component too long"
  | filterEmpty => "logging.filter must be non-empty"
  | filePathTooLong => "config path exceeds max length"
  | filePathComponentTooLong => "config path component too long"
  | fileTooLarge => "config file exceeds size limit"
  | fileNotText => "config file must be utf-8"

def SettingsFault.toError (fault : SettingsFault) : SettingsError := .invalid fault.message

end SchemaLedger
