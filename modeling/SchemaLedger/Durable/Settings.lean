import SchemaLedger.Record.Shape

namespace SchemaLedger

inductive JournalMode
  | wal | delete
deriving DecidableEq, Repr

def JournalMode.label : JournalMode → String
  | wal => "wal"
  | delete => "delete"

def JournalMode.ofLabel? (label : String) : Option JournalMode :=
  if label = "wal" then some wal else if label = "delete" then some delete else none

def JournalMode.codec : Codec JournalMode := .label label ofLabel?

inductive SyncMode
  | full | normal
deriving DecidableEq, Repr

def SyncMode.label : SyncMode → String
  | full => "full"
  | normal => "normal"

def SyncMode.ofLabel? (label : String) : Option SyncMode :=
  if label = "full" then some full else if label = "normal" then some normal else none

def SyncMode.codec : Codec SyncMode := .label label ofLabel?

structure DurableSettings where
  path : String
  busyTimeoutMillis : UInt64
  journal : JournalMode
  sync : SyncMode
deriving DecidableEq, Repr

namespace DurableSettings

def defaultBusyTimeoutMillis : UInt64 := 5000

/-- The longest wait for a lock that an engine takes: its milliseconds are a signed number of 32
bits. -/
def longestWaitMillis : Nat := 2147483647

/-- Whether an engine takes the wait. -/
def waitFits (s : DurableSettings) : Bool := s.busyTimeoutMillis.toNat ≤ longestWaitMillis

/-- The safest modes, with a log ahead of the database. -/
def standard (path : String) : DurableSettings := ⟨path, defaultBusyTimeoutMillis, .wal, .full⟩

def codec : Codec DurableSettings :=
  (Shape.required "path" .string <|
      .field "busy_timeout_ms" .uint64 (.anywhere defaultBusyTimeoutMillis) <|
      .field "journal_mode" JournalMode.codec (.anywhere .wal) <|
      .field "sync_mode" SyncMode.codec (.anywhere .full) .done).record
    (fun (path, busy, journal, sync, ()) => ⟨path, busy, journal, sync⟩)
    fun s => (s.path, s.busyTimeoutMillis, s.journal, s.sync, ())

end DurableSettings

end SchemaLedger
