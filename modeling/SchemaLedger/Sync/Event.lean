import SchemaLedger.Catalog.Error
import SchemaLedger.Json.Value
import SchemaLedger.Logging.Level
import SchemaLedger.Registry.Error
import SchemaLedger.Sync.Span

namespace SchemaLedger

/-- The optional version of a look-up is absent when the latest one was asked for. -/
inductive Event
  | listingTimedOut (limit : Span)
  | listingFailed (error : RegistryError)
  | latestRetried (subject : String) (attempt : Nat) (delay : Span)
  | latestExhausted (subject : String) (attempts : Nat)
  | schemaAbsent (subject : String) (version : Option UInt32)
  | schemaFailed (subject : String) (version : Option UInt32) (error : RegistryError)
  | schemaTimedOut (subject : String) (version : Option UInt32)
  | configTimedOut (subject : String)
  | configFailed (subject : String) (error : RegistryError)
  | modeTimedOut (subject : String)
  | modeFailed (subject : String) (error : RegistryError)
  | markUnread (subject : String) (error : StoreError)
  | upToDate (subject : String) (latest : UInt32)
  | fetching (subject : String) (first latest : UInt32)
  | versionAbsent (subject : String) (version : UInt32)
  | versionUnavailable (subject : String) (version : UInt32)
  | bodyMissing (subject : String) (version : UInt32)
  | versionUnwritten (subject : String) (version : UInt32) (error : StoreError)
  | entryMissing (subject : String)
  | entryUnwritten (subject : String) (error : StoreError)
  | removing (subjects versions artifacts remarks : Nat)
  | removed (subjects versions artifacts remarks : Nat)
  | runAborted
  | reconcileFailed (error : StoreError)
  | subjectSynced (subject : String) (versionsNew : Nat) (created : Bool)
  | subjectInterrupted (subject : String) (versionsNew : Nat) (missing : UInt32)
  | subjectSkipped (subject : String) (reason : String)
  | subjectFailed (subject : String) (reason : String)
  | runFinished (subjectsSeen subjectsNew subjectsRemoved versionsNew errors : UInt64)
  | passFailed (pass : Nat) (errors : UInt64)
  | passFinished (pass : Nat) (subjectsSeen versionsNew subjectsRemoved : UInt64)
  | schedulerStopped (passes : Nat)

namespace Event

def level : Event → Level
  | runAborted | reconcileFailed _ => .error
  | listingTimedOut _ | listingFailed _ | latestRetried .. | latestExhausted .. | schemaFailed ..
  | schemaTimedOut .. | markUnread .. | versionUnavailable .. | versionUnwritten ..
  | entryUnwritten .. | subjectInterrupted .. | subjectFailed .. | passFailed .. => .warn
  | removed .. | runFinished .. | passFinished .. | schedulerStopped _ => .info
  | _ => .debug

def message : Event → String
  | listingTimedOut _ => "subject listing timed out"
  | listingFailed _ => "subject listing failed"
  | latestRetried .. => "latest version lookup timed out; retrying"
  | latestExhausted .. => "latest version lookup exhausted retries"
  | schemaAbsent .. => "registry reports schema not found"
  | schemaFailed .. => "schema fetch failed"
  | schemaTimedOut .. => "schema fetch timed out"
  | configTimedOut _ => "config lookup timed out"
  | configFailed .. => "config lookup failed"
  | modeTimedOut _ => "mode lookup timed out"
  | modeFailed .. => "mode lookup failed"
  | markUnread .. => "failed to read local high-water mark"
  | upToDate .. => "subject already current"
  | fetching .. => "fetching missing versions"
  | versionAbsent .. => "version absent from registry; skipping"
  | versionUnavailable .. => "version unavailable; stopping catch-up at gap"
  | bodyMissing .. => "registry returned no schema body"
  | versionUnwritten .. => "failed to persist schema version"
  | entryMissing _ => "no catalog entry for subject metadata"
  | entryUnwritten .. => "failed to update subject metadata"
  | removing .. => "removing stale subjects"
  | removed .. => "removed stale subjects"
  | runAborted => "registry subject list unavailable; aborting sync run"
  | reconcileFailed _ => "stale subject reconciliation failed"
  | subjectSynced .. => "subject synced"
  | subjectInterrupted .. => "subject catch-up stopped at gap"
  | subjectSkipped .. => "subject skipped"
  | subjectFailed .. => "subject sync failed"
  | runFinished .. => "catalog sync run finished"
  | passFailed .. => "sync run finished with errors"
  | passFinished .. => "scheduled sync run complete"
  | schedulerStopped _ => "scheduler stopped"

/-- The name under which filters know where an event comes from: passes, or their schedule. -/
def target : Event → String
  | passFailed .. | passFinished .. | schedulerStopped _ => "schema_catalog_cli"
  | _ => "schema_catalog_core"

/-- A version is shown when there is one. -/
def versionField : Option UInt32 → List (String × Json)
  | none => []
  | some version => [("version", .nat version.toNat)]

def fields : Event → List (String × Json)
  | listingTimedOut limit => [("timeout_ms", .nat limit.millis)]
  | listingFailed error => [("error", .string error.message)]
  | latestRetried subject attempt delay =>
    [("subject", .string subject), ("attempt", .nat attempt), ("delay_ms", .nat delay.millis)]
  | latestExhausted subject attempts => [("subject", .string subject), ("attempts", .nat attempts)]
  | schemaAbsent subject version => ("subject", .string subject) :: versionField version
  | schemaFailed subject version error =>
    ("subject", .string subject) :: versionField version ++ [("error", .string error.message)]
  | schemaTimedOut subject version => ("subject", .string subject) :: versionField version
  | configTimedOut subject => [("subject", .string subject)]
  | configFailed subject error =>
    [("subject", .string subject), ("error", .string error.message)]
  | modeTimedOut subject => [("subject", .string subject)]
  | modeFailed subject error => [("subject", .string subject), ("error", .string error.message)]
  | markUnread subject error => [("subject", .string subject), ("error", .string error.message)]
  | upToDate subject latest => [("subject", .string subject), ("version", .nat latest.toNat)]
  | fetching subject first latest =>
    [("subject", .string subject), ("from", .nat first.toNat), ("to", .nat latest.toNat)]
  | versionAbsent subject version => ("subject", .string subject) :: versionField (some version)
  | versionUnavailable subject version =>
    ("subject", .string subject) :: versionField (some version)
  | bodyMissing subject version => ("subject", .string subject) :: versionField (some version)
  | versionUnwritten subject version error =>
    ("subject", .string subject) :: versionField (some version) ++
      [("error", .string error.message)]
  | entryMissing subject => [("subject", .string subject)]
  | entryUnwritten subject error =>
    [("subject", .string subject), ("error", .string error.message)]
  | removing subjects versions artifacts remarks =>
    [("subjects", .nat subjects), ("versions", .nat versions), ("artifacts", .nat artifacts),
      ("metadata", .nat remarks)]
  | removed subjects versions artifacts remarks =>
    [("subjects", .nat subjects), ("versions", .nat versions), ("artifacts", .nat artifacts),
      ("metadata", .nat remarks)]
  | runAborted => []
  | reconcileFailed error => [("error", .string error.message)]
  | subjectSynced subject versionsNew created =>
    [("subject", .string subject), ("versions_new", .nat versionsNew), ("created", .bool created)]
  | subjectInterrupted subject versionsNew missing =>
    [("subject", .string subject), ("versions_new", .nat versionsNew),
      ("missing_version", .nat missing.toNat)]
  | subjectSkipped subject reason => [("subject", .string subject), ("reason", .string reason)]
  | subjectFailed subject reason => [("subject", .string subject), ("reason", .string reason)]
  | runFinished subjectsSeen subjectsNew subjectsRemoved versionsNew errors =>
    [("subjects_seen", .nat subjectsSeen.toNat), ("subjects_new", .nat subjectsNew.toNat),
      ("subjects_removed", .nat subjectsRemoved.toNat), ("versions_new", .nat versionsNew.toNat),
      ("errors", .nat errors.toNat)]
  | passFailed pass errors => [("run", .nat pass), ("errors", .nat errors.toNat)]
  | passFinished pass subjectsSeen versionsNew subjectsRemoved =>
    [("run", .nat pass), ("subjects_seen", .nat subjectsSeen.toNat),
      ("versions_new", .nat versionsNew.toNat), ("subjects_removed", .nat subjectsRemoved.toNat)]
  | schedulerStopped passes => [("runs", .nat passes)]

end Event

end SchemaLedger
