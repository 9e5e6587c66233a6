import SchemaLedger.Sync.Lookup
import SchemaLedger.Sync.Tally

namespace SchemaLedger

inductive SkipReason
  | upToDate | notInRegistry
deriving DecidableEq, Repr

def SkipReason.label : SkipReason → String
  | upToDate => "up_to_date"
  | notInRegistry => "not_in_registry"

inductive FailReason
  | markUnread (error : StoreError)
  | latestUnavailable
deriving DecidableEq, Repr

def FailReason.message : FailReason → String
  | markUnread error => error.message
  | latestUnavailable => "registry latest version unavailable"

/-- How the work on a subject ended. A subject is created when it had no mark and has new
versions. -/
inductive Outcome
  | synced (versionsNew : Nat) (created : Bool)
  | interrupted (versionsNew : Nat) (created : Bool) (missing : UInt32)
  | skipped (reason : SkipReason)
  | failed (reason : FailReason)
deriving DecidableEq, Repr

namespace Outcome

/-- What an outcome adds to the counts of a run. -/
def tally : Outcome → Tally
  | synced _ created => if created then .subjectNew else .zero
  | interrupted _ created _ => (if created then .subjectNew else .zero) + .error
  | skipped _ => .zero
  | failed _ => .error

def event (subject : String) : Outcome → Event
  | synced versionsNew created => .subjectSynced subject versionsNew created
  | interrupted versionsNew _ missing => .subjectInterrupted subject versionsNew missing
  | skipped reason => .subjectSkipped subject reason.label
  | failed reason => .subjectFailed subject reason.message

end Outcome

/-- The outcome for a subject, and what was counted on the way to it. -/
structure Worked where
  outcome : Outcome
  tally : Tally
deriving DecidableEq, Repr

namespace Program

/-- Keeps a version that has been fetched. A failed write is counted and passed over. -/
def keep (subject : String) (version : UInt32) (registered : Registered) : Program Tally := do
  match Snapshot.ofRegistered? subject version registered with
  | none =>
    report (.bodyMissing subject version)
    pure .versionSeen
  | some snapshot =>
    match ← store (.put snapshot) with
    | .ok .inserted => pure (.versionSeen + .versionNew)
    | .ok .alreadyPresent => pure .versionSeen
    | .error error =>
      report (.versionUnwritten subject version error)
      pure (.versionSeen + .error)

/-- Fetches and keeps `count` versions from `version` on. Returns the first version that could not
be had; one that the registry says it lacks is passed over. -/
def fetchFrom (policy : RetryPolicy) (subject : String) :
    (count : Nat) → (version : UInt32) → Tally → Program (Tally × Option UInt32)
  | 0, _, tally => pure (tally, none)
  | count + 1, number, tally => do
    match ← version policy subject number with
    | .found registered =>
      let kept ← keep subject number registered
      fetchFrom policy subject count (number + 1) (tally + kept)
    | .notFound =>
      report (.versionAbsent subject number)
      fetchFrom policy subject count (number + 1) tally
    | .unavailable =>
      report (.versionUnavailable subject number)
      pure (tally, some number)

/-- Brings the settings of a subject up to date, as far as they can be had. -/
def refresh (policy : RetryPolicy) (subject : String) : Program Tally := do
  let config ← config policy subject
  let mode ← mode policy subject
  let change : EntryUpdate :=
    ⟨config.bind (·.compatibilityLevel), mode.map (·.isReadOnly), environment? subject⟩
  match ← store (.update subject change) with
  | .ok true => pure .zero
  | .ok false =>
    report (.entryMissing subject)
    pure .zero
  | .error error =>
    report (.entryUnwritten subject error)
    pure .error

/-- The first version to fetch above a mark; the greatest version has none above it. -/
def firstAbove : Option UInt32 → UInt32
  | none => 1
  | some mark => if mark.toNat + 1 < 4294967296 then mark + 1 else mark

/-- The work on a subject whose latest version lies above its mark. -/
def advance (policy : RetryPolicy) (subject : String) (mark : Option UInt32)
    (latest : Registered) : Program Worked := do
  let first := firstAbove mark
  let target := latest.version
  report (.fetching subject first target)
  let (fetched, missing) ←
    fetchFrom policy subject (target.toNat - first.toNat) first .zero
  let kept ← match missing with
    | none => keep subject target latest
    | some _ => pure .zero
  let fetched := fetched + kept
  let refreshed ← refresh policy subject
  let created := mark.isNone && 0 < fetched.versionsNew
  let outcome := match missing with
    | none => .synced fetched.versionsNew created
    | some version => .interrupted fetched.versionsNew created version
  pure ⟨outcome, fetched + refreshed⟩

def catchUp (policy : RetryPolicy) (subject : String) : Program Worked := do
  match ← store (.mark subject) with
  | .error error =>
    report (.markUnread subject error)
    pure ⟨.failed (.markUnread error), .zero⟩
  | .ok mark =>
    match ← latest policy subject with
    | .notFound => pure ⟨.skipped .notInRegistry, .zero⟩
    | .unavailable => pure ⟨.failed .latestUnavailable, .zero⟩
    | .found latest =>
      if mark.any (latest.version ≤ ·) then
        report (.upToDate subject latest.version)
        pure ⟨.skipped .upToDate, .zero⟩
      else advance policy subject mark latest

end Program

end SchemaLedger
