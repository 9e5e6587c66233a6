import SchemaLedger.Sync.Policy
import SchemaLedger.Sync.Program

namespace SchemaLedger

inductive Lookup (α : Type)
  | found (value : α)
  | notFound
  | unavailable
deriving Repr

namespace Lookup

/-- How the end of a call for a schema is taken. -/
def ofAttempt {α : Type} : Attempt α → Lookup α
  | .answered value => found value
  | .failed (.notFound _) => notFound
  | .failed _ => unavailable
  | .timedOut => unavailable

/-- What the log is told about the end of a call for a schema. -/
def event? {α : Type} (subject : String) (version : Option UInt32) : Attempt α → Option Event
  | .answered _ => none
  | .failed (.notFound _) => some (.schemaAbsent subject version)
  | .failed error => some (.schemaFailed subject version error)
  | .timedOut => some (.schemaTimedOut subject version)

end Lookup

namespace Program

/-- All subjects of the registry. -/
def listing (policy : RetryPolicy) : Program (Lookup (List String)) := do
  match ← query policy.listTimeout .subjects with
  | .answered subjects => pure (.found subjects)
  | .timedOut =>
    report (.listingTimedOut policy.listTimeout)
    pure .unavailable
  | .failed error =>
    report (.listingFailed error)
    pure .unavailable

/-- Tells the log how a call for a schema ended, unless it ended well. -/
def settle (subject : String) (version : Option UInt32) (attempt : Attempt Registered) :
    Program (Lookup Registered) := do
  match Lookup.event? subject version attempt with
  | some event => report event
  | none => pure ()
  pure (Lookup.ofAttempt attempt)

def latestOnce (policy : RetryPolicy) (subject : String) : Program (Lookup Registered) := do
  settle subject none (← query policy.requestTimeout (.latest subject))

/-- At most `left` more attempts after `made` that ran into their deadline. Every other end of a
call is final, and no pause follows the last attempt. -/
def latestFrom (policy : RetryPolicy) (subject : String) :
    (left made : Nat) → Program (Lookup Registered)
  | 0, made => do
    report (.latestExhausted subject made)
    pure .unavailable
  | left + 1, made => do
    match ← query policy.requestTimeout (.latest subject) with
    | .timedOut =>
      if left ≠ 0 then
        let delay := policy.backoffDelay (.ofNat made)
        report (.latestRetried subject (made + 1) delay)
        pause delay
      latestFrom policy subject left (made + 1)
    | attempt => settle subject none attempt

/-- The latest version, with as many attempts as the policy allows and at least one. -/
def latest (policy : RetryPolicy) (subject : String) : Program (Lookup Registered) :=
  latestFrom policy subject (max policy.attempts.toNat 1) 0

def version (policy : RetryPolicy) (subject : String) (number : UInt32) :
    Program (Lookup Registered) := do
  settle subject (some number) (← query policy.requestTimeout (.version subject number))

/-- The compatibility setting, or nothing on any failure. -/
def config (policy : RetryPolicy) (subject : String) : Program (Option SubjectConfig) := do
  match ← query policy.requestTimeout (.config subject) with
  | .answered config => pure config
  | .timedOut =>
    report (.configTimedOut subject)
    pure none
  | .failed error =>
    report (.configFailed subject error)
    pure none

/-- The mode, or nothing on any failure and where the registry knows no modes. -/
def mode (policy : RetryPolicy) (subject : String) : Program (Option SubjectMode) := do
  match ← query policy.requestTimeout (.mode subject) with
  | .answered mode => pure (some mode)
  | .timedOut =>
    report (.modeTimedOut subject)
    pure none
  | .failed error =>
    report (.modeFailed subject error)
    pure none

end Program

end SchemaLedger
