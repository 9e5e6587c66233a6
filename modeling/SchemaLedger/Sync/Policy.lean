import SchemaLedger.Sync.Span

namespace SchemaLedger

structure RetryPolicy where
  requestTimeout : Span
  attempts : UInt32
  baseDelay : Span
deriving DecidableEq, Repr

namespace RetryPolicy

def standard : RetryPolicy := ⟨.ofSeconds 10, 3, .ofMillis 500⟩

/-- The list of all subjects may take twice as long as other calls. -/
def listTimeout (policy : RetryPolicy) : Span := policy.requestTimeout.scale 2

/-- The factor doubles with each failed attempt, counted from zero, and stops at 32 bits. -/
def backoffFactor (attempt : UInt32) : Nat :=
  if attempt < 32 then Nat.pow 2 attempt.toNat else 4294967295

def backoffDelay (policy : RetryPolicy) (attempt : UInt32) : Span :=
  policy.baseDelay.scale (backoffFactor attempt)

end RetryPolicy

/-- How a run is carried out: how many subjects at once, and under which policy. Settings that keep
the rules ask for 256 at most, far fewer than the permits that a semaphore can hold. -/
structure RunPolicy where
  maxConcurrent : Nat
  retry : RetryPolicy
deriving DecidableEq, Repr

def RunPolicy.standard : RunPolicy := ⟨15, .standard⟩

/-- At least one subject is worked on. -/
def RunPolicy.crewSize (policy : RunPolicy) : Nat := max policy.maxConcurrent 1

end SchemaLedger
