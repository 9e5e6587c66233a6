namespace SchemaLedger

def nanosInSecond : Nat := 1000000000

def nanosInMilli : Nat := 1000000

def Span.greatest : Nat := 18446744073709551616 * nanosInSecond - 1

structure Span where
  nanos : Nat
  within : nanos ≤ Span.greatest
deriving DecidableEq, Repr

namespace Span

def capped (nanos : Nat) : Span := ⟨min nanos greatest, Nat.min_le_right _ _⟩

def ofSeconds (seconds : Nat) : Span := capped (seconds * nanosInSecond)

def ofMillis (millis : Nat) : Span := capped (millis * nanosInMilli)

def scale (span : Span) (factor : Nat) : Span := capped (span.nanos * factor)

def seconds (span : Span) : Nat := span.nanos / nanosInSecond

def nanosBelowSecond (span : Span) : Nat := span.nanos % nanosInSecond

/-- Whole milliseconds for reports, held to 64 bits. -/
def millis (span : Span) : Nat := min (span.nanos / nanosInMilli) 18446744073709551615

end Span

/-- The time from one tick to the next. Without any there are no ticks. -/
structure Interval where
  nanos : Nat
  positive : 0 < nanos
deriving DecidableEq, Repr

namespace Interval

def ofSpan? (span : Span) : Option Interval :=
  if positive : 0 < span.nanos then some ⟨span.nanos, positive⟩ else none

def ofSeconds (seconds : Nat) (positive : 0 < seconds) : Interval :=
  ⟨seconds * nanosInSecond, Nat.mul_pos positive (by decide)⟩

def seconds (interval : Interval) : Nat := interval.nanos / nanosInSecond

end Interval

end SchemaLedger
