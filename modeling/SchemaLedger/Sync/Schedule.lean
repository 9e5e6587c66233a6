import SchemaLedger.Sync.Pass

namespace SchemaLedger

/-- Ticks later than this have been missed. -/
def tickSlack : Nat := 5 * nanosInMilli

/-- The deadline that follows a tick: one interval on, counted from the deadline that was kept or
else from the moment of the late tick. -/
def nextDeadline (interval : Interval) (deadline now : Nat) : Nat :=
  (if deadline + tickSlack < now then now else deadline) + interval.nanos

/-- Ticks with their deadlines: the moment at which the tick of a deadline comes to someone who
waits for it from a moment on, and the deadline behind it. No tick comes before its deadline, one
that is due at the moment comes at once, and deadlines rise. -/
structure Ticker where
  tick : (deadline now : Nat) → Nat
  next : (deadline tick : Nat) → Nat
  due : ∀ deadline now, deadline ≤ tick deadline now
  onward : ∀ deadline now, now ≤ tick deadline now
  immediate : ∀ now, tick now now = now
  rises : ∀ deadline tick, deadline < next deadline tick

/-- Ticks that are never late of themselves. -/
def Ticker.delaying (interval : Interval) : Ticker where
  tick deadline now := max deadline now
  next := nextDeadline interval
  due _ _ := Nat.le_max_left _ _
  onward _ _ := Nat.le_max_right _ _
  immediate now := Nat.max_self now
  rises deadline tick := by
    have positive := interval.positive
    simp only [nextDeadline]
    split <;> omega

/-- What a scheduler has done when it ends. -/
structure Schedule where
  passes : Nat
  ended : Nat

/-- Passes are counted as far as 64 bits go. -/
def mostPasses : Nat := 18446744073709551615

def countPass (passes : Nat) : Nat := min (passes + 1) mostPasses

section Loop

variable {σ : Type} (host : Host σ) (policy : RunPolicy)

/-- One pass by its number, and what is told about it. -/
def runTurn (number now : Nat) (state : σ) : Nat × σ :=
  let (summary, now, state) := runPass host policy now state
  let report := summary.report
  let telling : Program Unit := do
    if 0 < report.errors then Program.report (.passFailed number report.errors)
    Program.report
      (.passFinished number report.subjectsSeen report.versionsNew report.subjectsRemoved)
  let (_, now, state) := telling.run host now state
  (now, state)

/-- What is told at the end. -/
def runStop (passes now : Nat) (state : σ) : Schedule × σ :=
  let (_, now, state) := (Program.report (.schedulerStopped passes)).run host now state
  (⟨passes, now⟩, state)

/-- Runs passes until `stop`, the moment of the signal. Deadlines rise, so a signal at any moment
ends the passes. -/
def runTicking (ticker : Ticker) (stop passes deadline now : Nat) (state : σ) : Schedule × σ :=
  let tick := ticker.tick deadline now
  if stop ≤ tick then runStop host passes (max now stop) state
  else
    let passes := countPass passes
    let (ended, state) := runTurn host policy passes tick state
    runTicking ticker stop passes (ticker.next deadline tick) ended state
termination_by stop - deadline
decreasing_by
  have due := ticker.due deadline now
  have rises := ticker.rises deadline (ticker.tick deadline now)
  omega

/-- Runs passes at intervals. -/
def runPeriodic (interval : Interval) (stop passes deadline now : Nat) (state : σ) : Schedule × σ :=
  runTicking host policy (.delaying interval) stop passes deadline now state

end Loop

end SchemaLedger
