import SchemaLedger.Sync.CatchUp
import SchemaLedger.Sync.Reconcile

namespace SchemaLedger

/-- The result of a pass, in counts of any size. -/
structure Summary where
  tally : Tally
  removal : Removal

namespace Summary

/-- The record of a result. The length of the pass is left to those with a clock of their own. -/
def report (summary : Summary) : RunReport :=
  let held (n : Nat) : UInt64 := .ofNat (min n 18446744073709551615)
  { RunReport.zero with
    subjectsRemoved := held summary.removal.subjects.size
    versionsRemoved := held summary.removal.rows.versions
    artifactsRemoved := held summary.removal.rows.artifacts
    remarksRemoved := held summary.removal.rows.remarks
    removedSubjects := summary.removal.subjects }.withTally summary.tally

def finished (summary : Summary) : Event :=
  let r := summary.report
  .runFinished r.subjectsSeen r.subjectsNew r.subjectsRemoved r.versionsNew r.errors

end Summary

namespace Program

/-- What comes before the work on subjects: the listed subjects and what was removed, or nothing
when the registry did not list its subjects. A failed removal is counted and ends nothing. -/
def opening (policy : RetryPolicy) : Program (Option Names × Summary) := do
  match ← listing policy with
  | .found subjects =>
    let listed := Names.ofList subjects
    let seen := Tally.subjects listed.size
    match ← reconcile listed with
    | .ok removal => pure (some listed, ⟨seen, removal⟩)
    | .error error =>
      report (.reconcileFailed error)
      pure (some listed, ⟨seen + .error, .none⟩)
  | _ =>
    report .runAborted
    pure (none, ⟨.error, .none⟩)

end Program

/-- Work that has been begun, and the moment at which it ends. -/
structure Shift where
  subject : String
  worked : Worked
  ends : Nat

/-- Shifts by the moment of their end, the ones begun first before others that end with them. -/
def Shift.place (shift : Shift) : List Shift → List Shift
  | [] => [shift]
  | other :: rest =>
    if shift.ends < other.ends then shift :: other :: rest else other :: shift.place rest

/-- A crew at work: the shifts under way and those that have ended and are not counted yet, each in
the order of their ends, and the counts so far. -/
structure Crew where
  busy : List Shift
  ended : List Shift
  tally : Tally

namespace Crew

variable {σ : Type}

def idle (tally : Tally) : Crew := ⟨[], [], tally⟩

/-- Counts the work of shifts that have ended and tells the log about each. -/
def fold (host : Host σ) (shifts : List Shift) (tally : Tally) (now : Nat) (state : σ) :
    Tally × Nat × σ :=
  shifts.foldl
    (fun (tally, now, state) shift =>
      let tally := tally + (shift.worked.tally + shift.worked.outcome.tally)
      let (_, now, state) :=
        (Program.report (shift.worked.outcome.event shift.subject)).run host (max now shift.ends)
          state
      (tally, now, state))
    (tally, now, state)

/-- Works on the subjects in their order. A subject is begun as soon as fewer than `size` shifts are
under way. Ended shifts are counted from the moment on at which the last subject is begun. -/
def work (host : Host σ) (policy : RetryPolicy) (size : Nat) :
    List String → Crew → Nat → σ → Tally × Nat × σ
  | [], crew, now, state => fold host (crew.ended ++ crew.busy) crew.tally now state
  | subject :: rest, crew, now, state =>
    let (crew, now) := match crew.busy with
      | first :: busy =>
        if size ≤ crew.busy.length then
          ({ crew with busy := busy, ended := crew.ended ++ [first] }, max now first.ends)
        else (crew, now)
      | [] => (crew, now)
    let (crew, now, state) :=
      if rest.isEmpty then
        let (tally, now, state) := fold host crew.ended crew.tally now state
        (⟨crew.busy, [], tally⟩, now, state)
      else (crew, now, state)
    let (worked, ends, state) := (Program.catchUp policy subject).run host now state
    work host policy size rest { crew with busy := Shift.place ⟨subject, worked, ends⟩ crew.busy }
      now state

end Crew

namespace Program

/-- Works on one subject after the other. -/
def catchUpEach (policy : RetryPolicy) : List String → Tally → Program Tally
  | [], tally => pure tally
  | subject :: rest, tally => do
    let worked ← catchUp policy subject
    report (worked.outcome.event subject)
    catchUpEach policy rest (tally + (worked.tally + worked.outcome.tally))

/-- A pass without a crew, as a single program. -/
def pass (policy : RetryPolicy) : Program Summary := do
  let (listed, summary) ← opening policy
  let tally ← match listed with
    | none => pure summary.tally
    | some listed => catchUpEach policy listed.toList summary.tally
  let summary : Summary := ⟨tally, summary.removal⟩
  report summary.finished
  pure summary

end Program

/-- One pass, from a moment on. -/
def runPass {σ : Type} (host : Host σ) (policy : RunPolicy) (now : Nat) (state : σ) :
    Summary × Nat × σ :=
  let ((listed, summary), now, state) := (Program.opening policy.retry).run host now state
  let (tally, now, state) := match listed with
    | none => (summary.tally, now, state)
    | some listed =>
      Crew.work host policy.retry policy.crewSize listed.toList (.idle summary.tally) now state
  let summary : Summary := ⟨tally, summary.removal⟩
  let (_, now, state) := (Program.report summary.finished).run host now state
  (summary, now, state)

end SchemaLedger
