import SchemaLedger.Record.Shape

namespace SchemaLedger

structure Tally where
  subjectsSeen : Nat
  subjectsNew : Nat
  versionsSeen : Nat
  versionsNew : Nat
  errors : Nat
deriving DecidableEq, Repr

namespace Tally

def zero : Tally := ⟨0, 0, 0, 0, 0⟩

def add (a b : Tally) : Tally :=
  ⟨a.subjectsSeen + b.subjectsSeen, a.subjectsNew + b.subjectsNew, a.versionsSeen + b.versionsSeen,
    a.versionsNew + b.versionsNew, a.errors + b.errors⟩

instance : Add Tally := ⟨add⟩

def subjects (count : Nat) : Tally := ⟨count, 0, 0, 0, 0⟩

def subjectNew : Tally := ⟨0, 1, 0, 0, 0⟩

def versionSeen : Tally := ⟨0, 0, 1, 0, 0⟩

def versionNew : Tally := ⟨0, 0, 0, 1, 0⟩

def error : Tally := ⟨0, 0, 0, 0, 1⟩

end Tally

/-- What a run reports; the length of the run in milliseconds is set by whoever holds a clock. -/
structure RunReport where
  subjectsSeen : UInt64
  subjectsNew : UInt64
  subjectsRemoved : UInt64
  versionsSeen : UInt64
  versionsNew : UInt64
  versionsRemoved : UInt64
  artifactsRemoved : UInt64
  remarksRemoved : UInt64
  errors : UInt64
  durationMillis : UInt64
  removedSubjects : Names
deriving DecidableEq

namespace RunReport

def zero : RunReport := ⟨0, 0, 0, 0, 0, 0, 0, 0, 0, 0, .empty⟩

def codec : Codec RunReport :=
  (Shape.required "subjects_seen" .uint64 <| .required "subjects_new" .uint64 <|
      .required "subjects_removed" .uint64 <| .required "versions_seen" .uint64 <|
      .required "versions_new" .uint64 <| .required "versions_removed" .uint64 <|
      .required "artifacts_removed" .uint64 <| .required "metadata_removed" .uint64 <|
      .required "errors" .uint64 <| .required "duration_ms" .uint64 <|
      .required "removed_subjects" .names .done).record
    (fun (seen, new, removed, versionsSeen, versionsNew, versionsRemoved, artifacts, remarks,
        errors, duration, names, ()) =>
      ⟨seen, new, removed, versionsSeen, versionsNew, versionsRemoved, artifacts, remarks, errors,
        duration, names⟩)
    fun r => (r.subjectsSeen, r.subjectsNew, r.subjectsRemoved, r.versionsSeen, r.versionsNew,
      r.versionsRemoved, r.artifactsRemoved, r.remarksRemoved, r.errors, r.durationMillis,
      r.removedSubjects, ())

/-- Puts the counts of a tally into a report. Reports hold counts modulo two to the 64. -/
def withTally (report : RunReport) (tally : Tally) : RunReport :=
  { report with
    subjectsSeen := .ofNat tally.subjectsSeen
    subjectsNew := .ofNat tally.subjectsNew
    versionsSeen := .ofNat tally.versionsSeen
    versionsNew := .ofNat tally.versionsNew
    errors := .ofNat tally.errors }

end RunReport

end SchemaLedger
