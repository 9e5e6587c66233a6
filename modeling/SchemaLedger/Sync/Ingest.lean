import SchemaLedger.Sync.Program

namespace SchemaLedger

/-- An entry with the versions kept under it. -/
structure SubjectReport where
  entry : Entry
  versions : List UInt32

/-- The order of the fields is that of the written report. -/
def SubjectReport.toJson (report : SubjectReport) : Json :=
  .object [("entry", Entry.codec.encode report.entry),
    ("versions", .array (report.versions.map fun v => .nat v.toNat))]

namespace Program

/-- The report on a subject, or nothing when it has no entry. -/
def subjectReport (subject : String) : Program (Except StoreError (Option SubjectReport)) := do
  match ← store (.entry subject) with
  | .error error => pure (.error error)
  | .ok none => pure (.ok none)
  | .ok (some entry) =>
    match ← store (.versions subject) with
    | .error error => pure (.error error)
    | .ok versions => pure (.ok (some ⟨entry, versions⟩))

/-- Keeps the snapshot of a registered version, if it has a schema text. -/
def ingest (subject : String) (version : UInt32) (registered : Registered) :
    Program (Except StoreError (Option PutOutcome)) := do
  match Snapshot.ofRegistered? subject version registered with
  | none => pure (.ok none)
  | some snapshot =>
    match ← store (.put snapshot) with
    | .error error => pure (.error error)
    | .ok outcome => pure (.ok (some outcome))

/-- Keeps one version of many subjects and counts those that were new, up to the first failure. -/
def ingestAll (version : UInt32) (registered : Registered) :
    List String → Nat → Program (Except StoreError Nat)
  | [], inserted => pure (.ok inserted)
  | subject :: rest, inserted => do
    match ← ingest subject version registered with
    | .error error => pure (.error error)
    | .ok outcome =>
      ingestAll version registered rest
        (if outcome = some .inserted then inserted + 1 else inserted)

end Program

end SchemaLedger
