import SchemaLedger.Proofs.Durable.Refinement

namespace SchemaLedger

/-- A cell takes the value that is given, and without one it stays. -/
structure Cell.Takes {α : Type} (toCell : α → Cell) (given : Option α) (old new : Cell) : Prop where
  taken : ∀ value, given = some value → new = toCell value
  kept : given = none → new = old

namespace EntryRow

/-- An entry takes the settings that a change brings, and all other columns stay. -/
structure Changed (change : EntryUpdate) (old new : EntryRow) : Prop where
  compatibilityLevel :
    Cell.Takes .text change.compatibilityLevel old.compatibilityLevel new.compatibilityLevel
  readOnly : Cell.Takes .ofBool change.readOnly old.readOnly new.readOnly
  environment : Cell.Takes .text change.environment old.environment new.environment
  others : new = { old with
    compatibilityLevel := new.compatibilityLevel
    readOnly := new.readOnly
    environment := new.environment }

/-- The mark of an entry becomes the version or stays, and is below neither. -/
structure Raised (version : UInt32) (old new : EntryRow) : Prop where
  mark : new.mark = .ofWord version ∨ new.mark = old.mark
  reaches : new.mark.less (.ofWord version) = false
  holds : new.mark.less old.mark = false
  others : new = { old with mark := new.mark }

end EntryRow

section Tables

variable {ρ : Type}

/-- Some rows become others, and all stand where they stood. -/
def Rewritten (own : ρ → Prop) (becomes : ρ → ρ → Prop) : List ρ → List ρ → Prop :=
  List.Forall₂ fun old new => (own old → becomes old new) ∧ (¬own old → new = old)

/-- Some rows become others; where there are none of these, a new one comes behind the rest. -/
inductive Merged (own : ρ → Prop) (becomes : ρ → ρ → Prop) (fresh : ρ) (before : List ρ) :
    List ρ → Prop
  | rewritten {after : List ρ} (row : ρ) (isRow : row ∈ before) (isOwn : own row)
    (rewritten : Rewritten own becomes before after) : Merged own becomes fresh before after
  | appended (none : ∀ row ∈ before, ¬own row) :
    Merged own becomes fresh before (before ++ [fresh])

variable {own : ρ → Prop} {becomes : ρ → ρ → Prop} {same : ρ → Bool} {change : ρ → ρ}

/-- Every row after a rewriting was one before it. -/
theorem Rewritten.exists_old {before after : List ρ} (rewritten : Rewritten own becomes before after)
    {new : ρ} (isRow : new ∈ after) :
    ∃ old ∈ before, (own old → becomes old new) ∧ (¬own old → new = old) := by
  induction rewritten with
  | nil => cases isRow
  | @cons old _ rest _ step _ ih =>
    obtain rfl | later := List.mem_cons.1 isRow
    · exact ⟨old, List.mem_cons_self, step⟩
    · obtain ⟨earlier, isEarlier, step⟩ := ih later
      exact ⟨earlier, List.mem_cons_of_mem _ isEarlier, step⟩

theorem Rewritten.exists_new {before after : List ρ} (rewritten : Rewritten own becomes before after)
    {old : ρ} (isRow : old ∈ before) (isOwn : own old) : ∃ new ∈ after, becomes old new := by
  induction rewritten with
  | nil => cases isRow
  | @cons _ new _ _ step _ ih =>
    obtain rfl | later := List.mem_cons.1 isRow
    · exact ⟨new, List.mem_cons_self, step.1 isOwn⟩
    · obtain ⟨row, isLater, becomes⟩ := ih later
      exact ⟨row, List.mem_cons_of_mem _ isLater, becomes⟩

variable {fresh : ρ} {before after : List ρ}

theorem Merged.of_mem (merged : Merged own becomes fresh before after) {new : ρ}
    (isRow : new ∈ after) : (new ∈ before ∧ ¬own new) ∨ new = fresh ∨
      ∃ old ∈ before, own old ∧ becomes old new := by
  cases merged with
  | rewritten _ _ _ rewritten =>
    obtain ⟨old, isOld, changed, kept⟩ := rewritten.exists_old isRow
    by_cases isOwn : own old
    · exact .inr (.inr ⟨old, isOld, isOwn, changed isOwn⟩)
    · obtain rfl := kept isOwn
      exact .inl ⟨isOld, isOwn⟩
  | appended none =>
    obtain isOld | isNew := List.mem_append.1 isRow
    · exact .inl ⟨isOld, none new isOld⟩
    · exact .inr (.inl (List.mem_singleton.1 isNew))

theorem Merged.exists_mem (merged : Merged own becomes fresh before after) :
    ∃ new ∈ after, new = fresh ∨ ∃ old, own old ∧ becomes old new := by
  cases merged with
  | rewritten row isRow isOwn rewritten =>
    obtain ⟨new, isNew, becomes⟩ := rewritten.exists_new isRow isOwn
    exact ⟨new, isNew, .inr ⟨row, isOwn, becomes⟩⟩
  | appended _ => exact ⟨fresh, List.mem_append_right _ List.mem_cons_self, .inl rfl⟩

end Tables

namespace Database

/-- There is a row of the version. -/
def HasVersion (db : Database) (subject : String) (version : UInt32) : Prop :=
  ∃ row ∈ db.versions.rows, row.subject = .text subject ∧ row.version = .ofWord version

/-- A version that is there stays as it is, and another is added behind the rest. In either case the
mark of the subject rises, or there is an entry for it now. -/
structure Puts (db : Database) (snapshot : Snapshot) (outcome : PutOutcome) (after : Database) :
    Prop where
  versions : (outcome = .alreadyPresent ∧ db.HasVersion snapshot.subject snapshot.version ∧
      after.versions = db.versions) ∨
    (outcome = .inserted ∧ ¬db.HasVersion snapshot.subject snapshot.version ∧
      after.versions = .held (db.versions.rows ++ [.ofSnapshot snapshot]))
  entries : ∃ before rows, db.entries = .held before ∧ after.entries = .held rows ∧
    Merged (·.subject = .text snapshot.subject) (EntryRow.Raised snapshot.version)
      (Statement.freshEntry snapshot.subject snapshot.version) before rows
  others : after = { db with versions := after.versions, entries := after.entries }

/-- The entry of the subject takes the settings, and the answer says whether there is one. -/
structure Updates (db : Database) (subject : String) (change : EntryUpdate) (changed : Bool)
    (after : Database) : Prop where
  entries : ∃ before rows, db.entries = .held before ∧ after.entries = .held rows ∧
    Rewritten (·.subject = .text subject) (EntryRow.Changed change) before rows
  changed : changed = true ↔ ∃ row ∈ db.entries.rows, row.subject = .text subject
  others : after = { db with entries := after.entries }

/-- The artifact is added behind the others. -/
def Attaches (db : Database) (artifact : Artifact) (after : Database) : Prop :=
  ∃ before, db.artifacts = .held before ∧
    after = { db with artifacts := .held (before ++ [.ofArtifact artifact]) }

/-- The remark under the key gets the value, and where there is none it is added. -/
def Annotates (db : Database) (remark : Remark) (after : Database) : Prop :=
  ∃ before rows, db.remarks = .held before ∧ after = { db with remarks := .held rows } ∧
    Merged (fun row => row.subject = .text remark.subject ∧ row.key = .text remark.key)
      (fun old new => new = { old with value := .text remark.value.render })
      (.ofRemark remark) before rows

/-- What an answered request makes of the tables. -/
def Effect (db : Database) : (request : Request) → request.Answer → Database → Prop
  | .put snapshot, outcome, after => db.Puts snapshot outcome after
  | .update subject change, changed, after => db.Updates subject change changed after
  | .attach artifact, _, after => db.Attaches artifact after
  | .annotate remark, _, after => db.Annotates remark after
  | .remove names, counts, after => counts = db.countOf names.toList ∧ after = db.others names.toList
  | .count names, counts, after => counts = db.countOf names.toList ∧ after = db
  | .mark _, _, after | .known, _, after | .entry _, _, after | .entries, _, after
  | .snapshot _ _, _, after | .versions _, _, after => after = db

variable {broken : Nat → Bool} {db between after : Database}

end Database

end SchemaLedger
