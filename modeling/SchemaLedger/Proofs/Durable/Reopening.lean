import SchemaLedger.Proofs.Durable.Refinement

namespace SchemaLedger

/-- A table is left as it is, or made without rows where there was none. -/
def Stored.KeptIn {ρ : Type} (before after : Stored ρ) : Prop :=
  after = before ∨ (before = .absent ∧ after = .held [])

theorem Stored.keptIn_create {ρ : Type} (table : Stored ρ) : table.KeptIn table.create := by
  cases table with
  | absent => exact .inr ⟨rfl, rfl⟩
  | held | foreign => exact .inl rfl

namespace Database

variable {broken : Nat → Bool} {db after : Database} {steps : List LayoutStep} {position : Nat}

/-- No layout is recorded: the table of the record is missing or has no rows. -/
def Unrecorded (db : Database) : Prop := db.recorded.create = .held []

/-- The database with the table of the record made if it is missing. -/
def withRecord (db : Database) : Database := { db with recorded := db.recorded.create }

/-- The database with its layout recorded and its missing tables made. -/
def filled (db : Database) : Database where
  recorded := .held [.integer layoutVersion]
  versions := db.versions.create
  artifacts := db.artifacts.create
  remarks := db.remarks.create
  entries := db.entries.create

/-- Steps that end well have failed nowhere, nor has the commit behind them. -/
theorem foldlM_of_layOutAll (done : layOutAll broken steps position db = .ok after) :
    steps.foldlM layOut db = .ok after ∧
      ∀ later ≤ steps.length, broken (position + later) = false := by
  induction steps generalizing position db with
  | nil =>
    rw [layOutAll] at done
    split at done
    · cases done
    · rename_i commits
      refine ⟨done, fun later bound => ?_⟩
      cases Nat.le_zero.1 bound
      exact Bool.eq_false_iff.2 commits
  | cons step rest ih =>
    rw [layOutAll] at done
    split at done
    · cases done
    · rename_i runs
      obtain ⟨between, executed, done⟩ := ok_of_bind done
      obtain ⟨ran, whole⟩ := ih done
      refine ⟨?_, fun later bound => ?_⟩
      · rw [List.foldlM_cons, executed]
        exact ran
      · cases later with
        | zero => exact Bool.eq_false_iff.2 runs
        | succ later =>
          rw [← Nat.add_assoc, Nat.add_right_comm]
          exact whole later (Nat.le_of_succ_le_succ bound)

/-- Steps that all end well record the layout and make the tables that are missing. -/
theorem filled_of_foldlM (empty : db.recorded = .held [])
    (ran : LayoutStep.all.foldlM layOut db = .ok after) : after = db.filled := by
  obtain ⟨recorded, versions, artifacts, remarks, entries⟩ := db
  cases empty
  have noRows : (Stored.held []).read "store_meta" = (pure [] : Except DurableError (List Cell)) :=
    rfl
  -- The two indices are the only steps that can fail.
  cases hash : versions.create.hasColumn "canonical_hash" <;>
    cases subject : artifacts.create.hasColumn "subject" <;>
      simp [LayoutStep.all, layOut, hasColumn, noRows, hash, subject] at ran <;> cases ran
  rfl

theorem recorded_of_none (read : db.recordedVersion? = .ok none) : db.recorded = .held [] := by
  obtain ⟨rows, held, read⟩ := ok_of_bind read
  rw [Stored.eq_held_of_read held]
  cases rows with
  | nil => rfl
  | cons cell rest => cases cell <;> cases read

theorem recorded_of_some {version : Int} (read : db.recordedVersion? = .ok (some version)) :
    ∃ rest, db.recorded = .held (.integer version :: rest) := by
  obtain ⟨rows, held, read⟩ := ok_of_bind read
  rw [Stored.eq_held_of_read held]
  cases rows with
  | nil => cases read
  | cons cell rest =>
    cases cell with
    | integer =>
      cases read
      exact ⟨rest, rfl⟩
    | null | real | text => cases read

/-- A table with rows is not made again. -/
theorem create_eq_of_cons {table : Stored Cell} {cell : Cell} {rest : List Cell}
    (made : table.create = .held (cell :: rest)) : table.create = table := by
  cases table with
  | absent => cases made
  | held | foreign => rfl

/-- The record is looked for in a table that is made if it is missing, which adds no record. -/
theorem recordedVersion?_create {recorded : Option Int}
    (read : db.withRecord.recordedVersion? = .ok recorded) :
    (recorded = none ∧ db.Unrecorded) ∨
      (∃ version, recorded = some version ∧ db.recordedVersion? = .ok (some version) ∧
        db.withRecord = db) := by
  cases recorded with
  | none => exact .inl ⟨rfl, recorded_of_none read⟩
  | some version =>
    -- A table that has just been made has no rows, so this one was there.
    obtain ⟨rest, made⟩ := recorded_of_some read
    have same : db.withRecord = db := by
      rw [withRecord, @create_eq_of_cons db.recorded _ _ made]
    rw [same] at read
    exact .inr ⟨version, rfl, read, same⟩

/-- Two statements come before the steps, and the commit behind them. -/
theorem unbroken_of_steps {count : Nat} (first : broken 0 = false) (second : broken 1 = false)
    (whole : ∀ later ≤ count, broken (2 + later) = false) :
    ∀ position < count + 3, broken position = false := by
  intro position bound
  match position with
  | 0 => exact first
  | 1 => exact second
  | later + 2 =>
    rw [Nat.add_comm]
    exact whole later (by omega)

/-- A preparation that ends well has failed nowhere. The database has its layout recorded before, or
it is given one with the tables that it lacks. -/
theorem cases_of_prepareStepwise (prepared : db.prepareStepwise broken = .ok after) :
    (∀ position < 3, broken position = false) ∧
      ((db.recordedVersion? = .ok (some layoutVersion) ∧ after = db) ∨
        (db.Unrecorded ∧ after = db.filled ∧ ∀ position < 10, broken position = false)) := by
  rw [prepareStepwise] at prepared
  split at prepared
  · cases prepared
  rename_i runs
  obtain ⟨first, second⟩ := Bool.or_eq_false_iff.1 (Bool.eq_false_iff.2 runs)
  obtain ⟨recorded, read, prepared⟩ := ok_of_bind prepared
  obtain ⟨rfl, unrecorded⟩ | ⟨version, rfl, known, same⟩ := recordedVersion?_create read
  · obtain ⟨ran, whole⟩ := foldlM_of_layOutAll prepared
    have nowhere : ∀ position < 10, broken position = false :=
      unbroken_of_steps first second whole
    have filled : after = db.filled := @filled_of_foldlM db.withRecord after unrecorded ran
    exact ⟨fun position bound => nowhere position (by omega), .inr ⟨unrecorded, filled, nowhere⟩⟩
  · dsimp only at prepared
    split at prepared
    · rename_i supported
      obtain ⟨ran, whole⟩ := foldlM_of_layOutAll prepared
      cases ran
      exact ⟨unbroken_of_steps first second whole, .inl ⟨supported ▸ known, same⟩⟩
    · cases prepared

theorem not_unrecorded {version : Int} (recorded : db.recordedVersion? = .ok (some version)) :
    ¬db.Unrecorded := by
  obtain ⟨rest, held⟩ := recorded_of_some recorded
  rw [Unrecorded, held]
  exact nofun

/-- What a database has become that was opened: nothing in it is lost, its layout is recorded, and
to open it again changes nothing. -/
structure OpensTo (db after : Database) : Prop where
  recorded : after.recordedVersion? = .ok (some layoutVersion)
  versions : db.versions.KeptIn after.versions
  artifacts : db.artifacts.KeptIn after.artifacts
  remarks : db.remarks.KeptIn after.remarks
  entries : db.entries.KeptIn after.entries
  first : db.Unrecorded ∨ after = db
  stays : ∀ broken settings place, (openStepwise broken settings place after).2 = after
  again : ∀ settings place, settings.fault? place = none →
    openDatabase settings place after = (.ok (), after)

theorem prepare_of_recorded (recorded : db.recordedVersion? = .ok (some layoutVersion)) :
    db.prepare = .ok db := by
  obtain ⟨_, versions, artifacts, remarks, entries⟩ := db
  obtain ⟨rest, held⟩ := recorded_of_some recorded
  cases held
  rfl

end Database

open Database

variable {broken : Nat → Bool} {settings : DurableSettings} {place : Place} {db after : Database}

/-- An opening that fails changes nothing. -/
theorem eq_of_openStepwise_error {error : OpenFault}
    (failed : openStepwise broken settings place db = (.error error, after)) : after = db := by
  rw [openStepwise] at failed
  split at failed
  · exact (Prod.mk.inj failed).2.symm
  · split at failed
    · exact (Prod.mk.inj failed).2.symm
    · cases (Prod.mk.inj failed).1

theorem prepareStepwise_of_openStepwise
    (opened : openStepwise broken settings place db = (.ok (), after)) :
    db.prepareStepwise broken = .ok after := by
  rw [openStepwise] at opened
  split at opened
  · cases (Prod.mk.inj opened).1
  · split at opened
    · cases (Prod.mk.inj opened).1
    · rename_i prepared
      rw [prepared, (Prod.mk.inj opened).2]

/-- Once a layout is recorded, no opening changes anything. -/
theorem stays_of_recorded (recorded : db.recordedVersion? = .ok (some layoutVersion))
    (broken : Nat → Bool) (settings : DurableSettings) (place : Place) :
    (openStepwise broken settings place db).2 = db := by
  cases opened : openStepwise broken settings place db with
  | mk result after =>
    cases result with
    | error error => exact eq_of_openStepwise_error opened
    | ok =>
      obtain ⟨-, ⟨-, same⟩ | ⟨unrecorded, -⟩⟩ :=
        cases_of_prepareStepwise (prepareStepwise_of_openStepwise opened)
      · exact same
      · exact absurd unrecorded (not_unrecorded recorded)

theorem opens_of_recorded (recorded : db.recordedVersion? = .ok (some layoutVersion))
    (usable : settings.fault? place = none) :
    openDatabase settings place db = (.ok (), db) := by
  rw [openDatabase, openStepwise, usable, ← prepare, prepare_of_recorded recorded]

theorem opensTo_of_openStepwise (opened : openStepwise broken settings place db = (.ok (), after)) :
    db.OpensTo after := by
  have cases := (cases_of_prepareStepwise (prepareStepwise_of_openStepwise opened)).2
  have recorded : after.recordedVersion? = .ok (some layoutVersion) := by
    obtain ⟨recorded, rfl⟩ | ⟨-, rfl, -⟩ := cases
    · exact recorded
    · rfl
  have stays := stays_of_recorded recorded
  have again (settings : DurableSettings) (place : Place)
      (usable : settings.fault? place = none) := opens_of_recorded recorded usable
  obtain ⟨-, rfl⟩ | ⟨unrecorded, rfl, -⟩ := cases
  · exact ⟨recorded, .inl rfl, .inl rfl, .inl rfl, .inl rfl, .inr rfl, stays, again⟩
  · exact ⟨recorded, Stored.keptIn_create _, Stored.keptIn_create _, Stored.keptIn_create _,
      Stored.keptIn_create _, .inl unrecorded, stays, again⟩

/-- So an opening that succeeds has failed nowhere. -/
theorem unbroken_of_openStepwise
    (opened : openStepwise broken settings place db = (.ok (), after)) :
    (∀ position < 3, broken position = false) ∧
      (db.Unrecorded → ∀ position < 10, broken position = false) := by
  obtain ⟨first, ⟨recorded, -⟩ | ⟨-, -, nowhere⟩⟩ :=
    cases_of_prepareStepwise (prepareStepwise_of_openStepwise opened)
  · exact ⟨first, fun unrecorded => absurd unrecorded (not_unrecorded recorded)⟩
  · exact ⟨first, fun _ => nowhere⟩

/-- Another layout is refused. -/
theorem openDatabase_of_unsupported {version : Int}
    (recorded : db.recordedVersion? = .ok (some version)) (other : version ≠ layoutVersion)
    (usable : settings.fault? place = none) :
    openDatabase settings place db = (.error (.refused (.unsupportedVersion version)), db) := by
  obtain ⟨_, versions, artifacts, remarks, entries⟩ := db
  obtain ⟨rest, held⟩ := recorded_of_some recorded
  cases held
  have refused : prepare ⟨.held (.integer version :: rest), versions, artifacts, remarks, entries⟩ =
      .error (.unsupportedVersion version) := if_neg other
  rw [openDatabase, openStepwise, usable, ← prepare, refused]

/-- What is done to a database: requests and openings, and each of them may fail. -/
inductive Deed
  | request (broken : Nat → Bool) (request : Request)
  | opening (broken : Nat → Bool) (settings : DurableSettings) (place : Place)

def Deed.isRequest : Deed → Bool
  | request _ _ => true
  | opening _ _ _ => false

namespace Database

/-- The answers to the requests, and the database that is left behind. -/
def carryOut (db : Database) :
    List Deed → List ((request : Request) × Except DurableError request.Answer) × Database
  | [] => ([], db)
  | .request broken request :: rest =>
    let later := (db.perform broken request).2.carryOut rest
    (⟨request, (db.perform broken request).1⟩ :: later.1, later.2)
  | .opening broken settings place :: rest =>
    (openStepwise broken settings place db).2.carryOut rest

theorem recordedVersion?_perform (broken : Nat → Bool) (db : Database) (request : Request) :
    (db.perform broken request).2.recordedVersion? = db.recordedVersion? := by
  rw [recordedVersion?, recordedVersion?, recorded_perform]

/-- No deed takes the record away, and with it openings go unnoticed. -/
theorem carryOut_of_recorded (recorded : db.recordedVersion? = .ok (some layoutVersion))
    (deeds : List Deed) : db.carryOut deeds = db.carryOut (deeds.filter Deed.isRequest) ∧
      (db.carryOut deeds).2.recordedVersion? = .ok (some layoutVersion) := by
  induction deeds generalizing db with
  | nil => exact ⟨rfl, recorded⟩
  | cons deed rest ih =>
    cases deed with
    | request broken request =>
      have kept := (recordedVersion?_perform broken db request).trans recorded
      obtain ⟨same, still⟩ := ih kept
      refine ⟨?_, still⟩
      rw [List.filter_cons_of_pos rfl, carryOut, carryOut, same]
    | opening broken settings place =>
      rw [List.filter_cons_of_neg Bool.false_ne_true, carryOut,
        stays_of_recorded recorded broken settings place]
      exact ih recorded

end Database

/-- Whatever a database holds, an opening that succeeds has failed at no statement and has left
every row where it was: the layout is recorded then, a missing table was made only if none was
recorded before, and opening again changes nothing. Another layout is refused, and an opening that
fails changes nothing, nor does one that ends the program. So whatever openings stand between
requests, the answers are as without them. -/
theorem openings_lose_nothing :
    (∀ settings place db,
      openStepwise (fun _ => false) settings place db = openDatabase settings place db) ∧
    (∀ broken settings place db after, openStepwise broken settings place db = (.ok (), after) →
      db.OpensTo after ∧ (∀ position < 3, broken position = false) ∧
        (db.Unrecorded → ∀ position < 10, broken position = false)) ∧
    (∀ settings place db version, settings.fault? place = none →
      db.recordedVersion? = .ok (some version) → version ≠ layoutVersion →
        openDatabase settings place db = (.error (.refused (.unsupportedVersion version)), db)) ∧
    (∀ broken settings place db fault, settings.fault? place = some fault →
      openStepwise broken settings place db = (.error fault, db)) ∧
    (∀ broken settings place db error after,
      openStepwise broken settings place db = (.error error, after) → after = db) ∧
    ∀ broken settings place before db, openStepwise broken settings place before = (.ok (), db) →
      ∀ deeds, db.carryOut deeds = db.carryOut (deeds.filter Deed.isRequest) ∧
        ∀ settings place, settings.fault? place = none →
          openDatabase settings place (db.carryOut deeds).2 = (.ok (), (db.carryOut deeds).2) := by
  refine ⟨fun _ _ _ => rfl, fun _ _ _ _ _ opened =>
      ⟨opensTo_of_openStepwise opened, unbroken_of_openStepwise opened⟩,
    fun _ _ _ _ usable recorded other => openDatabase_of_unsupported recorded other usable,
    fun _ _ _ _ _ faulty => by rw [openStepwise, faulty],
    fun _ _ _ _ _ _ failed => eq_of_openStepwise_error failed, ?_⟩
  intro _ _ _ _ db opened deeds
  obtain ⟨same, recorded⟩ := db.carryOut_of_recorded (opensTo_of_openStepwise opened).recorded deeds
  exact ⟨same, fun _ _ usable => opens_of_recorded recorded usable⟩

/-- A record without rows, next to a version and without a table of remarks. -/
def halfMade : Database :=
  { Database.fresh with
    recorded := .held [], versions := .held [.ofSnapshot secondOrders], remarks := .absent }

theorem openings_lose_nothing_of_halfMade :
    openStepwise (fun _ => false) (.standard "catalog.db") .available halfMade =
      (.ok (), halfMade.filled) ∧ halfMade.OpensTo halfMade.filled ∧
    openDatabase (.standard "catalog.db") .available
      { halfMade with recorded := .held [.integer 2] } =
      (.error (.refused (.unsupportedVersion 2)), { halfMade with recorded := .held [.integer 2] }) ∧
    ∀ deeds, halfMade.filled.carryOut deeds =
      halfMade.filled.carryOut (deeds.filter Deed.isRequest) := by
  have usable : (DurableSettings.standard "catalog.db").fault? .available = none := by
    decide +kernel
  have opened : openStepwise (fun _ => false) (.standard "catalog.db") .available halfMade =
      (.ok (), halfMade.filled) := by
    rw [openStepwise, usable]
    rfl
  obtain ⟨-, opens, refuses, -, -, unnoticed⟩ := openings_lose_nothing
  exact ⟨opened, (opens _ _ _ _ _ opened).1, refuses _ _ _ 2 usable rfl (by decide),
    fun deeds => (unnoticed _ _ _ _ _ opened deeds).1⟩

end SchemaLedger
