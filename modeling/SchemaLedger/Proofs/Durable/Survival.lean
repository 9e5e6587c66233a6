import SchemaLedger.Proofs.Durable.InStep
import SchemaLedger.Proofs.Durable.Reopening
import SchemaLedger.Proofs.Schema.Snapshot
import SchemaLedger.Registry.Payload

namespace SchemaLedger

theorem Codec.within_of_option {room : Nat} {found : Option Json}
    (read : (∃ document, json.option.decode room document = some found) ∨
      (Absence.anywhere (none : Option Json)).object? = some found) :
    ∀ value ∈ found, value.Within room := by
  rintro value rfl
  rcases read with ⟨document, read⟩ | absent
  · exact document.within (decode_of_option read)
  · cases absent

namespace VersionPayload

variable {payload : VersionPayload} {asked body : String} {registered : Registered}

/-- One container stands around the values in a payload. -/
theorem within_of_ofText? (read : codec.ofText? body = some payload) :
    (∀ value ∈ payload.ruleSet, value.Within (Json.nestingLimit - 1)) ∧
      ∀ value ∈ payload.metadata, value.Within (Json.nestingLimit - 1) := by
  obtain ⟨values, rfl, fields⟩ := Shape.fieldsRead_of_ofText? read
  obtain ⟨-, -, -, -, -, -, metadata, ruleSet, -⟩ := fields
  exact ⟨Codec.within_of_option ruleSet, Codec.within_of_option metadata⟩

theorem exists_dialect_of_registered? (known : payload.registered? asked = some registered) :
    ∃ dialect, payload.dialect.elim (some default) Dialect.ofLabel? = some dialect ∧
      registered = ⟨payload.subject.getD asked, payload.version,
        ⟨payload.text.filter (· ≠ ""), dialect, payload.id⟩, payload.references, payload.ruleSet,
        payload.metadata⟩ := by
  rw [registered?] at known
  cases labelled : payload.dialect with
  | none =>
    rw [labelled] at known
    exact ⟨default, rfl, (Option.some.inj known).symm⟩
  | some label =>
    rw [labelled] at known
    obtain ⟨dialect, isDialect, made⟩ := Option.bind_eq_some_iff.1 known
    exact ⟨dialect, isDialect, (Option.some.inj made).symm⟩

end VersionPayload

/-- What a row has of the payload that a registry wrote, and what it has of itself. -/
structure Snapshot.Tells (row : Snapshot) (payload : VersionPayload) : Prop where
  text : payload.text = some row.body
  dialect : payload.dialect.elim (some default) Dialect.ofLabel? = some row.dialect
  registryId : row.registryId = payload.id
  references : row.references = payload.references
  ruleSet : row.ruleSet = payload.ruleSet
  metadata : row.metadata = payload.metadata
  hash : row.hash = fingerprint row.body
  fields : row.fields = if row.dialect.listsFields then FieldList.ofBody? row.body else none
  lintReport : row.lintReport = none

theorem Snapshot.Renders.storable {row : Snapshot} {registered : Registered}
    (renders : row.Renders registered)
    (ruleSet : ∀ value ∈ registered.ruleSet, value.Within (Json.nestingLimit - 1))
    (metadata : ∀ value ∈ registered.metadata, value.Within (Json.nestingLimit - 1)) :
    row.Storable where
  ruleSet value isValue := by
    rw [renders.ruleSet] at isValue
    exact ((ruleSet value isValue).mono (Nat.sub_le _ _)).toFits
  metadata value isValue := by
    rw [renders.metadata] at isValue
    exact ((metadata value isValue).mono (Nat.sub_le _ _)).toFits
  fields list isList note isNote := by
    rw [renders.fields] at isList
    split at isList
    · exact (FieldList.within_of_ofBody? isList note isNote).toFits
    · cases isList
  lintReport value isValue := by
    rw [renders.lintReport] at isValue
    cases isValue

namespace Database

variable {db after : Database} {row : Snapshot} {rows : List VersionRow}

/-- Opening a database may make tables, but it leaves those alone that are there. -/
theorem held_of_openDatabase (held : db.versions = .held rows) (settings : DurableSettings)
    (place : Place) : (openDatabase settings place db).2.versions = .held rows := by
  rw [openDatabase]
  cases opened : openStepwise (fun _ => false) settings place db with
  | mk result after =>
    cases result with
    | error error =>
      rw [eq_of_openStepwise_error opened]
      exact held
    | ok =>
      obtain same | ⟨absent, -⟩ := (opensTo_of_openStepwise opened).versions
      · exact same.trans held
      · rw [held] at absent
        cases absent

/-- The database after it was opened, again and again; an opening may fail. -/
def reopened (db : Database) (openings : List (DurableSettings × Place)) : Database :=
  openings.foldl (fun db opening => (openDatabase opening.1 opening.2 db).2) db

theorem held_of_reopened (held : db.versions = .held rows)
    (openings : List (DurableSettings × Place)) :
    (db.reopened openings).versions = .held rows := by
  induction openings generalizing db with
  | nil => exact held
  | cons opening rest ih => exact ih (held_of_openDatabase held opening.1 opening.2)

/-- The row is read from the database, which may have been opened again before. -/
def Keeps (db : Database) (row : Snapshot) : Prop :=
  ∀ openings, (db.reopened openings).snapshot row.subject row.version = .ok (some row)

theorem keeps_of_held (held : db.versions = .held rows)
    (found : (rows.find? fun r => r.subject = .text row.subject &&
      r.version = .ofWord row.version) = some (.ofSnapshot row)) (storable : row.Storable) :
    db.Keeps row :=
  fun openings => snapshot_of_find? (held_of_reopened held openings) found storable

theorem held_of_absent {subject : String} {version : UInt32}
    (absent : db.snapshot subject version = .ok none) : ∃ rows, db.versions = .held rows ∧
      (rows.find? fun r => r.subject = .text subject && r.version = .ofWord version) = none := by
  obtain ⟨rows, read, absent⟩ := ok_of_bind absent
  cases held : db.versions with
  | held =>
    rw [held] at read
    cases read
    refine ⟨rows, rfl, ?_⟩
    split at absent
    · assumption
    · rename_i row _
      cases read : snapshotOfRow subject version row with
      | error | ok =>
        rw [read] at absent
        cases absent
  | absent | foreign =>
    rw [held] at read
    cases read

section Missing

variable (held : db.versions = .held rows) (missing : (rows.find? fun r =>
  r.subject = .text row.subject && r.version = .ofWord row.version) = none)

include missing

theorem find?_of_missing : ((rows ++ [VersionRow.ofSnapshot row]).find? fun r =>
    r.subject = .text row.subject && r.version = .ofWord row.version) =
      some (.ofSnapshot row) := by
  rw [List.find?_append, missing]
  simp [VersionRow.ofSnapshot]

include held

theorem execute_insertVersion_of_missing : (Statement.insertVersion (.ofSnapshot row)).execute db =
    .ok (true, { db with versions := .held (rows ++ [.ofSnapshot row]) }) := by
  have new := List.any_eq_false.2 (List.find?_eq_none.1 missing)
  rw [Statement.execute, held]
  exact if_neg (Bool.eq_false_iff.1 new)

end Missing

/-- Without a table of entries no mark is raised. -/
theorem execute_raiseMark_of_not_held (notHeld : ∀ entries, db.entries ≠ .held entries)
    (subject : String) (version : UInt32) :
    ∃ error, (Statement.raiseMark subject version).execute db = .error error := by
  rw [Statement.execute]
  cases marks : db.entries with
  | held entries => exact absurd marks (notHeld entries)
  | absent | foreign => exact ⟨_, rfl⟩

/-- The row is put behind the others, unless a statement fails. -/
theorem perform_put (broken : Nat → Bool) (storable : row.Storable)
    (absent : db.snapshot row.subject row.version = .ok none) :
    (∃ error, db.perform broken (.put row) = (.error error, db)) ∨
      ∃ after, db.perform broken (.put row) = (.ok .inserted, after) ∧ after.Keeps row := by
  rcases db.perform_broken broken (.put row) with failed | unbroken
  · exact .inl failed
  rw [unbroken]
  obtain ⟨rows, held, missing⟩ := held_of_absent absent
  have inserts := execute_insertVersion_of_missing held missing
  by_cases marks : ∃ entries, db.entries = .held entries
  · obtain ⟨entries, marks⟩ := marks
    have raises := Houses.execute_raiseMark
      { db with versions := .held (rows ++ [.ofSnapshot row]) } marks row.subject row.version
    have does : (Script.put row).Does db .inserted _ := (Script.does_ask inserts).bind
      ((Script.does_ask raises).bind (Script.does_pure _ _))
    exact .inr ⟨_, does.transact, keeps_of_held rfl (find?_of_missing missing) storable⟩
  · obtain ⟨error, fails⟩ := @execute_raiseMark_of_not_held
      { db with versions := .held (rows ++ [.ofSnapshot row]) } (not_exists.1 marks) row.subject
      row.version
    refine .inl ⟨error, ?_⟩
    rw [Database.perform, Script.transact, Script.put, Script.run_bind]
    simp only [Script.ask, Script.run, Script.run_bind, Bool.false_eq_true, if_false, inserts,
      fails]

end Database

/-- However the database was reached, its layout is recorded. -/
theorem Backend.Reached.recorded {db : Database} (reached : Reached (.durable db)) :
    db.recorded = .held [.integer Database.layoutVersion] := by
  generalize isDurable : Backend.durable db = backend at reached
  induction reached generalizing db with
  | memory => cases isDurable
  | opened opened =>
    cases isDurable
    rw [fresh_of_opened opened]
    rfl
  | @kept backend request _ ih =>
    cases backend with
    | memory => cases isDurable
    | durable before =>
      cases isDurable
      exact (before.recorded_perform _ request).trans (ih rfl)
  | @faulted before broken request _ ih =>
    cases isDurable
    exact (before.recorded_perform broken request).trans (ih rfl)

/-- What becomes of a row that is put into a database without one of its version. -/
structure Snapshot.Survives (row : Snapshot) : Prop where
  kept : ∀ db broken, Database.snapshot db row.subject row.version = .ok none →
    (∃ error, db.perform broken (.put row) = (.error error, db)) ∨
      ∃ after, db.perform broken (.put row) = (.ok .inserted, after) ∧ after.Keeps row
  reached : ∀ db, Backend.Reached (.durable db) →
    ¬Backend.Stores (.durable db) row.subject row.version →
    ∃ after, db.perform (fun _ => false) (.put row) = (.ok .inserted, after) ∧ after.Keeps row ∧
      ∀ settings place, settings.fault? place = none →
        openDatabase settings place after = (.ok (), after)

theorem Snapshot.Storable.survives {row : Snapshot} (storable : row.Storable) : row.Survives where
  kept db broken absent := Database.perform_put broken storable absent
  reached db reached missing := by
    obtain ⟨catalog, shows⟩ := reached.shows
    rw [shows.stores_iff, Option.not_isSome_iff_eq_none] at missing
    cases shows with
    | durable houses =>
      have absent := houses.snapshot_of_missing missing
      rcases Database.perform_put (fun _ => false) storable absent with
        ⟨error, failed⟩ | ⟨after, put, keeps⟩
      · have answered := (houses.perform (.put row)).2 fun _ _ same => by cases same
        rw [failed] at answered
        cases answered
      · refine ⟨after, put, keeps, fun settings place usable =>
          opens_of_recorded ?_ usable⟩
        have unchanged := db.recordedVersion?_perform (fun _ => false) (.put row)
        rw [put] at unchanged
        rw [unchanged, Database.recordedVersion?, reached.recorded]
        rfl

/-- Every payload that a registry writes with a dialect that is known and with a schema text, for
whatever subject and version it is kept: a row is built from it that has all of it, and that is read
from a database as it was put there, unless the database fails to take it. -/
theorem payloads_survive_storage {body asked text : String} {payload : VersionPayload}
    {registered : Registered} (decoded : VersionPayload.codec.ofText? body = some payload)
    (known : payload.registered? asked = some registered) (written : payload.text = some text)
    (nonempty : text ≠ "") (subject : String) (version : UInt32) :
    ∃ row, Snapshot.ofRegistered? subject version registered = some row ∧ row.subject = subject ∧
      row.version = version ∧ row.Tells payload ∧ row.Survives := by
  obtain ⟨dialect, isDialect, rfl⟩ := VersionPayload.exists_dialect_of_registered? known
  obtain ⟨ruleSet, metadata⟩ := VersionPayload.within_of_ofText? decoded
  obtain ⟨row, built⟩ : ∃ row, Snapshot.ofRegistered? subject version
      ⟨payload.subject.getD asked, payload.version,
        ⟨payload.text.filter (· ≠ ""), dialect, payload.id⟩, payload.references, payload.ruleSet,
        payload.metadata⟩ = some row := by
    have kept : (some text).filter (· ≠ "") = some text :=
      Option.filter_eq_some_iff.2 ⟨rfl, decide_eq_true nonempty⟩
    rw [Snapshot.ofRegistered?, written, kept]
    exact ⟨_, congrArg (Option.bind · _) kept⟩
  have renders := Snapshot.renders_of_ofRegistered? built
  obtain ⟨isSubject, isVersion⟩ := Snapshot.ofRegistered?_subject built
  exact ⟨row, built, isSubject, isVersion,
    ⟨(Option.filter_eq_some_iff.1 renders.text).1, renders.dialect ▸ isDialect, renders.registryId,
      renders.references, renders.ruleSet, renders.metadata, renders.hash, renders.fields,
      renders.lintReport⟩,
    (renders.storable ruleSet metadata).survives⟩

/-- The schema of records with one field, whose type is left open. -/
def openSchema : String := "\x7b\"fields\":[\x7b\"name\":\"id\"\x7d]\x7d"

def openPayload : String :=
  "\x7b\"version\":3,\"id\":-7,\"metadata\":[[]],\"schema\":\"" ++
    "\x7b\\\"fields\\\":[\x7b\\\"name\\\":\\\"id\\\"\x7d]\x7d\"\x7d"

/-- The payload is kept as another version than the one that it tells of. -/
theorem payloads_survive_storage_of_openPayload : ∃ payload registered row after,
    VersionPayload.codec.ofText? openPayload = some payload ∧
      payload.registered? "orders" = some registered ∧ payload.text = some openSchema ∧
      openSchema ≠ "" ∧ Snapshot.ofRegistered? "orders" 2 registered = some row ∧
      row.Tells payload ∧ row.metadata.isSome ∧ row.Survives ∧
      Database.fresh.perform (fun _ => false) (.put row) = (.ok .inserted, after) ∧
      after.Keeps row := by
  have isRead : ((VersionPayload.codec.ofText? openPayload).bind fun payload => do
      guard (payload.text = some openSchema ∧ payload.metadata.isSome)
      payload.registered? "orders").isSome = true := by
    decide +kernel
  obtain ⟨registered, read⟩ := Option.isSome_iff_exists.1 isRead
  obtain ⟨payload, decoded, read⟩ := Option.bind_eq_some_iff.1 read
  obtain ⟨_, guarded, known⟩ := Option.bind_eq_some_iff.1 read
  obtain ⟨written, described⟩ := (Option.guard_eq_some' _).1 guarded
  have nonempty : openSchema ≠ "" := by decide
  obtain ⟨row, built, isSubject, isVersion, tells, survives⟩ :=
    payloads_survive_storage decoded known written nonempty "orders" 2
  have missing : ¬Backend.Stores (.durable .fresh) row.subject row.version := by
    rintro ⟨_, isRow, -⟩
    cases isRow
  obtain ⟨after, put, keeps, -⟩ := survives.reached .fresh Backend.reached_fresh missing
  exact ⟨payload, registered, row, after, decoded, known, written, nonempty, built, tells,
    tells.metadata ▸ described, survives, put, keeps⟩

end SchemaLedger
