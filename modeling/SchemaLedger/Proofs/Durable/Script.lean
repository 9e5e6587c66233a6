import SchemaLedger.Durable.Store

namespace SchemaLedger

namespace Script

variable {α β : Type}

/-- The run of two scripts in a row is the run of the second from where the first ended. -/
theorem run_bind (broken : Nat → Bool) (script : Script α) (next : α → Script β) (position : Nat)
    (db : Database) : (script >>= next).run broken position db =
      match script.run broken position db with
      | .error error => .error error
      | .ok (value, position, db) => (next value).run broken position db := by
  induction script generalizing position db with
  | done value => rfl
  | execute statement rest ih =>
    have unfolded : (Script.execute statement rest >>= next) =
        .execute statement fun answer => rest answer >>= next := rfl
    rw [unfolded, run, run]
    split
    · rfl
    · cases statement.execute db with
      | error error => rfl
      | ok outcome => exact ih outcome.1 (position + 1) outcome.2

/-- The script gives a value and leaves a database behind. -/
def Does (script : Script α) (db : Database) (value : α) (after : Database) : Prop :=
  ∀ position, ∃ next, script.run (fun _ => false) position db = .ok (value, next, after)

theorem does_pure (value : α) (db : Database) : (pure value : Script α).Does db value db :=
  fun position => ⟨position, rfl⟩

theorem does_ask {statement : Statement} {answer : statement.Answer} {db after : Database}
    (executes : statement.execute db = .ok (answer, after)) :
    (ask statement).Does db answer after := fun position => ⟨position + 1, by
  rw [ask, run, if_neg Bool.false_ne_true, executes]
  rfl⟩

theorem Does.bind {script : Script α} {next : α → Script β} {db between after : Database}
    {value : α} {result : β} (first : script.Does db value between)
    (second : (next value).Does between result after) :
    (script >>= next).Does db result after := by
  intro position
  obtain ⟨middle, ran⟩ := first position
  obtain ⟨last, goesOn⟩ := second middle
  exact ⟨last, by rw [run_bind, ran]; exact goesOn⟩

/-- A transaction in which nothing fails is its script. -/
theorem Does.transact {script : Script α} {db after : Database} {value : α}
    (does : script.Does db value after) :
    script.transact (fun _ => false) db = (.ok value, after) := by
  obtain ⟨next, ran⟩ := does 0
  rw [Script.transact, ran]
  rfl

/-- Where the first of two scripts fails, both in a row fail with that. -/
theorem transact_bind_error {script : Script α} {next : α → Script β} {db after : Database}
    {error : DurableError}
    (fails : script.transact (fun _ => false) db = (.error error, after)) :
    (script >>= next).transact (fun _ => false) db = (.error error, db) := by
  rw [transact] at fails
  rw [transact, run_bind]
  cases ran : script.run (fun _ => false) 0 db with
  | error reason =>
    rw [ran] at fails
    cases fails
    rfl
  | ok outcome =>
    rw [ran] at fails
    cases fails

/-- Behind a statement that was executed the script goes on. -/
theorem exists_of_run {broken : Nat → Bool} {statement : Statement}
    {next : statement.Answer → Script α} {position last : Nat} {db after : Database} {value : α}
    (ran : (execute statement next).run broken position db = .ok (value, last, after)) :
    ∃ answer between, statement.execute db = .ok (answer, between) ∧
      (next answer).run broken (position + 1) between = .ok (value, last, after) := by
  rw [run] at ran
  split at ran
  · cases ran
  · cases executed : statement.execute db with
    | error error =>
      rw [executed] at ran
      cases ran
    | ok outcome =>
      rw [executed] at ran
      exact ⟨outcome.1, outcome.2, rfl, ran⟩

/-- A database that fails of itself ends a script early or not at all. -/
theorem run_broken (broken : Nat → Bool) (script : Script α) (position : Nat) (db : Database) :
    script.run broken position db = .error .interrupted ∨
      script.run broken position db = script.run (fun _ => false) position db := by
  induction script generalizing position db with
  | done value => exact .inr rfl
  | execute statement rest ih =>
    cases fails : broken position with
    | true => exact .inl (by rw [run, if_pos fails])
    | false =>
      rw [run, run, if_neg (by simp [fails]), if_neg Bool.false_ne_true]
      cases statement.execute db with
      | error error => exact .inr rfl
      | ok outcome => exact ih outcome.1 (position + 1) outcome.2

/-- A transaction takes effect as if nothing failed, or it fails and has none. -/
theorem transact_broken (broken : Nat → Bool) (script : Script α) (db : Database) :
    (∃ error, script.transact broken db = (.error error, db)) ∨
      script.transact broken db = script.transact (fun _ => false) db := by
  rw [transact, transact]
  rcases script.run_broken broken 0 db with ends | same
  · exact .inl ⟨_, by rw [ends]⟩
  · rw [same]
    cases script.run (fun _ => false) 0 db with
    | error error => exact .inl ⟨error, rfl⟩
    | ok outcome =>
      obtain ⟨value, position, after⟩ := outcome
      dsimp only
      split
      · exact .inl ⟨_, rfl⟩
      · exact .inr rfl

end Script

/-- So does a request. -/
theorem Database.perform_broken (broken : Nat → Bool) (db : Database) (request : Request) :
    (∃ error, db.perform broken request = (.error error, db)) ∨
      db.perform broken request = db.perform (fun _ => false) request := by
  cases request with
  | mark | known | entry | entries | snapshot | versions => exact .inr rfl
  | put | update | count | attach | annotate => exact Script.transact_broken broken _ db
  | remove names =>
    rw [Database.perform, Database.perform]
    split
    · exact .inr rfl
    · exact Script.transact_broken broken _ db

theorem ok_of_bind {ε α β : Type} {first : Except ε α} {next : α → Except ε β} {result : β}
    (ran : (first >>= next) = .ok result) :
    ∃ value, first = .ok value ∧ next value = .ok result := by
  cases first with
  | error error => cases ran
  | ok value => exact ⟨value, rfl, ran⟩

theorem Statement.recorded_of_execute {statement : Statement} {db after : Database}
    {answer : statement.Answer} (executed : statement.execute db = .ok (answer, after)) :
    after.recorded = db.recorded := by
  cases statement with
  | insertVersion row =>
    obtain ⟨rows, -, done⟩ := ok_of_bind executed
    split at done <;> cases done <;> rfl
  | raiseMark | updateEntry | insertArtifact | putRemark =>
    obtain ⟨rows, -, done⟩ := ok_of_bind executed
    cases done
    rfl
  | countIn table | deleteIn table =>
    cases table <;> obtain ⟨rows, -, done⟩ := ok_of_bind executed <;> cases done <;> rfl

theorem Script.recorded_of_run {α : Type} {broken : Nat → Bool} {script : Script α} {value : α}
    {position last : Nat} {db after : Database}
    (ran : script.run broken position db = .ok (value, last, after)) :
    after.recorded = db.recorded := by
  induction script generalizing position db with
  | done =>
    cases ran
    rfl
  | execute statement next ih =>
    obtain ⟨answer, between, executed, ran⟩ := exists_of_run ran
    exact (ih answer ran).trans (Statement.recorded_of_execute executed)

theorem Script.recorded_transact {α : Type} (broken : Nat → Bool) (script : Script α)
    (db : Database) : (script.transact broken db).2.recorded = db.recorded := by
  rw [transact]
  cases ran : script.run broken 0 db with
  | error error => rfl
  | ok outcome =>
    dsimp only
    split
    · rfl
    · exact recorded_of_run ran

theorem Database.recorded_perform (broken : Nat → Bool) (db : Database) (request : Request) :
    (db.perform broken request).2.recorded = db.recorded := by
  cases request with
  | mark | known | entry | entries | snapshot | versions => rfl
  | put | update | count | attach | annotate => exact Script.recorded_transact broken _ db
  | remove names =>
    rw [Database.perform]
    split
    · rfl
    · exact Script.recorded_transact broken _ db

namespace Stored

variable {ρ : Type}

/-- The rows of a table that is as it should be. -/
def rows : Stored ρ → List ρ
  | held rows => rows
  | _ => []

theorem eq_held_of_read {table : Stored ρ} {name : String} {rows : List ρ}
    (read : table.read name = .ok rows) : table = .held rows := by
  cases table with
  | held =>
    cases read
    rfl
  | absent | foreign => cases read

/-- The table with some of its rows. -/
def keep (kept : ρ → Bool) : Stored ρ → Stored ρ
  | held rows => held (rows.filter kept)
  | table => table

theorem keep_keep (first second : ρ → Bool) (table : Stored ρ) :
    (table.keep first).keep second = table.keep fun row => first row && second row := by
  cases table with
  | held rows =>
    simp only [keep, List.filter_filter]
    exact congrArg held (List.filter_congr fun _ _ => Bool.and_comm _ _)
  | absent => rfl
  | foreign _ _ => rfl

theorem keep_eq_self {kept : ρ → Bool} (all : ∀ row, kept row = true) (table : Stored ρ) :
    table.keep kept = table := by
  cases table with
  | held rows => exact congrArg held (List.filter_eq_self.2 fun row _ => all row)
  | absent => rfl
  | foreign _ _ => rfl

end Stored

namespace Database

/-- All four tables are as they should be. -/
structure Ready (db : Database) : Prop where
  versions : db.versions = .held db.versions.rows
  artifacts : db.artifacts = .held db.artifacts.rows
  remarks : db.remarks = .held db.remarks.rows
  entries : db.entries = .held db.entries.rows

/-- The subjects of the rows of a table. -/
def subjects (db : Database) : SubjectTable → List Cell
  | .versions => db.versions.rows.map (·.subject)
  | .artifacts => db.artifacts.rows.map (·.subject)
  | .remarks => db.remarks.rows.map (·.subject)
  | .entries => db.entries.rows.map (·.subject)

/-- The database with those rows of a table whose subjects are kept. -/
def keep (db : Database) (kept : Cell → Bool) : SubjectTable → Database
  | .versions => { db with versions := db.versions.keep fun row => kept row.subject }
  | .artifacts => { db with artifacts := db.artifacts.keep fun row => kept row.subject }
  | .remarks => { db with remarks := db.remarks.keep fun row => kept row.subject }
  | .entries => { db with entries := db.entries.keep fun row => kept row.subject }

/-- How many rows of each table belong to the named subjects. -/
def countOf (db : Database) (names : List String) : RowCounts :=
  let rows (table : SubjectTable) := ((db.subjects table).filter fun c => c.names names).length
  ⟨rows .entries, rows .versions, rows .artifacts, rows .remarks⟩

/-- The database without the rows of the named subjects. -/
def others (db : Database) (names : List String) : Database :=
  SubjectTable.all.foldl (fun db table => db.keep (fun c => !c.names names) table) db

variable {db : Database}

theorem Ready.keep (ready : db.Ready) (kept : Cell → Bool) (table : SubjectTable) :
    (db.keep kept table).Ready := by
  obtain ⟨versions, artifacts, remarks, entries⟩ := ready
  cases table with
  | versions => exact ⟨by rw [Database.keep, versions]; rfl, artifacts, remarks, entries⟩
  | artifacts => exact ⟨versions, by rw [Database.keep, artifacts]; rfl, remarks, entries⟩
  | remarks => exact ⟨versions, artifacts, by rw [Database.keep, remarks]; rfl, entries⟩
  | entries => exact ⟨versions, artifacts, remarks, by rw [Database.keep, entries]; rfl⟩

theorem keep_keep (db : Database) (first second : Cell → Bool) (table : SubjectTable) :
    (db.keep first table).keep second table = db.keep (fun c => first c && second c) table := by
  cases table <;> simp only [Database.keep, Stored.keep_keep]

theorem keep_eq_self {kept : Cell → Bool} (all : ∀ cell, kept cell = true) (db : Database)
    (table : SubjectTable) : db.keep kept table = db := by
  cases table <;> simp only [Database.keep, Stored.keep_eq_self fun _ => all _]

theorem execute_countIn (ready : db.Ready) (table : SubjectTable) (names : List String) :
    (Statement.countIn table names).execute db =
      .ok (((db.subjects table).filter fun c => c.names names).length, db) := by
  obtain ⟨versions, artifacts, remarks, entries⟩ := ready
  cases table with
  | versions =>
    rw [Statement.execute, subjects, List.filter_map, List.length_map, versions]
    rfl
  | artifacts =>
    rw [Statement.execute, subjects, List.filter_map, List.length_map, artifacts]
    rfl
  | remarks =>
    rw [Statement.execute, subjects, List.filter_map, List.length_map, remarks]
    rfl
  | entries =>
    rw [Statement.execute, subjects, List.filter_map, List.length_map, entries]
    rfl

theorem execute_deleteIn (ready : db.Ready) (table : SubjectTable) (names : List String) :
    (Statement.deleteIn table names).execute db =
      .ok ((), db.keep (fun c => !c.names names) table) := by
  obtain ⟨versions, artifacts, remarks, entries⟩ := ready
  cases table with
  | versions => rw [Statement.execute, Database.keep, versions]; rfl
  | artifacts => rw [Statement.execute, Database.keep, artifacts]; rfl
  | remarks => rw [Statement.execute, Database.keep, remarks]; rfl
  | entries => rw [Statement.execute, Database.keep, entries]; rfl

end Database

theorem Cell.names_append (cell : Cell) (first second : List String) :
    cell.names (first ++ second) = (cell.names first || cell.names second) := by
  cases cell with
  | text subject => simp [names]
  | null => rfl
  | integer _ => rfl
  | real _ => rfl

theorem Cell.names_text {subject : String} {subjects : List String} :
    (Cell.text subject).names subjects = true ↔ subject ∈ subjects :=
  List.contains_iff_mem

theorem Cell.names_nil (cell : Cell) : cell.names [] = false := by
  cases cell <;> rfl

theorem Database.others_nil (db : Database) : db.others [] = db := by
  simp only [others, SubjectTable.all, List.foldl_cons, List.foldl_nil, Cell.names_nil,
    keep_eq_self fun _ => Bool.not_false]

/-- No row is counted for two pieces when no name is in both. -/
theorem Cell.length_filter_names_append (cells : List Cell) {first second : List String}
    (apart : ∀ name ∈ first, name ∉ second) :
    (cells.filter fun c => c.names (first ++ second)).length =
      (cells.filter fun c => c.names first).length +
        (cells.filter fun c => c.names second).length := by
  induction cells with
  | nil => rfl
  | cons cell rest ih =>
    have notBoth : cell.names first = true → cell.names second = false := by
      cases cell with
      | text subject => simpa [names] using apart subject
      | null => intro _; rfl
      | integer _ => intro _; rfl
      | real _ => intro _; rfl
    simp only [List.filter_cons, names_append] at ih ⊢
    cases inFirst : cell.names first with
    | true => simp [notBoth inFirst, ih]; omega
    | false => cases inSecond : cell.names second <;> simp [ih]; omega

theorem flatten_piecesOf {α : Type} (size : Nat) (list : List α) :
    (piecesOf size list).flatten = list := by
  fun_induction piecesOf size list with
  | case1 => rfl
  | case2 first rest ih =>
    rw [List.flatten_cons, ih, List.cons_append, List.take_append_drop]

namespace Script

variable {db : Database}

theorem does_countTable (ready : db.Ready) (table : SubjectTable) {pieces : List (List String)}
    (distinct : pieces.flatten.Nodup) : (countTable table pieces).Does db
      ((db.subjects table).filter fun c => c.names pieces.flatten).length db := by
  induction pieces with
  | nil =>
    have none : ((db.subjects table).filter fun c => c.names []) = [] :=
      List.filter_eq_nil_iff.2 fun c _ => by simp [Cell.names_nil]
    rw [List.flatten_nil, none]
    exact does_pure 0 db
  | cons piece rest ih =>
    rw [List.flatten_cons] at distinct ⊢
    obtain ⟨_, later, apart⟩ := List.nodup_append.1 distinct
    rw [Cell.length_filter_names_append _ fun name isFirst isLater =>
      apart name isFirst name isLater rfl]
    exact (does_ask (db.execute_countIn ready table piece)).bind
      ((ih later).bind (does_pure _ db))

theorem does_deleteTable (ready : db.Ready) (table : SubjectTable) (pieces : List (List String)) :
    (deleteTable table pieces).Does db () (db.keep (fun c => !c.names pieces.flatten) table) := by
  induction pieces generalizing db with
  | nil =>
    rw [Database.keep_eq_self (fun c => by simp [Cell.names_nil]) db table]
    exact does_pure () db
  | cons piece rest ih =>
    have later := ih (ready.keep (fun c => !c.names piece) table)
    rw [Database.keep_keep] at later
    have same : (fun c : Cell => !c.names piece && !c.names rest.flatten) =
        fun c => !c.names (piece :: rest).flatten := by
      funext c
      rw [List.flatten_cons, Cell.names_append, Bool.not_or]
    rw [same] at later
    exact (does_ask (Database.execute_deleteIn ready table piece)).bind later

theorem does_deleteTables (ready : db.Ready) (pieces : List (List String))
    (tables : List SubjectTable) : (deleteTables pieces tables).Does db ()
      (tables.foldl (fun db table => db.keep (fun c => !c.names pieces.flatten) table) db) := by
  induction tables generalizing db with
  | nil => exact does_pure () db
  | cons table rest ih =>
    exact (does_deleteTable ready table pieces).bind
      (ih (ready.keep (fun c => !c.names pieces.flatten) table))

/-- A count goes through the tables one after the other and changes none. -/
theorem does_count (ready : db.Ready) {pieces : List (List String)}
    (distinct : pieces.flatten.Nodup) :
    (count pieces).Does db (db.countOf pieces.flatten) db :=
  (does_countTable ready .versions distinct).bind <|
    (does_countTable ready .artifacts distinct).bind <|
      (does_countTable ready .remarks distinct).bind <|
        (does_countTable ready .entries distinct).bind <| does_pure _ db

/-- What is removed is what was counted before. -/
theorem does_remove (ready : db.Ready) {pieces : List (List String)}
    (distinct : pieces.flatten.Nodup) :
    (remove pieces).Does db (db.countOf pieces.flatten) (db.others pieces.flatten) :=
  (does_count ready distinct).bind <|
    (does_deleteTables ready pieces SubjectTable.all).bind <| does_pure _ _

end Script

end SchemaLedger
