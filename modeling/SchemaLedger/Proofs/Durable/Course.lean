import SchemaLedger.Proofs.Durable.Script

namespace SchemaLedger

namespace Statement

/-- The statements one after the other, up to the first that fails. -/
def executeAll : List Statement → Database → Except DurableError Database
  | [], db => .ok db
  | statement :: rest, db =>
    match statement.execute db with
    | .error error => .error error
    | .ok (_, between) => executeAll rest between

/-- Execution fails at a position: the database fails there of itself, or the statement fails on
what those before it have left behind. The commit stands behind the last statement. -/
def FailsAt (broken : Nat → Bool) (statements : List Statement) (db : Database) (position : Nat) :
    Prop :=
  broken position = true ∨ ∃ before statement rest between error,
    statements = before ++ statement :: rest ∧ before.length = position ∧
      executeAll before db = .ok between ∧ statement.execute between = .error error

/-- A statement for each table and each piece of a list of subjects, table by table. -/
def onTables (make : SubjectTable → List String → Statement) (pieces : List (List String)) :
    List Statement :=
  SubjectTable.all.flatMap fun table => pieces.map (make table)

section Course

variable {fault : Nat → Bool} {statement : Statement} {statements rest : List Statement}
  {db between after : Database} {position : Nat}

theorem executeAll_cons {answer : statement.Answer}
    (executed : statement.execute db = .ok (answer, between)) :
    executeAll (statement :: rest) db = executeAll rest between := by
  rw [executeAll, executed]

theorem exists_of_executeAll_cons (ran : executeAll (statement :: rest) db = .ok after) :
    ∃ answer between, statement.execute db = .ok (answer, between) ∧
      executeAll rest between = .ok after := by
  rw [executeAll] at ran
  cases executed : statement.execute db with
  | error error =>
    rw [executed] at ran
    cases ran
  | ok outcome =>
    rw [executed] at ran
    exact ⟨outcome.1, outcome.2, rfl, ran⟩

theorem executeAll_append (statements rest : List Statement) (db : Database) :
    executeAll (statements ++ rest) db = (executeAll statements db).bind (executeAll rest) := by
  induction statements generalizing db with
  | nil => rfl
  | cons statement later ih =>
    rw [List.cons_append, executeAll, executeAll]
    cases statement.execute db with
    | error error => rfl
    | ok outcome => exact ih outcome.2

theorem FailsAt.cons {answer : statement.Answer}
    (executed : statement.execute db = .ok (answer, between))
    (fails : FailsAt (fun position => fault (position + 1)) rest between position) :
    FailsAt fault (statement :: rest) db (position + 1) := by
  obtain breaks | ⟨before, halting, others, reached, error, rfl, length, ran, halts⟩ := fails
  · exact .inl breaks
  · refine .inr ⟨statement :: before, halting, others, reached, error, rfl, ?_, ?_, halts⟩
    · rw [List.length_cons, length]
    · rw [executeAll_cons executed, ran]

end Course

end Statement

namespace Script

variable {α β : Type} {script : Script α} {statements rest : List Statement}

/-- The script executes these statements, whatever their answers are. -/
def Asks : Script α → List Statement → Prop
  | done _, statements => statements = []
  | execute statement next, statements =>
    ∃ rest, statements = statement :: rest ∧ ∀ answer, (next answer).Asks rest

theorem asks_pure (value : α) : (pure value : Script α).Asks [] := rfl

theorem asks_ask (statement : Statement) : (ask statement).Asks [statement] :=
  ⟨[], rfl, fun _ => rfl⟩

theorem Asks.bind {next : α → Script β} (first : script.Asks statements)
    (later : ∀ value, (next value).Asks rest) : (script >>= next).Asks (statements ++ rest) := by
  induction script generalizing statements with
  | done value =>
    cases first
    exact later value
  | execute statement goesOn ih =>
    obtain ⟨others, rfl, each⟩ := first
    exact ⟨others ++ rest, rfl, fun answer => ih answer (each answer)⟩

/-- A script ends when all its statements have taken effect, or with the first failure. -/
theorem Asks.run (asks : script.Asks statements) (broken : Nat → Bool) (start : Nat)
    (db : Database) :
    (∃ value after, script.run broken start db = .ok (value, start + statements.length, after) ∧
      Statement.executeAll statements db = .ok after ∧
      ∀ position < statements.length, broken (start + position) = false) ∨
    ∃ error, script.run broken start db = .error error ∧ ∃ position < statements.length,
      Statement.FailsAt (fun position => broken (start + position)) statements db position := by
  induction script generalizing statements start db with
  | done value =>
    cases asks
    exact .inl ⟨value, db, rfl, rfl, fun _ beyond => absurd beyond (Nat.not_lt_zero _)⟩
  | execute statement next ih =>
    obtain ⟨rest, rfl, each⟩ := asks
    rw [Script.run]
    cases breaks : broken start with
    | true =>
      exact .inr ⟨.interrupted, if_pos rfl, 0, Nat.zero_lt_succ _, .inl breaks⟩
    | false =>
      rw [if_neg Bool.false_ne_true]
      cases executed : statement.execute db with
      | error error =>
        exact .inr ⟨error, rfl, 0, Nat.zero_lt_succ _,
          .inr ⟨[], statement, rest, db, error, rfl, rfl, rfl, executed⟩⟩
      | ok outcome =>
        obtain ⟨answer, between⟩ := outcome
        -- The rest of the script starts one position later.
        have shifted (position : Nat) : start + 1 + position = start + (position + 1) := by omega
        obtain ⟨value, after, ran, all, whole⟩ | ⟨error, ran, position, isThere, fails⟩ :=
          ih answer (each answer) (start + 1) between
        · refine .inl ⟨value, after, ?_, by rw [Statement.executeAll_cons executed, all], ?_⟩
          · rw [List.length_cons, ← shifted rest.length]
            exact ran
          · intro position isThere
            cases position with
            | zero => exact breaks
            | succ position =>
              rw [← shifted]
              exact whole position (Nat.lt_of_succ_lt_succ isThere)
        · simp only [shifted] at fails
          exact .inr ⟨error, ran, position + 1, Nat.succ_lt_succ isThere, fails.cons executed⟩

/-- All statements of a transaction take effect, or something fails and the database stays. -/
theorem Asks.transact (asks : script.Asks statements) (broken : Nat → Bool) (db : Database) :
    (∃ value after, script.transact broken db = (.ok value, after) ∧
      Statement.executeAll statements db = .ok after ∧
      ∀ position ≤ statements.length, broken position = false) ∨
    ∃ error, script.transact broken db = (.error error, db) ∧ ∃ position ≤ statements.length,
      Statement.FailsAt broken statements db position := by
  rw [Script.transact]
  obtain ⟨value, after, ran, all, whole⟩ | ⟨error, ran, position, isThere, fails⟩ :=
    asks.run broken 0 db
  · rw [ran]
    simp only [Nat.zero_add] at whole ⊢
    cases commits : broken statements.length with
    | true =>
      exact .inr ⟨.interrupted, if_pos rfl, statements.length, Nat.le_refl _, .inl commits⟩
    | false =>
      refine .inl ⟨value, after, if_neg Bool.false_ne_true, all, fun position isThere => ?_⟩
      obtain before | rfl := Nat.lt_or_eq_of_le isThere
      · exact whole position before
      · exact commits
  · rw [ran]
    simp only [Nat.zero_add] at fails
    exact .inr ⟨error, rfl, position, Nat.le_of_lt isThere, fails⟩

theorem asks_put (snapshot : Snapshot) : (put snapshot).Asks
    [.insertVersion (.ofSnapshot snapshot), .raiseMark snapshot.subject snapshot.version] :=
  (asks_ask _).bind fun _ => (asks_ask _).bind fun _ => asks_pure _

theorem asks_countTable (table : SubjectTable) (pieces : List (List String)) :
    (countTable table pieces).Asks (pieces.map (.countIn table)) := by
  induction pieces with
  | nil => exact asks_pure 0
  | cons piece rest ih =>
    have later (here : Nat) := ih.bind fun there => asks_pure (here + there)
    simp only [List.append_nil] at later
    exact (asks_ask (.countIn table piece)).bind later

theorem asks_count (pieces : List (List String)) :
    (count pieces).Asks (Statement.onTables .countIn pieces) :=
  (asks_countTable _ _).bind fun _ => (asks_countTable _ _).bind fun _ =>
    (asks_countTable _ _).bind fun _ => (asks_countTable _ _).bind fun _ => asks_pure _

theorem asks_deleteTable (table : SubjectTable) (pieces : List (List String)) :
    (deleteTable table pieces).Asks (pieces.map (.deleteIn table)) := by
  induction pieces with
  | nil => exact asks_pure ()
  | cons piece rest ih => exact (asks_ask (.deleteIn table piece)).bind fun _ => ih

theorem asks_deleteTables (pieces : List (List String)) (tables : List SubjectTable) :
    (deleteTables pieces tables).Asks
      (tables.flatMap fun table => pieces.map (.deleteIn table)) := by
  induction tables with
  | nil => exact asks_pure ()
  | cons table rest ih => exact (asks_deleteTable table pieces).bind fun _ => ih

theorem asks_remove (pieces : List (List String)) : (remove pieces).Asks
    (Statement.onTables .countIn pieces ++ Statement.onTables .deleteIn pieces) := by
  have deletes (counts : RowCounts) := (asks_deleteTables pieces SubjectTable.all).bind
    fun _ => asks_pure counts
  simp only [List.append_nil] at deletes
  exact (asks_count pieces).bind deletes

end Script

end SchemaLedger
