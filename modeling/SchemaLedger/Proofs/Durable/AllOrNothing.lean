import SchemaLedger.Proofs.Durable.Course
import SchemaLedger.Proofs.Durable.Effect

namespace SchemaLedger

open Statement in
/-- The statements of the transaction that a request takes, if it takes one. -/
def Request.transaction? : Request → Option (List Statement)
  | .put row => some [insertVersion (.ofSnapshot row), raiseMark row.subject row.version]
  | .update subject change => some [updateEntry subject change]
  | .count names => some (onTables countIn (piecesOf subjectsAtOnce names.toList))
  | .remove names =>
    let pieces := piecesOf subjectsAtOnce names.toList
    if names.size = 0 then none else some (onTables countIn pieces ++ onTables deleteIn pieces)
  | .attach artifact => some [insertArtifact (.ofArtifact artifact)]
  | .annotate remark => some [putRemark (.ofRemark remark)]
  | .mark _ | .known | .entry _ | .entries | .snapshot _ _ | .versions _ => none

theorem Stored.eq_held_of_answer {ρ α : Type} {table : Stored ρ} {name : String}
    {next : List ρ → Except DurableError α}
    (answered : ∃ answer, (table.read name >>= next) = .ok answer) : table = .held table.rows := by
  obtain ⟨_, answered⟩ := answered
  obtain ⟨rows, read, -⟩ := ok_of_bind answered
  rw [eq_held_of_read read, Stored.rows]

namespace Database

variable {broken : Nat → Bool} {db after : Database} {request : Request}
  {statements : List Statement}

/-- A request whose transaction takes effect has executed all its statements; if it fails, a
statement or the commit failed, and nothing has changed. -/
theorem perform_of_transaction (isTransaction : request.transaction? = some statements)
    (broken : Nat → Bool) (db : Database) :
    (∃ answer after, db.perform broken request = (.ok answer, after) ∧
      Statement.executeAll statements db = .ok after ∧
      ∀ position ≤ statements.length, broken position = false) ∨
    ∃ error, db.perform broken request = (.error error, db) ∧ ∃ position ≤ statements.length,
      Statement.FailsAt broken statements db position := by
  cases request with
  | put row =>
    cases isTransaction
    exact (Script.asks_put row).transact broken db
  | update | attach | annotate =>
    cases isTransaction
    exact ((Script.asks_ask _).bind fun _ => Script.asks_pure _).transact broken db
  | count names =>
    cases isTransaction
    exact (Script.asks_count _).transact broken db
  | remove names =>
    rw [Request.transaction?] at isTransaction
    rw [perform]
    split at isTransaction
    · cases isTransaction
    · rename_i some
      cases isTransaction
      rw [if_neg some]
      exact (Script.asks_remove _).transact broken db
  | mark | known | entry | entries | snapshot | versions => cases isTransaction

/-- The subject has an entry, and no entry of it has a mark below the version. -/
structure Raised (db : Database) (subject : String) (version : UInt32) : Prop where
  entered : ∃ row ∈ db.entries.rows, row.subject = .text subject
  reaches : ∀ row ∈ db.entries.rows, row.subject = .text subject →
    row.mark.less (.ofWord version) = false

/-- Behind a version that was put stands a mark that reaches it. -/
theorem Puts.raised {snapshot : Snapshot} {outcome : PutOutcome}
    (puts : db.Puts snapshot outcome after) : after.HasVersion snapshot.subject snapshot.version ∧
      after.Raised snapshot.subject snapshot.version := by
  obtain ⟨before, rows, held, entered, merged⟩ := puts.entries
  have isRows : after.entries.rows = rows := by rw [entered, Stored.rows]
  refine ⟨?_, ?_, fun row isRow own => ?_⟩
  · obtain ⟨-, isThere, same⟩ | ⟨-, -, added⟩ := puts.versions
    · rw [HasVersion, same]
      exact isThere
    · rw [HasVersion, added]
      exact ⟨.ofSnapshot snapshot, List.mem_append_right _ List.mem_cons_self, rfl, rfl⟩
  · rw [isRows]
    obtain ⟨row, isRow, rfl | ⟨old, isOwn, raised⟩⟩ := merged.exists_mem
    · exact ⟨_, isRow, rfl⟩
    · exact ⟨row, isRow, by rw [raised.others]; exact isOwn⟩
  · rw [isRows] at isRow
    obtain ⟨-, other⟩ | rfl | ⟨old, -, -, raised⟩ := merged.of_mem isRow
    · exact absurd own other
    · rw [Statement.freshEntry, Cell.less_ofWord]
      exact decide_eq_false (UInt32.lt_irrefl _)
    · exact raised.reaches

theorem eq_of_execute_countIn {table : SubjectTable} {piece : List String} {count : Nat}
    (executed : (Statement.countIn table piece).execute db = .ok (count, after)) : after = db := by
  cases table <;> obtain ⟨rows, -, done⟩ := ok_of_bind executed <;> cases done <;> rfl

/-- Statements that only count leave the database as it is, so each of them was executed on it. -/
theorem counts_of_executeAll
    (counts : ∀ statement ∈ statements, ∃ table piece, statement = .countIn table piece)
    (ran : Statement.executeAll statements db = .ok after) :
    ∀ statement ∈ statements, ∃ answer, statement.execute db = .ok answer := by
  induction statements with
  | nil => exact List.forall_mem_nil _
  | cons statement rest ih =>
    obtain ⟨⟨table, piece, rfl⟩, later⟩ := List.forall_mem_cons.1 counts
    obtain ⟨count, between, executed, ran⟩ := Statement.exists_of_executeAll_cons ran
    cases eq_of_execute_countIn executed
    exact List.forall_mem_cons.2 ⟨⟨_, executed⟩, ih later ran⟩

/-- Where rows of every table can be counted, all tables are as they should be. -/
theorem ready_of_counts {piece : List String}
    (counts : ∀ table, ∃ answer, (Statement.countIn table piece).execute db = .ok answer) :
    db.Ready :=
  ⟨Stored.eq_held_of_answer (counts .versions), Stored.eq_held_of_answer (counts .artifacts),
    Stored.eq_held_of_answer (counts .remarks), Stored.eq_held_of_answer (counts .entries)⟩

theorem ready_of_onTables {pieces : List (List String)} {rest : List Statement}
    (nonempty : pieces ≠ [])
    (ran : Statement.executeAll (Statement.onTables .countIn pieces ++ rest) db = .ok after) :
    db.Ready := by
  rw [Statement.executeAll_append] at ran
  obtain ⟨between, counted, -⟩ := ok_of_bind ran
  obtain ⟨piece, others, rfl⟩ := List.exists_cons_of_ne_nil nonempty
  have only : ∀ statement ∈ Statement.onTables .countIn (piece :: others),
      ∃ table piece, statement = .countIn table piece := by
    intro statement isThere
    obtain ⟨table, -, isHere⟩ := List.mem_flatMap.1 isThere
    obtain ⟨piece, -, rfl⟩ := List.mem_map.1 isHere
    exact ⟨table, piece, rfl⟩
  refine @ready_of_counts db piece fun table => ?_
  have isTable : table ∈ SubjectTable.all := by cases table <;> decide
  exact counts_of_executeAll only counted (.countIn table piece)
    (List.mem_flatMap.2 ⟨table, isTable, List.mem_cons_self⟩)

theorem countOf_nil (db : Database) : db.countOf [] = .zero := by
  have none (cells : List Cell) : cells.filter (fun c => c.names []) = [] :=
    List.filter_eq_nil_iff.2 fun c _ => by rw [Cell.names_nil]; decide
  simp only [countOf, none, List.length_nil]
  rfl

theorem pieces_ne_nil {names : Names} (some : names.size ≠ 0) :
    piecesOf subjectsAtOnce names.toList ≠ [] := by
  intro none
  have whole := flatten_piecesOf subjectsAtOnce names.toList
  have length : names.size = names.toList.length := (List.length_map _).symm
  rw [none] at whole
  rw [← whole] at length
  exact some length

section Counting

variable {names : Names}

/-- Where the tables are as they should be or there is nothing to look for, a count counts and a
removal removes. -/
theorem perform_of_ready (can : names.size = 0 ∨ db.Ready) :
    db.perform (fun _ => false) (.count names) = (.ok (db.countOf names.toList), db) ∧
      db.perform (fun _ => false) (.remove names) =
        (.ok (db.countOf names.toList), db.others names.toList) := by
  by_cases nothing : names.size = 0
  · have noNames : Names.toList .empty = [] := rfl
    rw [perform, perform, if_pos nothing, Names.eq_empty nothing, noNames, others_nil, countOf_nil,
      piecesOf]
    exact ⟨rfl, rfl⟩
  · have ready := can.resolve_left nothing
    have whole := flatten_piecesOf subjectsAtOnce names.toList
    have distinct : (piecesOf subjectsAtOnce names.toList).flatten.Nodup := by
      rw [whole]
      exact names.toList_nodup
    have counts := (Script.does_count ready distinct).transact
    have removes := (Script.does_remove ready distinct).transact
    rw [whole] at counts removes
    rw [perform, perform, if_neg nothing]
    exact ⟨counts, removes⟩

/-- Where one of the tables is not as it should be, no subject can be counted or removed. -/
theorem perform_of_not_ready (cannot : ¬(names.size = 0 ∨ db.Ready)) :
    ∃ error, db.perform (fun _ => false) (.count names) = (.error error, db) ∧
      db.perform (fun _ => false) (.remove names) = (.error error, db) := by
  obtain ⟨some, missing⟩ := not_or.1 cannot
  obtain ⟨answer, after, -, ran, -⟩ | ⟨error, failed, -⟩ :=
    @perform_of_transaction (.count names) _ rfl (fun _ => false) db
  · -- What was counted in every table shows that all tables are there.
    rw [← List.append_nil (Statement.onTables _ _)] at ran
    exact absurd (ready_of_onTables (pieces_ne_nil some) ran) missing
  · refine ⟨error, failed, ?_⟩
    rw [perform, if_neg some]
    exact Script.transact_bind_error failed

/-- A count fails, or it answers how many rows of each table belong to the subjects. -/
theorem perform_count (broken : Nat → Bool) (db : Database) (names : Names) :
    (∃ error, db.perform broken (.count names) = (.error error, db)) ∨
      db.perform broken (.count names) = (.ok (db.countOf names.toList), db) := by
  obtain failed | unbroken := db.perform_broken broken (.count names)
  · exact .inl failed
  · rw [unbroken]
    by_cases can : names.size = 0 ∨ db.Ready
    · exact .inr (perform_of_ready can).1
    · obtain ⟨error, failed, -⟩ := perform_of_not_ready can
      exact .inl ⟨error, failed⟩

/-- A removal fails and changes nothing, or it takes the rows of the subjects from every table, all
others staying, and answers how many there were. -/
theorem perform_remove (broken : Nat → Bool) (db : Database) (names : Names) :
    (∃ error, db.perform broken (.remove names) = (.error error, db)) ∨
      db.perform broken (.remove names) =
        (.ok (db.countOf names.toList), db.others names.toList) := by
  obtain failed | unbroken := db.perform_broken broken (.remove names)
  · exact .inl failed
  · rw [unbroken]
    by_cases can : names.size = 0 ∨ db.Ready
    · exact .inr (perform_of_ready can).2
    · obtain ⟨error, -, failed⟩ := perform_of_not_ready can
      exact .inl ⟨error, failed⟩

end Counting

end Database

end SchemaLedger
