import SchemaLedger.Proofs.Sync.Backed
import SchemaLedger.Proofs.Sync.Lookup
import SchemaLedger.Sync.Reconcile

namespace SchemaLedger

namespace Backend

/-- The rows of the listed subjects. -/
def listedRows (backend : Backend) (listed : Names) (table : SubjectTable) : List Row :=
  (backend.rows table).filter fun row => row.subject.names listed.toList

/-- There is a row of a subject that is not listed. -/
def HasStale (backend : Backend) (listed : Names) : Prop :=
  ∃ table, ∃ row ∈ backend.rows table, row.subject.names listed.toList = false

/-- A moment of a reconciliation that was begun in the catalog `before`. -/
structure Reconciling (listed : Names) (before : Backend) (told : List Exchange) (after : Backend) :
    Prop where
  atomic : after = before ∨ ∀ table, after.rows table = before.listedRows listed table
  failed : ∀ request error, Answered told request (.error error) → after = before
  quiet : ¬before.HasStale listed → after = before ∧ ∀ names answer,
    ¬Answered told (.count names) answer ∧ ¬Answered told (.remove names) answer

/-- What a reconciliation with a result has done to the catalog `before`. -/
structure Reconciled (listed : Names) (before : Backend) (told : List Exchange) (removal : Removal)
    (after : Backend) : Prop where
  rows : ∀ table, after.rows table = before.listedRows listed table
  known : ∃ names, (Backend.keeper .known after).1 = .ok names ∧
    ∀ subject, Table.contains names subject = true → Table.contains listed subject = true
  stale : ∃ names, (Backend.keeper .known before).1 = .ok names ∧
    removal.subjects = names.without listed
  orphans : ∀ subject, Table.contains removal.subjects subject = true ↔
    Table.contains listed subject = false ∧
      ∃ table, ∃ row ∈ before.rows table, row.subject = .text subject
  counted : ∀ table,
    removal.rows.of table + (after.rows table).length = (before.rows table).length
  previewed : before.HasStale listed → Answered told (.count removal.subjects) (.ok removal.rows)
  asked : ∀ names answer,
    Answered told (.count names) answer ∨ Answered told (.remove names) answer →
      names = removal.subjects ∧ answer = .ok removal.rows

variable {backend : Backend} {catalog : Catalog} {listed : Names} {told : List Exchange}

namespace Shows

theorem contains_stale_iff (shows : backend.Shows catalog) {subject : String} :
    Table.contains (catalog.known.without listed) subject = true ↔
      Table.contains listed subject = false ∧
        ∃ table, ∃ row ∈ backend.rows table, row.subject = .text subject := by
  rw [Names.contains_without, shows.contains_known_iff, and_comm]

/-- A row stays when its subject is listed. -/
theorem not_stale_of_row (shows : backend.Shows catalog) {table : SubjectTable} {row : Row}
    (isRow : row ∈ backend.rows table) :
    (!row.subject.names (catalog.known.without listed).toList) =
      row.subject.names listed.toList := by
  obtain ⟨name, isName, known⟩ := shows.subject_of_row isRow
  rw [Cell.names_toList _ name row isName, Cell.names_toList _ name row isName, Bool.eq_iff_iff,
    Bool.not_eq_true', Bool.eq_false_iff, ne_eq, Names.contains_without]
  simp [known]

theorem filter_stale (shows : backend.Shows catalog) (table : SubjectTable) :
    ((backend.rows table).filter fun row =>
      !row.subject.names (catalog.known.without listed).toList) =
        backend.listedRows listed table :=
  List.filter_congr fun _ isRow => shows.not_stale_of_row isRow

theorem hasStale_iff (shows : backend.Shows catalog) :
    backend.HasStale listed ↔ (catalog.known.without listed).size ≠ 0 := by
  constructor
  · rintro ⟨table, row, isRow, unlisted⟩ nothing
    rw [← shows.not_stale_of_row isRow, Names.eq_empty nothing] at unlisted
    have none : Names.toList .empty = [] := rfl
    rw [none, Cell.names_nil] at unlisted
    cases unlisted
  · intro some
    obtain ⟨entry, isEntry⟩ := List.exists_mem_of_length_pos (Nat.pos_of_ne_zero some)
    have isStale : Table.contains (catalog.known.without listed) entry.1 = true :=
      Names.contains_iff_mem_toList.2 (List.mem_map_of_mem isEntry)
    obtain ⟨unlisted, table, row, isRow, isSubject⟩ := shows.contains_stale_iff.1 isStale
    refine ⟨table, row, isRow, ?_⟩
    rw [Cell.names_toList listed entry.1 row isSubject, unlisted]

/-- What is left without the stale subjects, and what goes with them. -/
theorem reconciled {after : Backend} {catalog' : Catalog} {stale : Names}
    (shows : backend.Shows catalog) (isStale : stale = catalog.known.without listed)
    (showsAfter : after.Shows catalog')
    (left : ∀ table, after.rows table =
      (backend.rows table).filter fun row => !row.subject.names stale.toList)
    (previewed : backend.HasStale listed →
      Answered told (.count stale) (.ok (backend.countOf stale)))
    (asked : ∀ names answer,
      Answered told (.count names) answer ∨ Answered told (.remove names) answer →
        names = stale ∧ answer = .ok (backend.countOf stale)) :
    Reconciled listed backend told ⟨stale, backend.countOf stale⟩ after := by
  subst isStale
  have rows (table : SubjectTable) : after.rows table = backend.listedRows listed table :=
    (left table).trans (shows.filter_stale table)
  refine ⟨rows, ⟨_, congrArg Prod.fst showsAfter.keeper_known, fun subject known => ?_⟩,
    ⟨_, congrArg Prod.fst shows.keeper_known, rfl⟩, fun subject => shows.contains_stale_iff,
    fun table => ?_, previewed, asked⟩
  · obtain ⟨table, row, isRow, isSubject⟩ := showsAfter.contains_known_iff.1 known
    rw [rows] at isRow
    rw [← Cell.names_toList listed subject row isSubject]
    exact (List.mem_filter.1 isRow).2
  · rw [of_countOf, left]
    exact (List.length_eq_length_filter_add _).symm

theorem reconciled_nothing (shows : backend.Shows catalog)
    (nothing : catalog.known.without listed = .empty)
    (unasked : ∀ names answer,
      ¬Answered told (.count names) answer ∧ ¬Answered told (.remove names) answer) :
    Reconciled listed backend told .none backend := by
  have none : ¬backend.HasStale listed := by
    rw [shows.hasStale_iff, nothing]
    exact fun some => some rfl
  have whole (table : SubjectTable) : backend.rows table =
      (backend.rows table).filter fun row => !row.subject.names (Names.toList .empty) :=
    (List.filter_eq_self.2 fun row _ => congrArg not row.subject.names_nil).symm
  have reconciled := shows.reconciled nothing.symm shows whole (fun stale => absurd stale none)
    fun names answer asked =>
      asked.elim (fun counted => absurd counted (unasked names answer).1)
        fun removed => absurd removed (unasked names answer).2
  rw [countOf_empty] at reconciled
  exact reconciled

end Shows

/-- No request has failed. -/
def Unfailed (told : List Exchange) : Prop :=
  ∀ request error, ¬Answered told request (.error error)

theorem unfailed_nil : Unfailed [] := fun _ _ => not_answered_nil

theorem Unfailed.report (unfailed : Unfailed told) (event : Event) :
    Unfailed (told ++ [⟨.report event, ()⟩]) := fun request error answered =>
  (answered_append.1 answered).elim (unfailed request error) not_answered_report

theorem Unfailed.ok (unfailed : Unfailed told) (request : Request) (value : request.Answer) :
    Unfailed (told ++ [⟨.store request, .ok value⟩]) := by
  intro other error answered
  rcases answered_append.1 answered with old | new
  · exact unfailed other error old
  · cases List.mem_singleton.1 new

/-- As long as nothing has been removed the catalog is the same. -/
theorem Reconciling.same (quiet : ¬backend.HasStale listed → ∀ names answer,
    ¬Answered told (.count names) answer ∧ ¬Answered told (.remove names) answer) :
    Reconciling listed backend told backend :=
  ⟨.inl rfl, fun _ _ _ => rfl, fun nothing => ⟨rfl, quiet nothing⟩⟩

theorem Reconciling.cleared {after : Backend} (stale : backend.HasStale listed)
    (rows : ∀ table, after.rows table = backend.listedRows listed table)
    (unfailed : Unfailed told) : Reconciling listed backend told after :=
  ⟨.inr rows, fun request error answered => absurd answered (unfailed request error),
    fun nothing => absurd stale nothing⟩

theorem keeps_reconcile (shows : backend.Shows catalog) (listed : Names) :
    Keeps (Reconciling listed backend)
      (fun result told after => match result with
        | .error error => ∃ request, Answered told request (.error error)
        | .ok removal => Reconciled listed backend told removal after)
      (Program.reconcile listed) [] backend := by
  have sized : backend.HasStale listed ↔ _ := shows.hasStale_iff
  refine keeps_bind.2 (keeps_bind.2 (keeps_store shows ?_ ?_))
  · intro error
    refine ⟨.same fun _ names answer => ?_, .known, answered_last [] .known _⟩
    simp [Answered]
  · intro known after carried
    cases carried.symm.trans shows.keeper_known
    have quiet (names : Names) (answer : Except StoreError RowCounts) :
        ¬Answered ([] ++ [⟨.store .known, .ok catalog.known⟩]) (.count names) answer ∧
          ¬Answered ([] ++ [⟨.store .known, .ok catalog.known⟩]) (.remove names) answer := by
      simp [Answered]
    refine ⟨.same fun _ => quiet, ?_⟩
    change Keeps _ _ (if (catalog.known.without listed).size = 0 then _ else _) _ _
    generalize isStale : catalog.known.without listed = stale at sized ⊢
    split
    · rename_i nothing
      exact shows.reconciled_nothing (isStale.trans (Names.eq_empty nothing)) quiet
    · rename_i some
      have stands : backend.HasStale listed := sized.2 some
      have same {told : List Exchange} : Reconciling listed backend told backend :=
        .same fun nothing => absurd stands nothing
      refine keeps_bind.2 (keeps_store shows ?_ ?_)
      · intro error
        exact ⟨same, .count stale, answered_last _ (.count stale) _⟩
      · intro preview after carried
        cases carried.symm.trans (shows.keeper_count stale)
        have counted := (unfailed_nil.ok .known catalog.known).ok (.count stale)
          (backend.countOf stale)
        refine ⟨same, keeps_bind.2 (keeps_report same (keeps_bind.2 (keeps_store shows ?_ ?_)))⟩
        · intro error
          exact ⟨same, .remove stale, answered_last _ (.remove stale) _⟩
        · intro rows after carried
          obtain ⟨_, removed, showsAfter, left⟩ := shows.keeper_remove stale
          cases carried.symm.trans removed
          have cleared (table : SubjectTable) :
              after.rows table = backend.listedRows listed table := by
            rw [left, ← isStale, shows.filter_stale]
          have done (event : Event) :=
            (counted.report event).ok (.remove stale) (backend.countOf stale)
          refine ⟨.cleared stands cleared (done _),
            keeps_bind.2 (keeps_report (.cleared stands cleared ((done _).report _)) ?_)⟩
          refine shows.reconciled isStale.symm showsAfter left (fun _ => ?_) ?_
          · simp [Answered]
          · intro names answer
            simp [Answered]

/-- Where nothing is stale, a reconciliation has nothing to do. -/
theorem Course.reconcile_again {later : Backend} {rest : Program (Except StoreError Removal)}
    (shows : backend.Shows catalog) (nothing : ¬backend.HasStale listed)
    (course : Course (Program.reconcile listed) backend told rest later) :
    later = backend ∧ ∀ removal, rest = .done (.ok removal) → removal = .none := by
  have first : Reconciling listed backend [] backend :=
    .same fun _ _ _ => ⟨not_answered_nil, not_answered_nil⟩
  obtain ⟨moment, keeps⟩ := course.kept first (keeps_reconcile shows listed)
  obtain ⟨rfl, -⟩ := moment.quiet nothing
  refine ⟨rfl, fun removal done => ?_⟩
  subst done
  obtain ⟨-, -, -, orphans, counted, -, -⟩ := (keeps : Reconciled listed later told removal later)
  have none : removal.subjects = .empty := Names.eq_of_contains fun subject => by
    rw [orphans]
    constructor
    · rintro ⟨unlisted, table, row, isRow, isSubject⟩
      have stale := (Cell.names_toList listed subject row isSubject).trans unlisted
      exact absurd ⟨table, row, isRow, stale⟩ nothing
    · intro within
      cases within
  have zero : removal.rows = .zero := RowCounts.eq_of_tables fun table => by
    have same := counted table
    have zero : RowCounts.zero.of table = 0 := by cases table <;> rfl
    omega
  cases removal
  rw [Removal.none, ← none, ← zero]

end Backend

open Backend

/-- A reconciliation with any list of subjects, in memory or in a database and up to any moment, has
removed all rows of the subjects that are not listed and no other row, or nothing. Whichever request
fails, nothing is removed. A result says what was removed and how many rows went, as they had been
counted before; and whoever reconciles again finds nothing to remove. -/
theorem reconciliation_is_exact {before after : Backend} (reached : before.Reached) (listed : Names)
    {told : List Exchange} {rest : Program (Except StoreError Removal)}
    (course : Backend.Course (Program.reconcile listed) before told rest after) :
    Backend.Reconciling listed before told after ∧
      (∀ error, rest = .done (.error error) → ∃ request, Answered told request (.error error)) ∧
      ∀ removal, rest = .done (.ok removal) →
        Backend.Reconciled listed before told removal after ∧
          ∀ told' rest' later, Backend.Course (Program.reconcile listed) after told' rest' later →
            later = after ∧ ∀ removal', rest' = .done (.ok removal') → removal' = .none := by
  obtain ⟨catalog, shows⟩ := reached.shows
  have first : Reconciling listed before [] before :=
    .same fun _ _ _ => ⟨not_answered_nil, not_answered_nil⟩
  obtain ⟨moment, keeps⟩ := course.kept first (keeps_reconcile shows listed)
  refine ⟨moment, ?_, ?_⟩
  · rintro error rfl
    exact keeps
  · rintro removal rfl
    have reconciled : Backend.Reconciled listed before told removal after := keeps
    obtain ⟨catalog', shows'⟩ := (course.reached reached).shows
    refine ⟨reconciled, fun told' rest' later again => again.reconcile_again shows' ?_⟩
    rintro ⟨table, row, isRow, unlisted⟩
    rw [reconciled.rows, listedRows, List.mem_filter, unlisted] at isRow
    exact absurd isRow.2 Bool.false_ne_true

/-- An artifact of a subject without versions is stale, and the rows of a listed subject stay. -/
theorem reconciliation_is_exact_of_orderRequests :
    let before := Backend.durable (Database.keeper.after (orderRequests.take 8) .fresh)
    let outcome := (Program.reconcile (Names.ofList ["orders"])).run Backend.hostAlone 0 before
    before.Reached ∧ ∃ told removal, outcome.1 = .ok removal ∧
      Backend.Course (Program.reconcile (Names.ofList ["orders"])) before told (.done outcome.1)
        outcome.2.2 ∧
      Backend.Reconciled (Names.ofList ["orders"]) before told removal outcome.2.2 ∧
      removal.subjects = Names.ofList ["drafts"] ∧ removal.rows = ⟨0, 0, 1, 0⟩ := by
  intro before outcome
  have opened : openDatabase (.standard "catalog.db") .available .blank = (.ok (), .fresh) :=
    openDatabase_blank (by decide +kernel)
  have reached : before.Reached := by
    dsimp only [before]
    rw [← Backend.after_durable]
    exact (Backend.Reached.opened opened).after _
  have begun : Backend.Course (Program.reconcile (Names.ofList ["orders"])) before [] _ before :=
    .start
  obtain ⟨told, course⟩ := begun.run (fun _ => .timedOut) 0
  have result : outcome.1.toOption.map (fun removal => (removal.subjects, removal.rows)) =
      some (Names.ofList ["drafts"], ⟨0, 0, 1, 0⟩) := by decide +kernel
  obtain ⟨-, -, done⟩ := reconciliation_is_exact reached _ course
  cases ended : outcome.1 with
  | error error =>
    rw [ended] at result
    cases result
  | ok removal =>
    rw [ended] at result
    obtain ⟨subjects, rows⟩ := Prod.mk.inj (Option.some.inj result)
    refine ⟨reached, told, removal, rfl, ?_, (done removal ?_).1, subjects, rows⟩
    · rw [← ended]
      exact course
    · exact congrArg Program.done ended

end SchemaLedger
