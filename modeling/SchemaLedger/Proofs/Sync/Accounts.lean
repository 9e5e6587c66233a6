import Mathlib.Algebra.Order.BigOperators.Group.List
import Mathlib.Algebra.Order.Group.Nat
import SchemaLedger.Proofs.Catalog.Rows
import SchemaLedger.Proofs.Sync.Conduct

namespace SchemaLedger

namespace Exchange

/-- A version came that was not there. -/
def inserts : Exchange → Bool
  | ⟨.store (.put _), .ok .inserted⟩ => true
  | _ => false

/-- A version could not be written. -/
def failsWriting : Exchange → Bool
  | ⟨.store (.put _), .error _⟩ => true
  | _ => false

/-- The settings of a subject could not be written. -/
def failsUpdating : Exchange → Bool
  | ⟨.store (.update _ _), .error _⟩ => true
  | _ => false

/-- A request failed. -/
def fails : Exchange → Bool
  | ⟨.store _, .error _⟩ => true
  | _ => false

end Exchange

/-- Ends that are counted as an error. -/
def Outcome.broken : Outcome → Bool
  | .synced _ _ => false
  | .interrupted _ _ _ => true
  | .skipped _ => false
  | .failed _ => true

/-- The errors of a task: each version and the settings that could not be written, and a bad end. -/
def Task.errors (task : Task) : Nat :=
  task.told.countP Exchange.failsWriting + (task.told.any Exchange.failsUpdating).toNat +
    match task.rest with
    | .done worked => worked.outcome.broken.toNat
    | .perform _ _ => 0

/-- A report gives each count in the one field that is meant for it: what a tally counted modulo two
to the 64, and what was removed up to the greatest word. -/
structure RunReport.Gives (report : RunReport) (tally : Tally) (removal : Removal) : Prop where
  subjectsSeen : report.subjectsSeen = .ofNat tally.subjectsSeen
  subjectsNew : report.subjectsNew = .ofNat tally.subjectsNew
  subjectsRemoved : report.subjectsRemoved =
    .ofNat (min removal.subjects.size 18446744073709551615)
  versionsSeen : report.versionsSeen = .ofNat tally.versionsSeen
  versionsNew : report.versionsNew = .ofNat tally.versionsNew
  versionsRemoved : report.versionsRemoved = .ofNat (min removal.rows.versions 18446744073709551615)
  artifactsRemoved : report.artifactsRemoved =
    .ofNat (min removal.rows.artifacts 18446744073709551615)
  remarksRemoved : report.remarksRemoved = .ofNat (min removal.rows.remarks 18446744073709551615)
  errors : report.errors = .ofNat tally.errors
  removedSubjects : report.removedSubjects = removal.subjects

theorem Summary.report_gives (summary : Summary) :
    summary.report.Gives summary.tally summary.removal :=
  ⟨rfl, rfl, rfl, rfl, rfl, rfl, rfl, rfl, rfl, rfl⟩

/-- Exchanges that no count depends on. -/
def Uneventful (told : List Exchange) : Prop :=
  ∀ exchange ∈ told,
    exchange.inserts = false ∧ exchange.failsWriting = false ∧ exchange.failsUpdating = false

/-- The tally of versions that were fetched and kept, by the exchanges that it took. -/
structure Tally.CountsVersions (tally : Tally) (told : List Exchange) : Prop where
  subjectsSeen : tally.subjectsSeen = 0
  subjectsNew : tally.subjectsNew = 0
  versionsNew : tally.versionsNew = told.countP Exchange.inserts
  versionsSeen : tally.versionsNew ≤ tally.versionsSeen
  errors : tally.errors = told.countP Exchange.failsWriting
  settled : told.any Exchange.failsUpdating = false

/-- What the work on a subject with a certain mark adds to the counts, by the exchanges that it
took. -/
structure Worked.Accounts (worked : Worked) (mark : Option UInt32) (told : List Exchange) :
    Prop where
  subjectsSeen : worked.total.subjectsSeen = 0
  subjectsNew : worked.total.subjectsNew =
    if mark = none ∧ 0 < told.countP Exchange.inserts then 1 else 0
  versionsNew : worked.total.versionsNew = told.countP Exchange.inserts
  versionsSeen : worked.total.versionsNew ≤ worked.total.versionsSeen
  errors : worked.total.errors = told.countP Exchange.failsWriting +
    (told.any Exchange.failsUpdating).toNat + worked.outcome.broken.toNat

section Counts

variable {before later told : List Exchange} {a b : Tally}

theorem uneventful_nil : Uneventful [] := List.forall_mem_nil _

theorem Exchange.Quiet.uneventful (quiet : ∀ exchange ∈ later, exchange.Quiet) :
    Uneventful later := by
  intro exchange member
  have unstored := quiet exchange member
  obtain ⟨effect, answer⟩ := exchange
  cases effect with
  | store request => exact absurd rfl (unstored request)
  | query | pause | report => exact ⟨rfl, rfl, rfl⟩

theorem Uneventful.report (event : Event) : Uneventful [⟨.report event, ()⟩] := by
  intro exchange member
  cases List.mem_singleton.1 member
  exact ⟨rfl, rfl, rfl⟩

theorem Uneventful.append (first : Uneventful before) (second : Uneventful later) :
    Uneventful (before ++ later) := fun exchange member =>
  (List.mem_append.1 member).elim (first exchange) (second exchange)

theorem Uneventful.counts (uneventful : Uneventful told) :
    told.countP Exchange.inserts = 0 ∧ told.countP Exchange.failsWriting = 0 ∧
      told.any Exchange.failsUpdating = false := by
  refine ⟨List.countP_eq_zero.2 ?_, List.countP_eq_zero.2 ?_, List.any_eq_false.2 ?_⟩
  · intro exchange member
    simp [(uneventful exchange member).1]
  · intro exchange member
    simp [(uneventful exchange member).2.1]
  · intro exchange member
    simp [(uneventful exchange member).2.2]

namespace Tally.CountsVersions

theorem zero (uneventful : Uneventful told) : Tally.zero.CountsVersions told := by
  obtain ⟨inserts, writes, settled⟩ := uneventful.counts
  exact ⟨rfl, rfl, inserts.symm, Nat.le_refl _, writes.symm, settled⟩

theorem seen (uneventful : Uneventful told) : Tally.versionSeen.CountsVersions told := by
  obtain ⟨inserts, writes, settled⟩ := uneventful.counts
  exact ⟨rfl, rfl, inserts.symm, Nat.zero_le 1, writes.symm, settled⟩

theorem append (first : a.CountsVersions before) (second : b.CountsVersions later) :
    (a + b).CountsVersions (before ++ later) where
  subjectsSeen := by rw [Tally.subjectsSeen_add, first.subjectsSeen, second.subjectsSeen]
  subjectsNew := by rw [Tally.subjectsNew_add, first.subjectsNew, second.subjectsNew]
  versionsNew := by
    rw [Tally.versionsNew_add, List.countP_append, first.versionsNew, second.versionsNew]
  versionsSeen := Nat.add_le_add first.versionsSeen second.versionsSeen
  errors := by rw [Tally.errors_add, List.countP_append, first.errors, second.errors]
  settled := by rw [List.any_append, first.settled, second.settled, Bool.or_self]

theorem prepend (counts : a.CountsVersions later) (uneventful : Uneventful before) :
    a.CountsVersions (before ++ later) := by
  have whole := (zero uneventful).append counts
  have same : Tally.zero + a = a := zero_add a
  rwa [same] at whole

end Tally.CountsVersions

theorem Worked.Accounts.prepend {worked : Worked} {mark : Option UInt32}
    (accounts : worked.Accounts mark later) (uneventful : Uneventful before) :
    worked.Accounts mark (before ++ later) := by
  obtain ⟨inserts, writes, settled⟩ := uneventful.counts
  refine ⟨accounts.subjectsSeen, ?_, ?_, accounts.versionsSeen, ?_⟩
  · rw [List.countP_append, inserts, Nat.zero_add]
    exact accounts.subjectsNew
  · rw [List.countP_append, inserts, Nat.zero_add]
    exact accounts.versionsNew
  · rw [List.countP_append, writes, Nat.zero_add, List.any_append, settled, Bool.false_or]
    exact accounts.errors

end Counts

namespace Program

variable {α β : Type} {around : Surroundings}

/-- The exchanges that a program leaves behind together with its result, in whatever catalog it is
run. -/
def Leaves (around : Surroundings) (post : α → List Exchange → Prop) (program : Program α) : Prop :=
  ∀ told catalog, program.Keeps around (fun _ _ => True)
    (fun value told' _ => ∃ later, told' = told ++ later ∧ post value later) told catalog

variable {post : α → List Exchange → Prop} {program : Program α} {policy : RetryPolicy}
  {subject : String}

theorem Leaves.mono {post' : α → List Exchange → Prop} (leaves : program.Leaves around post)
    (weaker : ∀ value later, post value later → post' value later) :
    program.Leaves around post' := fun told catalog =>
  (leaves told catalog).mono fun value _ _ ⟨later, same, holds⟩ =>
    ⟨later, same, weaker value later holds⟩

theorem leaves_done {value : α} (holds : post value []) : (done value).Leaves around post :=
  fun told _ => ⟨[], (List.append_nil told).symm, holds⟩

theorem leaves_bind {f : α → Program β} {post' : β → List Exchange → Prop}
    (first : program.Leaves around post)
    (second : ∀ value later, post value later →
      (f value).Leaves around fun result more => post' result (later ++ more)) :
    (program >>= f).Leaves around post' := by
  intro told catalog
  refine keeps_bind.2 ((first told catalog).mono ?_)
  rintro value told' catalog' ⟨later, rfl, holds⟩
  refine (second value later holds (told ++ later) catalog').mono ?_
  rintro result told'' catalog'' ⟨more, rfl, after⟩
  exact ⟨later ++ more, List.append_assoc .., after⟩

theorem leaves_report (event : Event) :
    (report event).Leaves around fun _ later => Uneventful later := by
  intro told catalog
  refine (keeps_report trivial).mono ?_
  rintro _ told' catalog' ⟨rfl, rfl⟩
  exact ⟨_, rfl, .report event⟩

theorem leaves_version {number : UInt32} :
    (version policy subject number).Leaves around fun _ later => Uneventful later := by
  intro told catalog
  refine (keeps_version fun _ _ => trivial).mono ?_
  rintro found told' catalog' ⟨-, attempt, later, -, rfl, -, chatter⟩
  exact ⟨later, rfl, Exchange.Quiet.uneventful chatter.quiet⟩

theorem leaves_store (request : Request) :
    (store request).Leaves around fun answer later => later = [⟨.store request, answer⟩] :=
  fun _ _ answer _ _ => ⟨trivial, [⟨.store request, answer⟩], rfl, rfl⟩

theorem leaves_keep {number : UInt32} {registered : Registered} :
    (keep subject number registered).Leaves around Tally.CountsVersions := by
  unfold keep
  split
  · refine leaves_bind (leaves_report _) fun _ later uneventful => leaves_done ?_
    rw [List.append_nil]
    exact .seen uneventful
  · rename_i row built
    refine leaves_bind (leaves_store _) fun answer later same => ?_
    subst same
    match answer with
    | .ok .inserted => exact leaves_done ⟨rfl, rfl, rfl, Nat.le_refl 1, rfl, rfl⟩
    | .ok .alreadyPresent => exact leaves_done ⟨rfl, rfl, rfl, Nat.zero_le 1, rfl, rfl⟩
    | .error error =>
      refine leaves_bind (leaves_report _) fun _ later uneventful => leaves_done ?_
      rw [List.append_nil]
      have failed : (Tally.versionSeen + Tally.error).CountsVersions
          [⟨.store (.put row), .error error⟩] := ⟨rfl, rfl, rfl, Nat.zero_le 1, rfl, rfl⟩
      exact failed.append (.zero uneventful)

theorem leaves_fetchFrom (count : Nat) (number : UInt32) (tally : Tally) :
    (fetchFrom policy subject count number tally).Leaves around fun result later =>
      ∃ counted : Tally, result.1 = tally + counted ∧ counted.CountsVersions later := by
  induction count generalizing number tally with
  | zero => exact leaves_done ⟨.zero, rfl, .zero uneventful_nil⟩
  | succ count ih =>
    refine leaves_bind leaves_version fun found before uneventful => ?_
    cases found with
    | found registered =>
      refine leaves_bind leaves_keep fun kept later counts => ?_
      refine (ih (number + 1) (tally + kept)).mono fun result more ⟨counted, total, rest⟩ => ?_
      refine ⟨kept + counted, ?_, (counts.append rest).prepend uneventful⟩
      rw [total, add_assoc]
    | notFound =>
      refine leaves_bind (leaves_report _) fun _ later noted => ?_
      refine (ih (number + 1) tally).mono fun result more ⟨counted, total, rest⟩ => ?_
      exact ⟨counted, total, (rest.prepend noted).prepend uneventful⟩
    | unavailable =>
      refine leaves_bind (leaves_report _) fun _ later noted => leaves_done ?_
      rw [List.append_nil]
      exact ⟨.zero, rfl, .zero (uneventful.append noted)⟩

theorem leaves_config :
    (config policy subject).Leaves around fun _ later => Uneventful later := by
  intro told catalog
  refine (keeps_config fun _ _ => trivial).mono ?_
  rintro _ told' catalog' ⟨-, later, rfl, chatter⟩
  exact ⟨later, rfl, Exchange.Quiet.uneventful chatter.quiet⟩

theorem leaves_mode :
    (mode policy subject).Leaves around fun _ later => Uneventful later := by
  intro told catalog
  refine (keeps_mode fun _ _ => trivial).mono ?_
  rintro _ told' catalog' ⟨-, later, rfl, chatter⟩
  exact ⟨later, rfl, Exchange.Quiet.uneventful chatter.quiet⟩

/-- What the settings of a subject add to the counts: an error if they could not be written. -/
def CountsSettings (tally : Tally) (told : List Exchange) : Prop :=
  tally = ⟨0, 0, 0, 0, (told.any Exchange.failsUpdating).toNat⟩ ∧
    told.countP Exchange.inserts = 0 ∧ told.countP Exchange.failsWriting = 0

theorem CountsSettings.enclose {tally : Tally} {before own later : List Exchange}
    (counts : CountsSettings tally own) (first : Uneventful before) (last : Uneventful later) :
    CountsSettings tally (before ++ (own ++ later)) := by
  obtain ⟨inserts, writes, settled⟩ := first.counts
  obtain ⟨laterInserts, laterWrites, laterSettled⟩ := last.counts
  obtain ⟨same, noInserts, noWrites⟩ := counts
  refine ⟨?_, ?_, ?_⟩
  · rw [same, List.any_append, List.any_append, settled, laterSettled, Bool.false_or, Bool.or_false]
  · rw [List.countP_append, List.countP_append, inserts, noInserts, laterInserts]
  · rw [List.countP_append, List.countP_append, writes, noWrites, laterWrites]

theorem leaves_refresh : (refresh policy subject).Leaves around CountsSettings := by
  refine leaves_bind leaves_config fun config before quiet => ?_
  refine leaves_bind leaves_mode fun mode between quiet' => ?_
  refine leaves_bind (leaves_store _) fun answer own same => ?_
  subst same
  have enclosed {tally : Tally} {later : List Exchange} (noted : Uneventful later)
      (counts : CountsSettings tally [⟨.store (.update subject _), answer⟩]) :
      CountsSettings tally
        (before ++ (between ++ ([⟨.store (.update subject _), answer⟩] ++ later))) := by
    rw [← List.append_assoc before]
    exact counts.enclose (quiet.append quiet') noted
  match answer with
  | .ok true => exact leaves_done (enclosed uneventful_nil ⟨rfl, rfl, rfl⟩)
  | .ok false =>
    refine leaves_bind (leaves_report _) fun _ later noted => leaves_done ?_
    rw [List.append_nil]
    exact enclosed noted ⟨rfl, rfl, rfl⟩
  | .error error =>
    refine leaves_bind (leaves_report _) fun _ later noted => leaves_done ?_
    rw [List.append_nil]
    exact enclosed noted ⟨rfl, rfl, rfl⟩

/-- The work on a subject adds up what its versions and its settings count. -/
theorem CountsSettings.accounts {fetched refreshed : Tally} {before later : List Exchange}
    {outcome : Outcome} {mark : Option UInt32} (settings : CountsSettings refreshed later)
    (counts : fetched.CountsVersions before)
    (ends : outcome.tally = (if mark.isNone && 0 < fetched.versionsNew then .subjectNew else .zero) +
      if outcome.broken then .error else .zero) :
    (⟨outcome, fetched + refreshed⟩ : Worked).Accounts mark (before ++ later) := by
  obtain ⟨rfl, noInserts, noWrites⟩ := settings
  have inserts : (before ++ later).countP Exchange.inserts = fetched.versionsNew := by
    rw [List.countP_append, noInserts, counts.versionsNew, Nat.add_zero]
  have writes : (before ++ later).countP Exchange.failsWriting = fetched.errors := by
    rw [List.countP_append, noWrites, counts.errors, Nat.add_zero]
  have settled : (before ++ later).any Exchange.failsUpdating =
      later.any Exchange.failsUpdating := by
    rw [List.any_append, counts.settled, Bool.false_or]
  have total : (⟨outcome, fetched + ⟨0, 0, 0, 0, (later.any Exchange.failsUpdating).toNat⟩⟩ :
      Worked).total = ⟨0, if mark = none ∧ 0 < fetched.versionsNew then 1 else 0,
        fetched.versionsSeen, fetched.versionsNew,
        fetched.errors + (later.any Exchange.failsUpdating).toNat + outcome.broken.toNat⟩ := by
    have created : (mark.isNone && decide (0 < fetched.versionsNew)) =
        decide (mark = none ∧ 0 < fetched.versionsNew) := by
      cases mark <;> simp
    have seen := counts.subjectsSeen
    have new := counts.subjectsNew
    rw [Worked.total, ends, created]
    by_cases fresh : mark = none ∧ 0 < fetched.versionsNew <;> cases outcome.broken <;> ext <;>
      simp [fresh, seen, new, Tally.subjectNew, Tally.zero, Tally.error]
  refine ⟨?_, ?_, ?_, ?_, ?_⟩
  all_goals rw [total]
  · rw [inserts]
  · exact inserts.symm
  · exact counts.versionsSeen
  · rw [writes, settled]

theorem leaves_advance (mark : Option UInt32) (latest : Registered) :
    (advance policy subject mark latest).Leaves around fun worked later =>
      worked.Accounts mark later := by
  refine leaves_bind (leaves_report _) fun _ begun uneventful => ?_
  refine leaves_bind (leaves_fetchFrom _ _ _) fun result fetching fetches => ?_
  obtain ⟨fetched, missing⟩ := result
  obtain ⟨counted, total, counts⟩ := fetches
  have same : fetched = counted := total.trans (zero_add counted)
  subst same
  cases missing with
  | none =>
    refine leaves_bind leaves_keep fun kept keeping keptCounts => ?_
    refine leaves_bind leaves_refresh fun refreshed settling settings => leaves_done ?_
    rw [List.append_nil, ← List.append_assoc fetching]
    exact (settings.accounts (counts.append keptCounts) (add_zero _).symm).prepend uneventful
  | some gap =>
    have nothing : Tally.zero.CountsVersions [] := .zero uneventful_nil
    refine leaves_bind (leaves_done nothing) fun kept keeping keptCounts => ?_
    refine leaves_bind leaves_refresh fun refreshed settling settings => leaves_done ?_
    rw [List.append_nil, ← List.append_assoc fetching]
    exact (settings.accounts (counts.append keptCounts) rfl).prepend uneventful

/-- Work that wrote nothing. -/
theorem accounts_uneventful {outcome : Outcome} {mark : Option UInt32} {told : List Exchange}
    (uneventful : Uneventful told)
    (ends : outcome.tally = if outcome.broken then .error else .zero) :
    (⟨outcome, .zero⟩ : Worked).Accounts mark told := by
  have nothing : CountsSettings .zero told := by
    obtain ⟨inserts, writes, settled⟩ := uneventful.counts
    refine ⟨?_, inserts, writes⟩
    rw [settled]
    rfl
  refine nothing.accounts (.zero uneventful_nil) ?_
  have noneNew : ¬(mark.isNone && decide (0 < Tally.zero.versionsNew)) = true := by simp [Tally.zero]
  rw [if_neg noneNew, ends]
  exact (zero_add _).symm

theorem leaves_latest :
    (latest policy subject).Leaves around fun _ later => Uneventful later := by
  intro told catalog
  refine (keeps_latest fun _ _ => trivial).mono ?_
  rintro found told' catalog' ⟨-, later, rfl, chatter, -⟩
  exact ⟨later, rfl, Exchange.Quiet.uneventful chatter.quiet⟩

theorem Leaves.accounts {program : Program Worked} {mark : Option UInt32} {told : List Exchange}
    {catalog : Catalog}
    (leaves : program.Leaves around fun worked later => worked.Accounts mark later)
    (uneventful : Uneventful told) :
    program.Keeps around (fun _ _ => True) (fun worked told' _ => worked.Accounts mark told') told
      catalog := by
  refine (leaves told catalog).mono ?_
  rintro worked told' catalog' ⟨later, rfl, accounts⟩
  exact accounts.prepend uneventful

/-- What the work on a subject adds to the counts. -/
theorem Course.accounts {start catalog : Catalog} {told : List Exchange} {worked : Worked}
    (course : Course around (catchUp policy subject) start told (.done worked) catalog) :
    worked.Accounts (start.mark subject) told := by
  have keeps : (catchUp policy subject).Keeps around (fun _ _ => True)
      (fun worked told _ => worked.Accounts (start.mark subject) told) [] start := by
    refine keeps_bind.2 fun answer catalog gives => ⟨trivial, ?_⟩
    have asked : Uneventful [⟨.store (.mark subject), answer⟩] :=
      List.forall_mem_singleton.2 ⟨rfl, rfl, rfl⟩
    cases gives with
    | refused =>
      refine Leaves.accounts (leaves_bind (leaves_report _) fun _ later noted => ?_) asked
      refine leaves_done (accounts_uneventful ?_ rfl)
      rwa [List.append_nil]
    | accepted =>
      refine Leaves.accounts (leaves_bind leaves_latest fun found before sought => ?_) asked
      cases found with
      | notFound | unavailable =>
        refine leaves_done (accounts_uneventful ?_ rfl)
        rwa [List.append_nil]
      | found latest =>
        change Leaves _ _ (if (start.mark subject).any (latest.version ≤ ·) then _ else _)
        split
        · refine leaves_bind (leaves_report _) fun _ later noted => leaves_done ?_
          rw [List.append_nil]
          exact accounts_uneventful (sought.append noted) rfl
        · exact (leaves_advance _ _).mono fun worked later accounts => accounts.prepend sought
  exact course.kept_done trivial keeps

end Program

/-- What a program about one subject is told tells what becomes of the shelf. -/
theorem Surroundings.Gives.fills {around : Surroundings} {told : List Exchange}
    {catalog catalog' : Catalog} {effect : Effect} {answer : effect.Answer} {subject : String}
    (gives : around.Gives told catalog effect answer catalog') (about : effect.About subject) :
    (catalog.shelf subject).Fills (catalog'.shelf subject)
      ([⟨effect, answer⟩].countP Exchange.inserts) := by
  cases gives with
  | replied | paused | reported => exact .refl _
  | @refused request => cases request <;> exact .refl _
  | @accepted request =>
    have fills := catalog.fills_perform about
    cases request with
    | put row =>
      generalize catalog.perform (.put row) = result at fills ⊢
      obtain ⟨outcome, after⟩ := result
      cases outcome <;> exact fills
    | _ => exact fills

theorem Program.Course.fills {α : Type} {around : Surroundings} {program rest : Program α}
    {start catalog : Catalog} {told : List Exchange} {subject : String}
    (course : Course around program start told rest catalog) (about : program.About subject) :
    (start.shelf subject).Fills (catalog.shelf subject) (told.countP Exchange.inserts) := by
  induction course with
  | start => exact .refl _
  | next previous gives ih =>
    rw [List.countP_append]
    exact ih.trans (gives.fills (previous.only about).1)

/-- The end of an opening that began in the catalog `start`. Either there is no list and nothing is
done, or the lost subjects are counted and removed. None are lost when a request has failed. -/
inductive Reconciled (start : Catalog) :
    Option Names × Summary → List Exchange → Catalog → Prop
  | unlisted {told} : (∀ subjects, ¬Heard told .subjects (.answered subjects)) →
      Reconciled start (none, ⟨.error, .none⟩) told start
  | listed {told subjects lost} : Heard told .subjects (.answered subjects) →
      lost = (if told.any Exchange.fails then .empty
        else start.known.without (.ofList subjects)) →
      Reconciled start (some (.ofList subjects),
        ⟨⟨(Names.ofList subjects).size, 0, 0, 0, (told.any Exchange.fails).toNat⟩,
          ⟨lost, start.count lost⟩⟩) told (start.remove lost).2

theorem Reconciled.of_calm {start : Catalog} {told : List Exchange} {subjects : List String}
    (heard : Heard told .subjects (.answered subjects))
    (calm : told.any Exchange.fails = false) :
    Reconciled start (some (.ofList subjects), ⟨.subjects (Names.ofList subjects).size,
      ⟨start.known.without (.ofList subjects), start.count (start.known.without (.ofList subjects))⟩⟩)
      told (start.remove (start.known.without (.ofList subjects))).2 := by
  have ended : Reconciled start _ told _ := .listed heard rfl
  rwa [calm] at ended

theorem Reconciled.of_failed {start : Catalog} {told : List Exchange} {subjects : List String}
    (heard : Heard told .subjects (.answered subjects))
    (failed : told.any Exchange.fails = true) :
    Reconciled start (some (.ofList subjects),
      ⟨.subjects (Names.ofList subjects).size + .error, .none⟩) told start := by
  have ended : Reconciled start _ told _ := .listed heard rfl
  have counted : start.count .empty = .zero := congrArg Prod.fst (Catalog.remove_empty start)
  rwa [failed, if_pos rfl, counted, Catalog.remove_empty] at ended

namespace Program

variable {around : Surroundings} {policy : RetryPolicy} {start : Catalog} {told : List Exchange}

theorem keeps_removal (listed : Names) :
    (reconcile listed).Keeps around (fun _ _ => True)
      (fun result told' catalog' => ∃ later, told' = told ++ later ∧ match result with
        | .ok removal => later.any Exchange.fails = false ∧
          removal = ⟨start.known.without listed, start.count (start.known.without listed)⟩ ∧
          catalog' = (start.remove (start.known.without listed)).2
        | .error _ => later.any Exchange.fails = true ∧ catalog' = start)
      told start := by
  refine keeps_bind.2 (keeps_bind.2 fun answer catalog gives => ⟨trivial, ?_⟩)
  cases gives with
  | refused => exact ⟨_, rfl, rfl, rfl⟩
  | accepted =>
    change Keeps _ _ _ (if (start.known.without listed).size = 0 then _ else _) _ _
    split
    · rename_i nothing
      have counted : start.count .empty = .zero := congrArg Prod.fst (Catalog.remove_empty start)
      rw [Names.eq_empty nothing, Catalog.remove_empty, counted]
      exact ⟨_, rfl, rfl, rfl, rfl⟩
    · refine keeps_bind.2 fun answer catalog gives => ⟨trivial, ?_⟩
      cases gives with
      | refused => exact ⟨_, List.append_assoc .., rfl, rfl⟩
      | accepted =>
        refine keeps_bind.2 ((keeps_report trivial).mono ?_)
        rintro _ told' catalog' ⟨rfl, rfl⟩
        refine keeps_bind.2 fun answer catalog gives => ⟨trivial, ?_⟩
        rw [List.append_assoc told, List.append_assoc told, List.append_assoc told]
        cases gives with
        | refused => exact ⟨_, rfl, rfl, rfl⟩
        | accepted =>
          refine keeps_bind.2 ((keeps_report trivial).mono ?_)
          rintro _ told' catalog' ⟨rfl, rfl⟩
          exact ⟨_, List.append_assoc .., rfl, rfl, rfl⟩

theorem keeps_reconciled :
    (opening policy).Keeps around (fun _ _ => True)
      (fun result told catalog => Reconciled start result told catalog) [] start := by
  refine keeps_bind.2 (keeps_bind.2 fun attempt catalog gives => ⟨trivial, ?_⟩)
  cases gives
  have asked : [] ++ [⟨.query policy.listTimeout .subjects, attempt⟩] =
      [(⟨.query policy.listTimeout .subjects, attempt⟩ : Exchange)] := List.nil_append _
  rw [asked]
  cases attempt with
  | timedOut | failed error =>
    refine keeps_bind.2 ((keeps_report trivial).mono ?_)
    rintro _ told' catalog' ⟨rfl, rfl⟩
    refine keeps_bind.2 ((keeps_report trivial).mono ?_)
    rintro _ told' catalog' ⟨rfl, rfl⟩
    refine .unlisted fun subjects heard => ?_
    rcases heard_append.1 heard with first | last
    · rcases heard_append.1 first with own | noted
      · cases heard_singleton.1 own
      · exact not_heard_report noted
    · exact not_heard_report last
  | answered subjects =>
    have heard : Heard [⟨.query policy.listTimeout .subjects, .answered subjects⟩] .subjects
        (.answered subjects) := heard_singleton.2 rfl
    refine keeps_bind.2 ((keeps_removal (.ofList subjects)).mono ?_)
    rintro result told' catalog' ⟨later, rfl, ends⟩
    cases result with
    | ok removal =>
      obtain ⟨calm, rfl, rfl⟩ := ends
      refine .of_calm (heard.append later) ?_
      rw [List.any_append, calm]
      rfl
    | error error =>
      obtain ⟨failed, rfl⟩ := ends
      refine keeps_bind.2 ((keeps_report trivial).mono ?_)
      rintro _ told' catalog'' ⟨rfl, rfl⟩
      refine .of_failed ((heard.append later).append _) ?_
      rw [List.any_append, List.any_append, failed]
      rfl

theorem Course.reconciled {result : Option Names × Summary} {catalog : Catalog}
    (course : Course around (opening policy) start told (.done result) catalog) :
    Reconciled start result told catalog :=
  course.kept_done trivial keeps_reconciled

end Program

/-- The subjects that a pass removes when it has heard of the listed ones. -/
def Pass.lost (pass : Pass) (start : Catalog) (subjects : List String) : Names :=
  if pass.told.any Exchange.fails then .empty else start.known.without (.ofList subjects)

theorem Task.total_of_done {task : Task} {worked : Worked} (done : task.rest = .done worked) :
    task.total = worked.total := by
  unfold Task.total Task.result?
  rw [done]

theorem Tally.sum_field (field : Tally → Nat) (zero : field 0 = 0)
    (add : ∀ a b, field (a + b) = field a + field b) (tallies : List Tally) :
    field tallies.sum = (tallies.map field).sum := by
  induction tallies with
  | nil => exact zero
  | cons tally rest ih => rw [List.sum_cons, add, ih, List.map_cons, List.sum_cons]

namespace Pass.Reach

variable {around : Surroundings} {policy : RunPolicy} {start catalog : Catalog} {pass : Pass}

/-- A finished task has counted what happened to the shelf of its subject. -/
theorem accounts (reach : Reach around policy start pass catalog) {task : Task}
    (member : task ∈ pass.tasks) {worked : Worked} (done : task.rest = .done worked) :
    worked.Accounts (start.mark task.subject) task.told ∧
      (start.shelf task.subject).Fills (catalog.shelf task.subject)
        (task.told.countP Exchange.inserts) := by
  obtain ⟨-, opened, own, course, before, after⟩ := reach.course member
  rw [done] at course
  have fills := course.fills Program.about_catchUp
  have accounts := course.accounts
  rw [Catalog.mark_eq, before, ← Catalog.mark_eq] at accounts
  rw [before, after] at fills
  exact ⟨accounts, fills⟩

/-- A count that is told task by task. -/
theorem sum_totals (reach : Reach around policy start pass catalog) (finished : pass.Finished)
    (field : Tally → Nat) (zero : field 0 = 0) (add : ∀ a b, field (a + b) = field a + field b)
    {told : Task → Nat} (each : ∀ task ∈ pass.tasks, ∀ worked, task.rest = .done worked →
      worked.Accounts (start.mark task.subject) task.told → field worked.total = told task) :
    field (pass.tasks.map Task.total).sum = (pass.tasks.map told).sum := by
  rw [Tally.sum_field field zero add, List.map_map]
  refine congrArg List.sum (List.map_congr_left fun task member => ?_)
  obtain ⟨worked, done⟩ := reach.done_of_finished finished member
  rw [Function.comp_apply, Task.total_of_done done]
  exact each task member worked done (reach.accounts member done).1

/-- Without a list nothing happens. -/
theorem end_of_unlisted (reach : Reach around policy start pass catalog)
    (finished : pass.Finished)
    (unheard : ∀ subjects, ¬Heard pass.told .subjects (.answered subjects)) :
    catalog = start ∧ pass.summary = ⟨.error, .none⟩ := by
  cases reach.end_of_finished finished with
  | unlisted course none counts =>
    rw [counts]
    cases course.reconciled
    exact ⟨rfl, rfl⟩
  | listed course =>
    cases course.reconciled with
    | listed heard => exact absurd heard (unheard _)

theorem not_listed_of_lost {subjects : List String} {subject : String}
    (lost : Table.contains (pass.lost start subjects) subject = true) : subject ∉ subjects := by
  unfold Pass.lost at lost
  split at lost
  · cases lost
  · exact Catalog.unlisted_of_stale lost

/-- With a list, the work is shared out among its subjects, and all others are lost or left. -/
theorem end_of_listed (reach : Reach around policy start pass catalog) (finished : pass.Finished)
    {subjects : List String} (heard : Heard pass.told .subjects (.answered subjects)) :
    let lost := pass.lost start subjects
    (pass.tasks.map (·.subject)).Perm (Names.ofList subjects).toList ∧
      (∀ subject, subject ∉ subjects → catalog.shelf subject =
        if Table.contains lost subject then .empty else start.shelf subject) ∧
      pass.summary = ⟨⟨(Names.ofList subjects).size, 0, 0, 0, (pass.told.any Exchange.fails).toNat⟩ +
        (pass.tasks.map Task.total).sum, ⟨lost, start.count lost⟩⟩ := by
  cases reach.end_of_finished finished with
  | unlisted course =>
    cases course.reconciled with
    | unlisted unheard => exact absurd heard (unheard subjects)
  | @listed listed summary opened course share alone idle counts =>
    have once := course.cleared.once subjects
    cases course.reconciled with
    | @listed _ others lost heardThen isLost =>
      cases once others heard heardThen
      have same : pass.lost start subjects = lost := isLost.symm
      rw [same]
      refine ⟨share, fun subject unlisted => ?_, counts⟩
      rw [idle subject fun member => unlisted (Names.mem_toList_ofList.1 member),
        Catalog.shelf_remove]

/-- The counts of a pass, told task by task. -/
theorem tally_of_listed (reach : Reach around policy start pass catalog) (finished : pass.Finished)
    {subjects : List String} (heard : Heard pass.told .subjects (.answered subjects)) :
    let tally := pass.summary.tally
    tally.subjectsSeen = (Names.ofList subjects).size ∧
      tally.subjectsNew = (pass.tasks.map fun task => if start.mark task.subject = none ∧
        0 < task.told.countP Exchange.inserts then 1 else 0).sum ∧
      tally.versionsNew = (pass.tasks.map (·.told.countP Exchange.inserts)).sum ∧
      tally.versionsNew ≤ tally.versionsSeen ∧
      tally.errors = (pass.told.any Exchange.fails).toNat + (pass.tasks.map Task.errors).sum := by
  obtain ⟨-, -, counts⟩ := reach.end_of_listed finished heard
  have seen := reach.sum_totals finished Tally.subjectsSeen rfl Tally.subjectsSeen_add
    fun _ _ _ _ accounts => accounts.subjectsSeen
  have new := reach.sum_totals finished Tally.subjectsNew rfl Tally.subjectsNew_add
    fun _ _ _ _ accounts => accounts.subjectsNew
  have versions := reach.sum_totals finished Tally.versionsNew rfl Tally.versionsNew_add
    fun _ _ _ _ accounts => accounts.versionsNew
  have errors := reach.sum_totals finished Tally.errors rfl Tally.errors_add
    fun task member worked done accounts => by
      have own : task.errors = worked.total.errors := by
        rw [Task.errors, done]
        exact accounts.errors.symm
      exact own.symm
  have fewer : (pass.tasks.map Task.total).sum.versionsNew ≤
      (pass.tasks.map Task.total).sum.versionsSeen := by
    rw [Tally.sum_field Tally.versionsNew rfl Tally.versionsNew_add,
      Tally.sum_field Tally.versionsSeen rfl Tally.versionsSeen_add, List.map_map, List.map_map]
    refine List.sum_le_sum fun task member => ?_
    obtain ⟨worked, done⟩ := reach.done_of_finished finished member
    rw [Function.comp_apply, Function.comp_apply, Task.total_of_done done]
    exact (reach.accounts member done).1.versionsSeen
  have none : (pass.tasks.map fun _ => 0).sum = 0 := by simp
  dsimp only
  rw [counts]
  refine ⟨?_, ?_, ?_, ?_, ?_⟩
  · rw [Tally.subjectsSeen_add, seen, none, Nat.add_zero]
  · rw [Tally.subjectsNew_add, new, Nat.zero_add]
  · rw [Tally.versionsNew_add, versions, Nat.zero_add]
  · rw [Tally.versionsNew_add, Tally.versionsSeen_add, Nat.zero_add, Nat.zero_add]
    exact fewer
  · rw [Tally.errors_add, errors]

/-- What changes in the rows of a kind is what is lost and what the tasks have gained. -/
theorem changes (reach : Reach around policy start pass catalog) (finished : pass.Finished)
    {subjects : List String} (heard : Heard pass.told .subjects (.answered subjects))
    {β : Type} (rows : Shelf → List β) (none : rows .empty = []) {gained : Task → Nat}
    (grown : ∀ task ∈ pass.tasks, ∃ come, (rows (catalog.shelf task.subject)).Perm
      (rows (start.shelf task.subject) ++ come) ∧ come.length = gained task) :
    Catalog.Changes rows start catalog
      (Catalog.rowsOf rows start (pass.lost start subjects).toList).length
      (pass.tasks.map gained).sum := by
  obtain ⟨share, others, -⟩ := reach.end_of_listed finished heard
  have lost {subject : String} (member : subject ∈ (pass.lost start subjects).toList) :
      Table.contains (pass.lost start subjects) subject = true ∧ subject ∉ subjects := by
    have isLost := Names.contains_iff_mem_toList.2 member
    exact ⟨isLost, not_listed_of_lost isLost⟩
  have begun {subject : String} (member : subject ∈ pass.tasks.map (·.subject)) :
      subject ∈ subjects := Names.mem_toList_ofList.1 (share.mem_iff.1 member)
  refine Catalog.changes_of_shelves none ?_ ?_ ?_ grown
  · refine List.nodup_append'.2 ⟨Names.toList_nodup _, ?_, fun subject gone works => ?_⟩
    · exact share.nodup_iff.2 (Names.toList_nodup _)
    · exact (lost gone).2 (begun works)
  · intro subject member
    rw [others subject (lost member).2, if_pos (lost member).1]
  · intro subject kept unbegun
    have unlisted : subject ∉ subjects := fun listed =>
      unbegun (share.mem_iff.2 (Names.mem_toList_ofList.2 listed))
    rw [others subject unlisted, if_neg fun isLost => kept (Names.contains_iff_mem_toList.1 isLost)]

end Pass.Reach

theorem Names.toList_ofList_perm (names : List String) :
    (ofList names).toList.Perm names.dedup := by
  refine (List.perm_ext_iff_of_nodup (toList_nodup _) (List.nodup_dedup names)).2 fun name => ?_
  rw [mem_toList_ofList, List.mem_dedup]

/-- The counts of a pass are exact, whatever the registry answers and whichever requests fail. With
no list nothing is done and one error is counted and reported. With a list, all counts are those of
its subjects, of the rows that come and go between the two catalogs, and of what failed on the way,
and the report gives them. -/
theorem counts_of_a_pass_are_exact {around : Surroundings} {policy : RunPolicy} {catalog : Catalog}
    {pass : Pass} {requests : List Request}
    (reach : Pass.Reach around policy (Catalog.keeper.after requests .empty) pass catalog)
    (finished : pass.Finished) :
    let start := Catalog.keeper.after requests .empty
    let tally := pass.summary.tally
    let removal := pass.summary.removal
    ((∀ subjects, ¬Heard pass.told .subjects (.answered subjects)) →
      catalog = start ∧ pass.summary = ⟨⟨0, 0, 0, 0, 1⟩, ⟨.empty, ⟨0, 0, 0, 0⟩⟩⟩ ∧
        pass.summary.report = { RunReport.zero with errors := 1 }) ∧
    ∀ subjects, Heard pass.told .subjects (.answered subjects) →
      tally.subjectsSeen = subjects.dedup.length ∧
      (pass.tasks.map (·.subject)).Perm subjects.dedup ∧
      removal.subjects = (if pass.told.any Exchange.fails then .empty
        else start.known.without (.ofList subjects)) ∧
      pass.summary.report.Gives tally removal ∧
      Catalog.Changes Shelf.entered start catalog removal.rows.entries tally.subjectsNew ∧
      Catalog.Changes (·.versions.keys) start catalog removal.rows.versions tally.versionsNew ∧
      Catalog.Changes (·.artifacts) start catalog removal.rows.artifacts 0 ∧
      Catalog.Changes (·.remarks.entries) start catalog removal.rows.remarks 0 ∧
      tally.versionsNew ≤ tally.versionsSeen ∧
      tally.errors = (pass.told.any Exchange.fails).toNat + (pass.tasks.map Task.errors).sum := by
  intro start tally removal
  have sound : start.Sound := Catalog.sound_empty.after requests
  refine ⟨fun unheard => ?_, fun subjects heard => ?_⟩
  · obtain ⟨same, counts⟩ := reach.end_of_unlisted finished unheard
    refine ⟨same, counts, ?_⟩
    rw [counts]
    rfl
  obtain ⟨share, -, counts⟩ := reach.end_of_listed finished heard
  obtain ⟨seen, new, versionsNew, versionsSeen, errors⟩ := reach.tally_of_listed finished heard
  have names := Names.toList_ofList_perm subjects
  have filled (task : Task) (member : task ∈ pass.tasks) :
      (start.shelf task.subject).Fills (catalog.shelf task.subject)
        (task.told.countP Exchange.inserts) := by
    obtain ⟨worked, done⟩ := reach.done_of_finished finished member
    exact (reach.accounts member done).2
  have isRemoval : removal = ⟨pass.lost start subjects, start.count (pass.lost start subjects)⟩ :=
    congrArg Summary.removal counts
  have entries := reach.changes finished heard Shelf.entered rfl fun task member =>
    (filled task member).entered (sound.shelves _) ((reach.sound sound).shelves _)
  have versions := reach.changes finished heard (·.versions.keys) rfl fun task member =>
    (filled task member).versions
  have artifacts := reach.changes finished heard (·.artifacts) rfl
    fun task member => ⟨[], by rw [(filled task member).artifacts, List.append_nil], rfl⟩
  have remarks := reach.changes finished heard (·.remarks.entries) rfl
    fun task member => ⟨[], by rw [(filled task member).remarks, List.append_nil], rfl⟩
  have none : (pass.tasks.map fun _ => 0).sum = 0 := by simp
  have size : (Names.ofList subjects).size = subjects.dedup.length := by
    rw [← names.length_eq, Names.toList, Table.keys, List.length_map]
    rfl
  have rows := congrArg Removal.rows isRemoval
  rw [Catalog.count_eq_rowsOf] at rows
  refine ⟨seen.trans size, share.trans names, congrArg Removal.subjects isRemoval,
    pass.summary.report_gives, ?_, ?_, ?_, ?_, versionsSeen, errors⟩
  · rw [rows, new]
    exact entries
  · rw [rows, versionsNew]
    exact versions
  · rw [rows]
    exact none ▸ artifacts
  · rw [rows]
    exact none ▸ remarks

/-- Rows of every kind for a subject that the registry does not list, and a version of one that it
does. -/
def draftRequests : List Request :=
  let row (subject : String) : Snapshot :=
    ⟨subject, 1, .avro, none, "{}", "hash", none, none, none, none, none⟩
  [.put (row "drafts"), .attach ⟨"drafts", none, "diff", .null⟩, .annotate ⟨"drafts", "note", .null⟩,
    .put (row "stock")]

/-- One row of each kind is lost, one version is there already, and the only new one cannot be
written. -/
theorem counts_of_a_pass_are_exact_of_draftRequests :
    let start := Catalog.keeper.after draftRequests .empty
    ∃ pass catalog,
      Pass.Reach (Conduct.steady twoSubjects refuseOrders).around .standard start pass catalog ∧
      pass.Finished ∧ pass.summary.tally = ⟨2, 0, 1, 0, 1⟩ ∧
      pass.summary.report = ⟨2, 0, 1, 1, 0, 1, 1, 1, 1, 0, .ofList ["drafts"]⟩ ∧
      pass.summary.report.Gives pass.summary.tally pass.summary.removal ∧
      Catalog.Changes Shelf.entered start catalog 1 0 ∧
      Catalog.Changes (·.versions.keys) start catalog 1 0 ∧
      Catalog.Changes (·.artifacts) start catalog 1 0 ∧
      Catalog.Changes (·.remarks.entries) start catalog 1 0 := by
  intro start
  obtain ⟨pass, reach, finished, counts⟩ :=
    Pass.reach_runPass (Conduct.steady_within twoSubjects refuseOrders) .standard 0 start
  have tally : pass.summary.tally = ⟨2, 0, 1, 0, 1⟩ := by
    rw [counts]
    decide +kernel
  have rows : pass.summary.removal.rows = ⟨1, 1, 1, 1⟩ := by
    rw [counts]
    decide +kernel
  have reported : pass.summary.report = ⟨2, 0, 1, 1, 0, 1, 1, 1, 1, 0, .ofList ["drafts"]⟩ := by
    rw [counts]
    decide +kernel
  obtain ⟨unlisted, listed⟩ := counts_of_a_pass_are_exact reach finished
  have heard : ∃ subjects, Heard pass.told .subjects (.answered subjects) := by
    by_contra unheard
    have nothing := (unlisted fun subjects heard => unheard ⟨subjects, heard⟩).2.1
    rw [nothing] at tally
    cases tally
  obtain ⟨subjects, heard⟩ := heard
  obtain ⟨-, -, -, gives, entries, versions, artifacts, remarks, -⟩ := listed subjects heard
  rw [tally, rows] at entries versions
  rw [rows] at artifacts remarks
  exact ⟨pass, _, reach, finished, tally, reported, gives, entries, versions, artifacts, remarks⟩

end SchemaLedger
