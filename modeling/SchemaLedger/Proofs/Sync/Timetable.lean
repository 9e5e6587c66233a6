import SchemaLedger.Proofs.Sync.Conduct
import SchemaLedger.Sync.Schedule

namespace SchemaLedger

/-- No effect ends before it is begun. -/
def Host.Forward {σ : Type} (host : Host σ) : Prop :=
  ∀ effect now state, now ≤ (host effect now state).2.1

namespace Host.Forward

variable {α σ : Type} {host : Host σ} (forward : host.Forward)

include forward

theorem le_run (program : Program α) (now : Nat) (state : σ) :
    now ≤ (program.run host now state).2.1 := by
  induction program generalizing now state with
  | done value => exact Nat.le_refl now
  | perform effect next ih => exact Nat.le_trans (forward effect now state) (ih _ _ _)

theorem le_fold (shifts : List Shift) (tally : Tally) (now : Nat) (state : σ) :
    now ≤ (Crew.fold host shifts tally now state).2.1 := by
  induction shifts generalizing tally now state with
  | nil => exact Nat.le_refl now
  | cons shift rest ih =>
    have told := forward.le_run (Program.report (shift.worked.outcome.event shift.subject))
      (max now shift.ends) state
    exact Nat.le_trans (Nat.le_max_left _ _) (Nat.le_trans told (ih _ _ _))

theorem le_settle (waiting : List String) (crew : Crew) (now : Nat) (state : σ) :
    now ≤ (crew.settle host waiting now state).2.1 := by
  rw [Crew.settle]
  split
  · exact forward.le_fold crew.ended crew.tally now state
  · exact Nat.le_refl now

omit forward in
theorem le_release (size : Nat) (crew : Crew) (now : Nat) : now ≤ (crew.release size now).2 := by
  rw [Crew.release]
  split
  · split
    · exact Nat.le_max_left _ _
    · exact Nat.le_refl now
  · exact Nat.le_refl now

theorem le_work (policy : RetryPolicy) (size : Nat) (subjects : List String) (crew : Crew)
    (now : Nat) (state : σ) : now ≤ (Crew.work host policy size subjects crew now state).2.1 := by
  induction subjects generalizing crew now state with
  | nil => exact forward.le_fold _ _ _ _
  | cons subject rest ih =>
    rw [Crew.work_cons]
    have released := le_release size crew now
    have settled := forward.le_settle rest (crew.release size now).1 (crew.release size now).2 state
    exact Nat.le_trans released (Nat.le_trans settled (ih _ _ _))

theorem le_runPass (policy : RunPolicy) (now : Nat) (state : σ) :
    now ≤ (runPass host policy now state).2.1 := by
  have opened := forward.le_run (Program.opening policy.retry) now state
  unfold runPass
  generalize (Program.opening policy.retry).run host now state = result at opened ⊢
  obtain ⟨⟨listed, summary⟩, now', state'⟩ := result
  cases listed with
  | none => exact Nat.le_trans opened (forward.le_run _ _ _)
  | some listed =>
    have worked := forward.le_work policy.retry policy.crewSize listed.toList (.idle summary.tally)
      now' state'
    exact Nat.le_trans opened (Nat.le_trans worked (forward.le_run _ _ _))

theorem le_runTurn (policy : RunPolicy) (number now : Nat) (state : σ) :
    now ≤ (runTurn host policy number now state).1 :=
  Nat.le_trans (forward.le_runPass policy now state) (forward.le_run _ _ _)

end Host.Forward

/-- A pass with what is told about it: the deadline that was waited for, when it began and ended,
and what it found and left behind. -/
structure Turn (σ : Type) where
  deadline : Nat
  start : Nat
  ended : Nat
  before : σ
  after : σ

/-- The turns of a scheduler. At each choice the signal is looked at first; without it the tick
begins a pass, whose end is the next choice. -/
inductive Timetable {σ : Type} (host : Host σ) (policy : RunPolicy) (ticker : Ticker) (stop : Nat) :
    (passes deadline now : Nat) → σ → List (Turn σ) → Schedule × σ → Prop
  | stopped {passes deadline now state} : stop ≤ ticker.tick deadline now →
      Timetable host policy ticker stop passes deadline now state []
        (runStop host passes (max now stop) state)
  | turn {passes deadline now state ended after turns outcome} :
      ticker.tick deadline now < stop →
      runTurn host policy (countPass passes) (ticker.tick deadline now) state = (ended, after) →
      Timetable host policy ticker stop (countPass passes)
        (ticker.next deadline (ticker.tick deadline now)) ended after turns outcome →
      Timetable host policy ticker stop passes deadline now state
        (⟨deadline, ticker.tick deadline now, ended, state, after⟩ :: turns) outcome

theorem exists_timetable {σ : Type} (host : Host σ) (policy : RunPolicy) (ticker : Ticker)
    (stop passes deadline now : Nat) (state : σ) :
    ∃ turns, Timetable host policy ticker stop passes deadline now state turns
      (runTicking host policy ticker stop passes deadline now state) := by
  fun_induction runTicking host policy ticker stop passes deadline now state with
  | case1 passes deadline now state tick ready => exact ⟨[], .stopped ready⟩
  | case2 passes deadline now state tick waiting number ended after ran ih =>
    obtain ⟨turns, rest⟩ := ih
    exact ⟨_, .turn (Nat.lt_of_not_le waiting) ran rest⟩

/-- A turn and the one behind it. -/
structure Turn.Precedes {σ : Type} (ticker : Ticker) (earlier later : Turn σ) : Prop where
  before : later.before = earlier.after
  deadline : later.deadline = ticker.next earlier.deadline earlier.start
  start : later.start = ticker.tick later.deadline earlier.ended
  apart : earlier.ended ≤ later.start
  rises : earlier.deadline < later.deadline

namespace Timetable

variable {σ : Type} {host : Host σ} {policy : RunPolicy} {ticker : Ticker}
  {stop passes deadline now : Nat} {state : σ} {turns : List (Turn σ)} {outcome : Schedule × σ}

theorem passes_eq
    (table : Timetable host policy ticker stop passes deadline now state turns outcome)
    (fits : passes ≤ mostPasses) : outcome.1.passes = min (passes + turns.length) mostPasses := by
  induction table with
  | stopped => exact (Nat.min_eq_left fits).symm
  | turn _ _ _ ih =>
    have counted := ih (Nat.min_le_right _ _)
    rw [counted, countPass, List.length_cons]
    omega

/-- Each turn is a whole pass by its number. -/
theorem run_eq (table : Timetable host policy ticker stop passes deadline now state turns outcome)
    (fits : passes ≤ mostPasses) {i : Nat} {turn : Turn σ} (isTurn : turns[i]? = some turn) :
    runTurn host policy (min (passes + (i + 1)) mostPasses) turn.start turn.before =
      (turn.ended, turn.after) := by
  induction table generalizing i with
  | stopped => cases isTurn
  | @turn passes _ _ _ _ _ _ _ _ ran _ ih =>
    cases i with
    | zero =>
      cases isTurn
      exact ran
    | succ i =>
      have later := ih (Nat.min_le_right _ _) isTurn
      have number : min (countPass passes + (i + 1)) mostPasses =
          min (passes + (i + 1 + 1)) mostPasses := by
        rw [countPass]
        omega
      rw [← number]
      exact later

theorem waits (table : Timetable host policy ticker stop passes deadline now state turns outcome) :
    ∀ turn ∈ turns, turn.deadline ≤ turn.start ∧ turn.start < stop := by
  induction table with
  | stopped => exact List.forall_mem_nil _
  | turn waiting _ _ ih => exact List.forall_mem_cons.2 ⟨⟨ticker.due _ _, waiting⟩, ih⟩

/-- Every turn brings the deadline closer to the signal. -/
theorem length_le
    (table : Timetable host policy ticker stop passes deadline now state turns outcome) :
    turns.length ≤ stop - deadline := by
  induction table with
  | stopped => exact Nat.zero_le _
  | @turn _ deadline now _ _ _ _ _ waiting _ _ ih =>
    have due := ticker.due deadline now
    have rises := ticker.rises deadline (ticker.tick deadline now)
    rw [List.length_cons]
    omega

theorem head (table : Timetable host policy ticker stop passes deadline now state turns outcome)
    {turn : Turn σ} (first : turns.head? = some turn) :
    turn.deadline = deadline ∧ turn.start = ticker.tick deadline now ∧ turn.before = state := by
  cases table with
  | stopped => cases first
  | turn =>
    cases first
    exact ⟨rfl, rfl, rfl⟩

theorem chain (table : Timetable host policy ticker stop passes deadline now state turns outcome) :
    turns.IsChain (Turn.Precedes ticker) := by
  induction table with
  | stopped => exact .nil
  | @turn _ _ _ _ _ _ turns _ _ _ rest ih =>
    cases turns with
    | nil => exact .singleton _
    | cons later others =>
      obtain ⟨deadline, start, before⟩ := rest.head rfl
      refine .cons_cons ⟨before, deadline, deadline ▸ start, ?_, ?_⟩ ih
      · rw [start]
        exact ticker.onward _ _
      · rw [deadline]
        exact ticker.rises _ _

/-- There is no turn only where the signal comes before the first tick. -/
theorem nil_iff
    (table : Timetable host policy ticker stop passes deadline now state turns outcome) :
    turns = [] ↔ stop ≤ ticker.tick deadline now := by
  cases table with
  | stopped ready => exact iff_of_true rfl ready
  | turn waiting => exact iff_of_false (List.cons_ne_nil _ _) (Nat.not_le.2 waiting)

theorem eq_of_nil (table : Timetable host policy ticker stop passes deadline now state [] outcome) :
    outcome = runStop host passes (max now stop) state := by
  cases table
  rfl

/-- Behind the last turn the signal is there when the next tick comes. -/
theorem last (table : Timetable host policy ticker stop passes deadline now state turns outcome)
    {turn : Turn σ} (isLast : turns.getLast? = some turn) :
    stop ≤ ticker.tick (ticker.next turn.deadline turn.start) turn.ended ∧
      outcome = runStop host outcome.1.passes (max turn.ended stop) turn.after := by
  induction table with
  | stopped => cases isLast
  | @turn _ _ _ _ _ _ turns _ _ _ rest ih =>
    cases turns with
    | nil =>
      cases isLast
      have outcome := rest.eq_of_nil
      refine ⟨rest.nil_iff.1 rfl, ?_⟩
      subst outcome
      rfl
    | cons next others => exact ih isLast

end Timetable

/-- Histories of passes may be put one behind the other. -/
theorem Passes.append {around : Surroundings} {start middle catalog : Catalog}
    {early late : List Pass} (first : Passes around start early middle)
    (second : Passes around middle late catalog) : Passes around start (early ++ late) catalog := by
  induction second with
  | start => rwa [List.append_nil]
  | next _ reach ih =>
    rw [← List.append_assoc]
    exact .next ih reach

section View

variable {σ : Type} {host : Host σ} {view : σ → Catalog} {around : Surroundings}
  {policy : RunPolicy} {ticker : Ticker} {stop passes deadline now : Nat} {state : σ}
  {turns : List (Turn σ)} {outcome : Schedule × σ}

/-- A turn is a finished pass; what is told about it leaves the catalog alone. -/
theorem Pass.reach_runTurn (within : host.Within view around) (policy : RunPolicy)
    (number now : Nat) (state : σ) : ∃ pass,
      Pass.Reach around policy (view state) pass (view (runTurn host policy number now state).2) ∧
        pass.Finished := by
  obtain ⟨pass, reach, finished, -⟩ := Pass.reach_runPass within policy now state
  refine ⟨pass, ?_, finished⟩
  unfold runTurn
  generalize runPass host policy now state = result at reach ⊢
  obtain ⟨summary, now', state'⟩ := result
  dsimp only at reach ⊢
  split
  · change Pass.Reach around policy (view state) pass
      (view (host _ _ (host _ _ state').2.2).2.2)
    rw [within.report, within.report]
    exact reach
  · change Pass.Reach around policy (view state) pass (view (host _ _ state').2.2)
    rw [within.report]
    exact reach

theorem Timetable.history
    (table : Timetable host policy ticker stop passes deadline now state turns outcome)
    (within : host.Within view around) : ∃ history,
      Passes around (view state) history (view outcome.2) ∧ history.length = turns.length ∧
        ∀ pass ∈ history, pass.Finished := by
  induction table with
  | stopped =>
    refine ⟨[], ?_, rfl, List.forall_mem_nil _⟩
    change Passes around _ [] (view (host _ _ _).2.2)
    rw [within.report]
    exact .start
  | @turn passes deadline now state _ _ _ _ _ ran _ ih =>
    obtain ⟨later, history, length, finished⟩ := ih
    obtain ⟨pass, reach, whole⟩ := Pass.reach_runTurn within policy (countPass passes)
      (ticker.tick deadline now) state
    rw [ran] at reach
    refine ⟨[pass] ++ later, (Passes.next .start reach).append history, ?_, ?_⟩
    · rw [List.singleton_append, List.length_cons, List.length_cons, length]
    · exact List.forall_mem_cons.2 ⟨whole, finished⟩

end View

/-- What a scheduler has done that was begun at a moment and whose signal comes at another. -/
structure Turn.Kept {σ : Type} (host : Host σ) (policy : RunPolicy) (ticker : Ticker)
    (stop start : Nat) (state : σ) (turns : List (Turn σ)) (outcome : Schedule × σ) : Prop where
  counted : outcome.1.passes = min turns.length mostPasses
  few : turns.length ≤ stop - start
  whole : ∀ i turn, turns[i]? = some turn →
    runTurn host policy (min (i + 1) mostPasses) turn.start turn.before = (turn.ended, turn.after)
  begins : turns = [] ↔ stop ≤ start
  first : ∀ turn, turns.head? = some turn →
    turn.deadline = start ∧ turn.start = start ∧ turn.before = state
  order : turns.IsChain (Turn.Precedes ticker)
  due : ∀ turn ∈ turns, turn.deadline ≤ turn.start
  unstopped : ∀ turn ∈ turns, turn.start < stop
  none : turns = [] → outcome = runStop host 0 (max start stop) state
  last : ∀ turn, turns.getLast? = some turn →
    stop ≤ ticker.tick (ticker.next turn.deadline turn.start) turn.ended ∧
      outcome = runStop host outcome.1.passes (max turn.ended stop) turn.after

/-- Whatever the ticks, the registry, the catalog and the time that passes take are like, and
whenever the signal to stop comes: a scheduler makes a row of turns and answers how many. Each turn
is a whole pass on what the one before it has left, begun when that has ended, no earlier than its
deadline and before the signal. The first begins at once, unless the signal is already there, and
none is left out before the signal. So the catalog in the end is what these passes make of it one
after the other. The scheduler of the program is the case of ticks that come at intervals. -/
theorem passes_run_whole_until_the_signal {σ : Type} (host : Host σ) (policy : RunPolicy)
    (start stop : Nat) (state : σ) :
    (∀ ticker : Ticker, ∃ turns : List (Turn σ),
      let outcome := runTicking host policy ticker stop 0 start start state
      Turn.Kept host policy ticker stop start state turns outcome ∧
      (host.Forward → ∀ turn ∈ turns, turn.start ≤ turn.ended) ∧
      ∀ view around, host.Within view around →
        (∀ turn ∈ turns, ∃ pass,
          Pass.Reach around policy (view turn.before) pass (view turn.after) ∧ pass.Finished) ∧
        ∃ history, Passes around (view state) history (view outcome.2) ∧
          history.length = turns.length ∧ ∀ pass ∈ history, pass.Finished) ∧
    ∀ interval, runPeriodic host policy interval stop 0 start start state =
      runTicking host policy (.delaying interval) stop 0 start start state := by
  refine ⟨fun ticker => ?_, fun _ => rfl⟩
  obtain ⟨turns, table⟩ := exists_timetable host policy ticker stop 0 start start state
  have whole (i : Nat) (turn : Turn σ) (isTurn : turns[i]? = some turn) :
      runTurn host policy (min (i + 1) mostPasses) turn.start turn.before =
        (turn.ended, turn.after) := by
    have run := table.run_eq (Nat.zero_le _) isTurn
    rwa [Nat.zero_add] at run
  have each (turn : Turn σ) (member : turn ∈ turns) :
      ∃ number, runTurn host policy number turn.start turn.before = (turn.ended, turn.after) := by
    obtain ⟨i, isTurn⟩ := List.mem_iff_getElem?.1 member
    exact ⟨_, whole i turn isTurn⟩
  refine ⟨turns, ?_, fun forward turn member => ?_, fun view around within =>
    ⟨fun turn member => ?_, table.history within⟩⟩
  · have counted := table.passes_eq (Nat.zero_le _)
    rw [Nat.zero_add] at counted
    have begins := table.nil_iff
    have first (turn : Turn σ) (isFirst : turns.head? = some turn) := table.head isFirst
    rw [ticker.immediate] at begins first
    exact {
      counted := counted
      few := table.length_le
      whole := whole
      begins := begins
      first := first
      order := table.chain
      due := fun turn member => (table.waits turn member).1
      unstopped := fun turn member => (table.waits turn member).2
      none := fun nothing => (nothing ▸ table).eq_of_nil
      last := fun turn => table.last }
  · obtain ⟨number, run⟩ := each turn member
    have later := forward.le_runTurn policy number turn.start turn.before
    rwa [run] at later
  · obtain ⟨number, run⟩ := each turn member
    have reach := Pass.reach_runTurn within policy number turn.start turn.before
    rwa [run] at reach

/-- A signal right behind the beginning lets the first pass come to its end, and no other. -/
theorem passes_run_whole_until_the_signal_of_twoSubjects :
    let minute := Interval.ofSeconds 60 (by decide)
    let outcome := runPeriodic (steadyHost twoSubjects .none) .standard minute 1 0 0 0 .empty
    outcome.1.passes = 1 ∧ ∃ pass, Pass.Reach (Conduct.steady twoSubjects .none).around .standard
      .empty pass outcome.2 ∧ pass.Finished := by
  intro minute outcome
  obtain ⟨every, periodic⟩ := passes_run_whole_until_the_signal (steadyHost twoSubjects .none)
    .standard 0 1 .empty
  obtain ⟨turns, kept, -, views⟩ := every (.delaying minute)
  have isOutcome : outcome = _ := periodic minute
  rw [← isOutcome] at kept views
  have some : turns ≠ [] := fun nothing => absurd (kept.begins.1 nothing) (by decide)
  obtain ⟨turn, others, rfl⟩ := List.exists_cons_of_ne_nil some
  have few := kept.few
  cases others with
  | cons => simp at few
  | nil =>
    obtain ⟨-, -, before⟩ := kept.first turn rfl
    obtain ⟨-, stopped⟩ := kept.last turn rfl
    have after : outcome.2 = turn.after := congrArg Prod.snd stopped
    obtain ⟨pass, reach, finished⟩ :=
      (views id _ (Conduct.steady_within twoSubjects .none)).1 turn List.mem_cons_self
    rw [before, ← after] at reach
    exact ⟨kept.counted, pass, reach, finished⟩

end SchemaLedger
