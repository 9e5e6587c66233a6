import Mathlib.Algebra.BigOperators.Group.List.Basic
import SchemaLedger.Proofs.Sync.Round

namespace SchemaLedger

/-- The answers of a host to whatever it was asked before are among those that may be given, and
`view` is the catalog it keeps. -/
def Host.Within {σ : Type} (host : Host σ) (view : σ → Catalog) (around : Surroundings) : Prop :=
  ∀ told effect now state, around.Gives told (view state) effect (host effect now state).1
    (view (host effect now state).2.2)

theorem Host.Within.report {σ : Type} {host : Host σ} {view : σ → Catalog} {around : Surroundings}
    (within : host.Within view around) (event : Event) (now : Nat) (state : σ) :
    view (host (.report event) now state).2.2 = view state := by
  have gives := within [] (.report event) now state
  generalize (host (.report event) now state).1 = answer at gives
  generalize view (host (.report event) now state).2.2 = catalog at gives ⊢
  cases gives
  rfl

/-- How a task has ended, when it has. -/
def Task.result? (task : Task) : Option (String × Worked) :=
  match task.rest with
  | .done worked => some (task.subject, worked)
  | .perform _ _ => none

def Shift.result (shift : Shift) : String × Worked := (shift.subject, shift.worked)

/-- What a round has counted. -/
def Round.tally (round : Round) : Tally :=
  round.counted.foldl
    (fun tally task => match task.result? with
      | some (_, worked) => tally + (worked.tally + worked.outcome.tally)
      | none => tally)
    round.summary.tally

attribute [ext] Tally

instance : Zero Tally := ⟨.zero⟩

/-- Tallies may be added up in any order. -/
instance : AddCommMonoid Tally where
  add_assoc a b c := by ext <;> exact Nat.add_assoc ..
  zero_add a := by ext <;> exact Nat.zero_add _
  add_zero a := rfl
  add_comm a b := by ext <;> exact Nat.add_comm ..
  nsmul := nsmulRec

namespace Tally

@[simp]
theorem subjectsSeen_add (a b : Tally) : (a + b).subjectsSeen = a.subjectsSeen + b.subjectsSeen := rfl

@[simp]
theorem subjectsNew_add (a b : Tally) : (a + b).subjectsNew = a.subjectsNew + b.subjectsNew := rfl

@[simp]
theorem versionsSeen_add (a b : Tally) : (a + b).versionsSeen = a.versionsSeen + b.versionsSeen := rfl

@[simp]
theorem versionsNew_add (a b : Tally) : (a + b).versionsNew = a.versionsNew + b.versionsNew := rfl

@[simp]
theorem errors_add (a b : Tally) : (a + b).errors = a.errors + b.errors := rfl

end Tally

/-- What the work on a subject adds to the counts of a pass. -/
def Worked.total (worked : Worked) : Tally := worked.tally + worked.outcome.tally

def Task.total (task : Task) : Tally :=
  match task.result? with
  | some (_, worked) => worked.total
  | none => 0

theorem Round.tally_eq (round : Round) :
    round.tally = round.summary.tally + (round.counted.map Task.total).sum := by
  unfold Round.tally
  generalize round.summary.tally = first
  induction round.counted generalizing first with
  | nil => exact (add_zero first).symm
  | cons task rest ih =>
    rw [List.foldl_cons, ih, List.map_cons, List.sum_cons, ← add_assoc]
    unfold Task.total
    cases task.result? with
    | none => rw [add_zero]
    | some result => rfl

/-- The result of a pass as far as it has come. -/
def Pass.summary (pass : Pass) : Summary :=
  match pass.phase with
  | .opening (.done (_, summary)) => summary
  | .opening (.perform _ _) => ⟨.zero, .none⟩
  | .round round => ⟨round.tally, round.summary.removal⟩

theorem Task.result?_eq_some {task : Task} {subject : String} {worked : Worked}
    (ended : task.result? = some (subject, worked)) :
    task = ⟨subject, task.told, .done worked⟩ := by
  obtain ⟨own, told, rest⟩ := task
  cases rest with
  | done value =>
    cases ended
    rfl
  | perform effect next => cases ended

/-- What one of several values in another order comes from. -/
theorem exists_middle_of_perm {α β : Type} {f : α → β} {xs : List α} {y : β} {ys : List β}
    (same : (xs.map f).Perm (y :: ys)) :
    ∃ before x after, xs = before ++ x :: after ∧ f x = y ∧
      ((before ++ after).map f).Perm ys := by
  obtain ⟨x, member, rfl⟩ := List.mem_map.1 (same.mem_iff.2 List.mem_cons_self)
  obtain ⟨before, after, rfl⟩ := List.append_of_mem member
  refine ⟨before, x, after, rfl, rfl, ?_⟩
  simp only [List.map_append, List.map_cons] at same ⊢
  exact (List.perm_middle.symm.trans same).cons_inv

/-- A crew in which every shift stands for a task that has done its work. -/
structure Crew.Mirrors (crew : Crew) (round : Round) : Prop where
  busy : (round.busy.map (·.result?)).Perm (crew.busy.map (some ·.result))
  ended : (round.ended.map (·.result?)).Perm (crew.ended.map (some ·.result))
  tally : round.tally = crew.tally

theorem Shift.place_perm (shift : Shift) (shifts : List Shift) :
    (shift.place shifts).Perm (shift :: shifts) := by
  induction shifts with
  | nil => exact .refl _
  | cons other rest ih =>
    rw [Shift.place]
    split
    · exact .refl _
    · exact (ih.cons other).trans (.swap shift other rest)

namespace Pass

variable {σ : Type} {host : Host σ} {view : σ → Catalog} {around : Surroundings}
  {policy : RunPolicy} {start catalog : Catalog} {told : List Exchange} {summary : Summary}
  {waiting : List String} {permits : Nat} {busy ended counted : List Task}

/-- The opening, carried out to its end. -/
theorem Reach.run_opening (within : host.Within view around)
    {program : Program (Option Names × Summary)} (now : Nat) {state : σ}
    (reach : Reach around policy start ⟨told, .opening program⟩ (view state)) :
    ∃ told', Reach around policy start ⟨told', .opening (.done (program.run host now state).1)⟩
      (view (program.run host now state).2.2) := by
  induction program generalizing told now state with
  | done value => exact ⟨told, reach⟩
  | perform effect rest ih => exact ih _ _ (.next reach (.told (within told effect now state)))

/-- A task, carried out to its end. -/
theorem Reach.run_task (within : host.Within view around) {before after : List Task}
    {subject : String} {heard : List Exchange} {program : Program Worked} (now : Nat) {state : σ}
    (reach : Reach around policy start ⟨told, .round ⟨summary, waiting, permits,
      before ++ ⟨subject, heard, program⟩ :: after, ended, counted⟩⟩ (view state)) :
    ∃ heard', Reach around policy start ⟨told, .round ⟨summary, waiting, permits,
      before ++ ⟨subject, heard', .done (program.run host now state).1⟩ :: after, ended,
      counted⟩⟩ (view (program.run host now state).2.2) := by
  induction program generalizing heard now state with
  | done value => exact ⟨heard, reach⟩
  | perform effect rest ih =>
    exact ih _ _ (.next reach (.round (.worked (within heard effect now state))))

/-- A permit comes back. -/
theorem Reach.end_task {shift : Shift} {shifts : List (Option (String × Worked))}
    (reach : Reach around policy start
      ⟨told, .round ⟨summary, waiting, permits, busy, ended, counted⟩⟩ catalog)
    (same : (busy.map (·.result?)).Perm (some shift.result :: shifts)) :
    ∃ busy' task, task.result? = some shift.result ∧ (busy'.map (·.result?)).Perm shifts ∧
      Reach around policy start
        ⟨told, .round ⟨summary, waiting, permits + 1, busy', ended ++ [task], counted⟩⟩
        catalog := by
  obtain ⟨before, task, after, rfl, isResult, others⟩ := exists_middle_of_perm same
  refine ⟨before ++ after, task, isResult, others, .next reach (.round ?_)⟩
  rw [Task.result?_eq_some isResult]
  exact .ended

/-- The counts of ended tasks, in any order of them. -/
theorem Reach.count (within : host.Within view around) {shifts : List Shift} {tally : Tally}
    {now : Nat} {state : σ}
    (reach : Reach around policy start
      ⟨told, .round ⟨summary, [], permits, busy, ended, counted⟩⟩ (view state))
    (same : (ended.map (·.result?)).Perm (shifts.map (some ·.result)))
    (soFar : (⟨summary, [], permits, busy, ended, counted⟩ : Round).tally = tally) :
    ∃ counted', Reach around policy start
        ⟨told, .round ⟨summary, [], permits, busy, [], counted'⟩⟩
        (view (Crew.fold host shifts tally now state).2.2) ∧
      (⟨summary, [], permits, busy, [], counted'⟩ : Round).tally =
        (Crew.fold host shifts tally now state).1 := by
  induction shifts generalizing ended counted tally now state with
  | nil =>
    have none : ended = [] := List.map_eq_nil_iff.1 same.eq_nil
    subst none
    exact ⟨counted, reach, soFar⟩
  | cons shift rest ih =>
    obtain ⟨before, task, after, rfl, isResult, others⟩ := exists_middle_of_perm same
    have counting : Round.tally ⟨summary, [], permits, busy, before ++ after, counted ++ [task]⟩ =
        tally + (shift.worked.tally + shift.worked.outcome.tally) := by
      rw [← soFar, Round.tally, Round.tally, List.foldl_append, List.foldl_cons, List.foldl_nil,
        isResult]
      rfl
    refine ih ?_ others counting
    change Reach around policy start _ (view (host _ _ _).2.2)
    rw [within.report]
    exact .next reach (.round .counted)

end Pass

/-- When the crew is full, the shift that ends first makes room. -/
def Crew.release (size : Nat) (crew : Crew) (now : Nat) : Crew × Nat :=
  match crew.busy with
  | first :: busy =>
    if size ≤ crew.busy.length then
      ({ crew with busy := busy, ended := crew.ended ++ [first] }, max now first.ends)
    else (crew, now)
  | [] => (crew, now)

/-- Before the last subject is begun, the shifts that have ended are counted. -/
def Crew.settle {σ : Type} (host : Host σ) (waiting : List String) (crew : Crew) (now : Nat)
    (state : σ) : Crew × Nat × σ :=
  if waiting.isEmpty then
    let (tally, now, state) := fold host crew.ended crew.tally now state
    (⟨crew.busy, [], tally⟩, now, state)
  else (crew, now, state)

theorem Crew.work_cons {σ : Type} (host : Host σ) (policy : RetryPolicy) (size : Nat)
    (subject : String) (waiting : List String) (crew : Crew) (now : Nat) (state : σ) :
    work host policy size (subject :: waiting) crew now state =
      let (crew, now) := crew.release size now
      let (crew, now, state) := crew.settle host waiting now state
      let (worked, ends, state) := (Program.catchUp policy subject).run host now state
      work host policy size waiting
        { crew with busy := Shift.place ⟨subject, worked, ends⟩ crew.busy } now state := rfl

namespace Pass

variable {σ : Type} {host : Host σ} {view : σ → Catalog} {around : Surroundings}
  {policy : RunPolicy} {start : Catalog} {told : List Exchange}

theorem Reach.permits {round : Round} {catalog : Catalog}
    (reach : Reach around policy start ⟨told, .round round⟩ catalog) :
    round.permits + round.busy.length = policy.crewSize := by
  cases reach.splits with
  | round course splits => exact splits.crew

/-- After a full crew has made room there is a permit for another task. -/
theorem Reach.release {crew : Crew} {round : Round} (now : Nat) {catalog : Catalog}
    (reach : Reach around policy start ⟨told, .round round⟩ catalog)
    (mirrors : crew.Mirrors round) :
    ∃ round', Reach around policy start ⟨told, .round round'⟩ catalog ∧
      (crew.release policy.crewSize now).1.Mirrors round' ∧ round'.waiting = round.waiting ∧
      round'.summary = round.summary ∧ round'.permits ≠ 0 := by
  have share := reach.permits
  have length : round.busy.length = crew.busy.length := by
    simpa using mirrors.busy.length_eq
  have size : 1 ≤ policy.crewSize := Nat.le_max_right _ _
  unfold Crew.release
  cases atBusy : crew.busy with
  | nil =>
    rw [atBusy, List.length_nil] at length
    exact ⟨round, reach, mirrors, rfl, rfl, by omega⟩
  | cons first busy =>
    dsimp only
    split
    · have same := mirrors.busy
      rw [atBusy, List.map_cons] at same
      obtain ⟨busy', task, isResult, others, after⟩ := reach.end_task same
      refine ⟨_, after, ⟨others, ?_, mirrors.tally⟩, rfl, rfl, Nat.succ_ne_zero _⟩
      simpa [isResult] using mirrors.ended.append_right [some first.result]
    · rename_i room
      rw [atBusy] at length
      exact ⟨round, reach, mirrors, rfl, rfl, by omega⟩

theorem Reach.settle (within : host.Within view around) {crew : Crew} {round : Round} (now : Nat)
    {state : σ} (reach : Reach around policy start ⟨told, .round round⟩ (view state))
    (ended : (round.ended.map (·.result?)).Perm (crew.ended.map (some ·.result)))
    (tally : round.tally = crew.tally) :
    ∃ round', Reach around policy start ⟨told, .round round'⟩
        (view (crew.settle host round.waiting now state).2.2) ∧
      (round'.ended.map (·.result?)).Perm
        ((crew.settle host round.waiting now state).1.ended.map (some ·.result)) ∧
      round'.tally = (crew.settle host round.waiting now state).1.tally ∧
      (crew.settle host round.waiting now state).1.busy = crew.busy ∧
      round'.waiting = round.waiting ∧ round'.busy = round.busy ∧
      round'.summary = round.summary := by
  obtain ⟨summary, waiting, permits, busy, ended', counted⟩ := round
  cases waiting with
  | nil =>
    obtain ⟨counted', after, counts⟩ := reach.count within ended tally
    exact ⟨_, after, .refl _, counts, rfl, rfl, rfl, rfl⟩
  | cons => exact ⟨_, reach, ended, tally, rfl, rfl, rfl, rfl⟩

/-- When no task is left to begin, the busy ones end one after the other. -/
theorem Reach.end_all {shifts earlier : List Shift} {summary : Summary} {permits : Nat}
    {busy ended counted : List Task} {catalog : Catalog}
    (reach : Reach around policy start
      ⟨told, .round ⟨summary, [], permits, busy, ended, counted⟩⟩ catalog)
    (atWork : (busy.map (·.result?)).Perm (shifts.map (some ·.result)))
    (done : (ended.map (·.result?)).Perm (earlier.map (some ·.result))) :
    ∃ permits' ended', Reach around policy start
        ⟨told, .round ⟨summary, [], permits', [], ended', counted⟩⟩ catalog ∧
      (ended'.map (·.result?)).Perm ((earlier ++ shifts).map (some ·.result)) := by
  induction shifts generalizing earlier permits busy ended with
  | nil =>
    have none : busy = [] := List.map_eq_nil_iff.1 atWork.eq_nil
    subst none
    exact ⟨permits, ended, reach, by rwa [List.append_nil]⟩
  | cons shift shifts ih =>
    obtain ⟨busy', task, isResult, others, after⟩ := reach.end_task atWork
    have doneNow : ((ended ++ [task]).map (·.result?)).Perm
        ((earlier ++ [shift]).map (some ·.result)) := by
      simpa [isResult] using done.append_right [some shift.result]
    obtain ⟨permits', ended', final, all⟩ := ih after others doneNow
    exact ⟨permits', ended', final, by rwa [List.append_assoc, List.singleton_append] at all⟩

/-- A crew that works its subjects off goes one of the ways of the round. The induction is on the
subjects that wait; the crew and the round agree on what is busy, ended and counted. -/
theorem Reach.work (within : host.Within view around) {subjects : List String} {crew : Crew}
    {round : Round} (now : Nat) {state : σ}
    (reach : Reach around policy start ⟨told, .round round⟩ (view state))
    (waiting : round.waiting = subjects) (mirrors : crew.Mirrors round) :
    ∃ round', Reach around policy start ⟨told, .round round'⟩
        (view (crew.work host policy.retry policy.crewSize subjects now state).2.2) ∧
      (round'.waiting = [] ∧ round'.busy = [] ∧ round'.ended = []) ∧
      round'.summary = round.summary ∧
      round'.tally = (crew.work host policy.retry policy.crewSize subjects now state).1 := by
  induction subjects generalizing crew round now state with
  | nil =>
    obtain ⟨summary, _, permits, busy, ended, counted⟩ := round
    cases waiting
    obtain ⟨permits', ended', idle, all⟩ := reach.end_all mirrors.busy mirrors.ended
    obtain ⟨counted', final, tally⟩ := idle.count within all mirrors.tally
    exact ⟨_, final, ⟨rfl, rfl, rfl⟩, rfl, tally⟩
  | cons subject rest ih =>
    obtain ⟨roomy, reach, mirrors, stillWaiting, summaryThen, free⟩ := reach.release now mirrors
    rw [waiting] at stillWaiting
    rw [Crew.work_cons]
    dsimp only
    generalize crew.release policy.crewSize now = released at mirrors ⊢
    obtain ⟨crew, now⟩ := released
    obtain ⟨summary, _, permits, busy, ended, counted⟩ := roomy
    cases stillWaiting
    obtain ⟨permits, rfl⟩ := Nat.exists_eq_succ_of_ne_zero free
    have begun := Reach.next reach (.round .begun)
    obtain ⟨settled, counting, ended, tally, crewBusy, waiting', busyThen, summaryAfter⟩ :=
      begun.settle within now mirrors.ended mirrors.tally
    dsimp only at counting ended tally crewBusy waiting' busyThen summaryAfter summaryThen ⊢
    generalize crew.settle host rest now state = calm at counting ended tally crewBusy ⊢
    obtain ⟨crew', now, state⟩ := calm
    obtain ⟨summary', remaining, permits, atWork, ended', counted'⟩ := settled
    dsimp only at waiting' busyThen
    subst remaining atWork
    dsimp only at counting ended tally crewBusy summaryAfter ⊢
    obtain ⟨heard', after⟩ := counting.run_task within now
    generalize (Program.catchUp policy.retry subject).run host now state = result at after ⊢
    obtain ⟨worked, ends, state⟩ := result
    have mirrored : Crew.Mirrors
        { crew' with busy := Shift.place ⟨subject, worked, ends⟩ crew'.busy }
        ⟨summary', rest, permits, busy ++ [⟨subject, heard', .done worked⟩], ended', counted'⟩ := by
      refine ⟨?_, ended, tally⟩
      refine .trans ?_ ((Shift.place_perm _ _).map _).symm
      rw [crewBusy, List.map_append]
      exact (List.perm_append_singleton _ _).trans (mirrors.busy.cons _)
    obtain ⟨round', final, finished, same, total⟩ := ih now after rfl mirrored
    exact ⟨round', final, finished, same.trans (summaryAfter.trans summaryThen), total⟩

/-- A pass that is run comes to its end in one of the ways that a pass may go. -/
theorem reach_runPass (within : host.Within view around) (policy : RunPolicy) (now : Nat)
    (state : σ) :
    ∃ pass, Reach around policy (view state) pass (view (runPass host policy now state).2.2) ∧
      pass.Finished ∧ pass.summary = (runPass host policy now state).1 := by
  have opening : Reach around policy (view state)
      ⟨[], .opening (Program.opening policy.retry)⟩ (view state) := .start
  obtain ⟨told, opened⟩ := opening.run_opening within now
  unfold runPass
  generalize (Program.opening policy.retry).run host now state = result at opened ⊢
  obtain ⟨⟨listed, summary⟩, now, state'⟩ := result
  dsimp only at opened ⊢
  cases listed with
  | none =>
    refine ⟨⟨told, .opening (.done (none, summary))⟩, ?_, ⟨summary, rfl⟩, rfl⟩
    change Reach around policy (view state) _ (view (host _ _ _).2.2)
    rw [within.report]
    exact opened
  | some listed =>
    have begun := Reach.next opened .opened
    have idle : Crew.Mirrors (.idle summary.tally)
        ⟨summary, listed.toList, policy.crewSize, [], [], []⟩ := ⟨.refl _, .refl _, rfl⟩
    obtain ⟨round, final, finished, same, total⟩ := begun.work within now rfl idle
    refine ⟨⟨told, .round round⟩, ?_, finished, ?_⟩
    · change Reach around policy (view state) _ (view (host _ _ _).2.2)
      rw [within.report]
      exact final
    · simp only [Pass.summary, total, same]

/-- What a finished pass has come to: it had no list, or every listed subject had one task, which
has ended as if it were alone. -/
inductive Ended (around : Surroundings) (policy : RunPolicy) (start : Catalog) (pass : Pass)
    (catalog : Catalog) : Prop
  | unlisted {summary} :
      Program.Course around (Program.opening policy.retry) start pass.told (.done (none, summary))
        catalog →
      pass.tasks = [] → pass.summary = summary → Ended around policy start pass catalog
  | listed {listed summary opened} :
      Program.Course around (Program.opening policy.retry) start pass.told
        (.done (some listed, summary)) opened →
      (pass.tasks.map (·.subject)).Perm listed.toList →
      (∀ task ∈ pass.tasks, ∃ worked own, task.rest = .done worked ∧
        Program.Course around (Program.catchUp policy.retry task.subject) opened task.told
          (.done worked) own ∧ own.shelf task.subject = catalog.shelf task.subject) →
      (∀ subject, subject ∉ listed.toList → catalog.shelf subject = opened.shelf subject) →
      pass.summary = ⟨summary.tally + (pass.tasks.map Task.total).sum, summary.removal⟩ →
      Ended around policy start pass catalog

theorem Reach.end_of_finished {pass : Pass} {catalog : Catalog}
    (reach : Reach around policy start pass catalog) (finished : pass.Finished) :
    pass.Ended around policy start catalog := by
  cases reach.splits with
  | opening course =>
    obtain ⟨summary, rfl⟩ := finished
    exact .unlisted course rfl rfl
  | @round told round _ opened listed course splits =>
    obtain ⟨noneWait, noneBusy, noneEnded⟩ := finished
    have tasks : round.tasks = round.counted := by
      rw [Round.tasks, noneBusy, noneEnded, List.nil_append, List.nil_append]
    have share := splits.share
    rw [noneWait, List.nil_append] at share
    refine .listed course share ?_ ?_ ?_
    · intro task member
      have counted : task ∈ round.counted := tasks ▸ member
      obtain ⟨worked, done⟩ := splits.done task (List.mem_append_right _ counted)
      obtain ⟨own, alone, agrees⟩ := splits.apart.alone task member
      exact ⟨worked, own, done, done ▸ alone, agrees⟩
    · intro subject unlisted
      refine splits.apart.idle subject fun task member own => unlisted ?_
      exact share.mem_iff.1 (List.mem_map.2 ⟨task, member, own⟩)
    · have total : round.tally = round.summary.tally + (round.tasks.map Task.total).sum := by
        rw [tasks, round.tally_eq]
      exact congrArg (Summary.mk · round.summary.removal) total

theorem Reach.done_of_finished {pass : Pass} {catalog : Catalog}
    (reach : Reach around policy start pass catalog) (finished : pass.Finished) {task : Task}
    (member : task ∈ pass.tasks) : ∃ worked, task.rest = .done worked := by
  cases reach.end_of_finished finished with
  | unlisted _ none =>
    rw [none] at member
    cases member
  | listed _ _ alone =>
    obtain ⟨worked, _, done, _⟩ := alone task member
    exact ⟨worked, done⟩

end Pass

end SchemaLedger
