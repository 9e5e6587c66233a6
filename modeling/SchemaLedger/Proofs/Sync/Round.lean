import SchemaLedger.Proofs.Sync.CatchUp
import SchemaLedger.Proofs.Sync.Opening

namespace SchemaLedger

/-- The work on one subject: what it was told so far and what is left of it. -/
structure Task where
  subject : String
  told : List Exchange
  rest : Program Worked

/-- The work on the listed subjects. A subject waits until a permit is free, a task holds its permit
until it has ended, and tasks are counted once no subject waits. -/
structure Round where
  summary : Summary
  waiting : List String
  permits : Nat
  busy : List Task
  ended : List Task
  counted : List Task

def Round.tasks (round : Round) : List Task := round.busy ++ round.ended ++ round.counted

variable {κ : Type}

/-- A round goes on by itself, or one of its tasks asks for an effect. What answer it is given then,
and what becomes of the state around the round, may depend on all that the task was told before. -/
inductive Round.Goes (gives : List Exchange → κ → (effect : Effect) → effect.Answer → κ → Prop)
    (policy : RetryPolicy) : Round → κ → Round → κ → Prop
  | begun {summary subject waiting permits busy ended counted state} :
      Goes gives policy ⟨summary, subject :: waiting, permits + 1, busy, ended, counted⟩ state
        ⟨summary, waiting, permits, busy ++ [⟨subject, [], Program.catchUp policy subject⟩], ended,
          counted⟩ state
  | worked {summary waiting permits before subject told effect rest after ended counted state
      answer state'} :
      gives told state effect answer state' →
      Goes gives policy
        ⟨summary, waiting, permits, before ++ ⟨subject, told, .perform effect rest⟩ :: after, ended,
          counted⟩ state
        ⟨summary, waiting, permits,
          before ++ ⟨subject, told ++ [⟨effect, answer⟩], rest answer⟩ :: after, ended, counted⟩
        state'
  | ended {summary waiting permits before subject told worked after ended counted state} :
      Goes gives policy
        ⟨summary, waiting, permits, before ++ ⟨subject, told, .done worked⟩ :: after, ended,
          counted⟩ state
        ⟨summary, waiting, permits + 1, before ++ after, ended ++ [⟨subject, told, .done worked⟩],
          counted⟩ state
  | counted {summary permits busy before task after counted state} :
      Goes gives policy ⟨summary, [], permits, busy, before ++ task :: after, counted⟩ state
        ⟨summary, [], permits, busy, before ++ after, counted ++ [task]⟩ state

inductive Phase
  | opening (rest : Program (Option Names × Summary))
  | round (round : Round)

/-- A pass under way: what its opening was told, and how far it has come. -/
structure Pass where
  told : List Exchange
  phase : Phase

namespace Pass

/-- The tasks that have been begun. -/
def tasks (pass : Pass) : List Task :=
  match pass.phase with
  | .opening _ => []
  | .round round => round.tasks

inductive Goes (gives : List Exchange → κ → (effect : Effect) → effect.Answer → κ → Prop)
    (policy : RunPolicy) : Pass → κ → Pass → κ → Prop
  | told {told effect rest state answer state'} :
      gives told state effect answer state' →
      Goes gives policy ⟨told, .opening (.perform effect rest)⟩ state
        ⟨told ++ [⟨effect, answer⟩], .opening (rest answer)⟩ state'
  | opened {told listed summary state} :
      Goes gives policy ⟨told, .opening (.done (some listed, summary))⟩ state
        ⟨told, .round ⟨summary, listed.toList, policy.crewSize, [], [], []⟩⟩ state
  | round {told round state round' state'} :
      Round.Goes gives policy.retry round state round' state' →
      Goes gives policy ⟨told, .round round⟩ state ⟨told, .round round'⟩ state'

theorem Goes.mono {gives wider : List Exchange → κ → (effect : Effect) → effect.Answer → κ → Prop}
    {policy : RunPolicy} {pass pass' : Pass} {state state' : κ}
    (goes : Goes gives policy pass state pass' state')
    (within : ∀ {told state effect answer state'},
      gives told state effect answer state' → wider told state effect answer state') :
    Goes wider policy pass state pass' state' := by
  cases goes with
  | told given => exact .told (within given)
  | opened => exact .opened
  | round goes =>
    refine .round ?_
    cases goes with
    | begun => exact .begun
    | worked given => exact .worked (within given)
    | ended => exact .ended
    | counted => exact .counted

/-- A pass goes on in a catalog. -/
def Step (around : Surroundings) : RunPolicy → Pass → Catalog → Pass → Catalog → Prop :=
  Goes around.Gives

/-- The moments of a pass that was begun in the catalog `start`. -/
inductive Reach (around : Surroundings) (policy : RunPolicy) (start : Catalog) :
    Pass → Catalog → Prop
  | start : Reach around policy start ⟨[], .opening (Program.opening policy.retry)⟩ start
  | next {pass catalog pass' catalog'} : Reach around policy start pass catalog →
      Step around policy pass catalog pass' catalog' → Reach around policy start pass' catalog'

theorem Reach.widen {narrow wide : Surroundings} {policy : RunPolicy} {start catalog : Catalog}
    {pass : Pass} (reach : Reach narrow policy start pass catalog) (within : narrow.Within wide) :
    Reach wide policy start pass catalog := by
  induction reach with
  | start => exact .start
  | next previous step ih => exact .next ih (step.mono fun gives => gives.widen within)

/-- Nothing is left to do: the registry did not list its subjects, or every task is counted. -/
def Finished (pass : Pass) : Prop :=
  match pass.phase with
  | .opening rest => ∃ summary, rest = .done (none, summary)
  | .round round => round.waiting = [] ∧ round.busy = [] ∧ round.ended = []

end Pass

/-- Tasks that were begun on the catalog `opened` and have not come into each other's way. -/
structure Apart (around : Surroundings) (policy : RetryPolicy) (opened : Catalog)
    (tasks : List Task) (catalog : Catalog) : Prop where
  distinct : (tasks.map (·.subject)).Nodup
  alone : ∀ task ∈ tasks, ∃ own, Program.Course around (Program.catchUp policy task.subject) opened
    task.told task.rest own ∧ own.shelf task.subject = catalog.shelf task.subject
  idle : ∀ subject, (∀ task ∈ tasks, task.subject ≠ subject) →
    catalog.shelf subject = opened.shelf subject

namespace Apart

variable {around : Surroundings} {policy : RetryPolicy} {opened catalog : Catalog}
  {tasks : List Task}

theorem nil : Apart around policy opened [] opened :=
  ⟨List.nodup_nil, nofun, fun _ _ => rfl⟩

theorem perm {others : List Task} (apart : Apart around policy opened tasks catalog)
    (same : tasks.Perm others) : Apart around policy opened others catalog where
  distinct := (same.map _).nodup_iff.1 apart.distinct
  alone task member := apart.alone task (same.mem_iff.2 member)
  idle subject unbegun := apart.idle subject fun task member => unbegun task (same.mem_iff.1 member)

theorem begin {subject : String} (apart : Apart around policy opened tasks catalog)
    (fresh : subject ∉ tasks.map (·.subject)) :
    Apart around policy opened (⟨subject, [], Program.catchUp policy subject⟩ :: tasks) catalog where
  distinct := List.nodup_cons.2 ⟨fresh, apart.distinct⟩
  alone := by
    intro task member
    rcases List.mem_cons.1 member with rfl | old
    · refine ⟨opened, .start, (apart.idle subject fun task member same => ?_).symm⟩
      exact fresh (List.mem_map.2 ⟨task, member, same⟩)
    · exact apart.alone task old
  idle other unbegun := apart.idle other fun task member =>
    unbegun task (List.mem_cons_of_mem _ member)

/-- A task that does something leaves the shelves of all others alone. -/
theorem work {subject : String} {told : List Exchange} {effect : Effect}
    {rest : effect.Answer → Program Worked} {answer : effect.Answer} {catalog' : Catalog}
    (apart : Apart around policy opened (⟨subject, told, .perform effect rest⟩ :: tasks) catalog)
    (gives : around.Gives told catalog effect answer catalog') :
    Apart around policy opened (⟨subject, told ++ [⟨effect, answer⟩], rest answer⟩ :: tasks)
      catalog' := by
  obtain ⟨own, course, agrees⟩ := apart.alone _ List.mem_cons_self
  have about := (course.only Program.about_catchUp).1
  obtain ⟨others, own', ownGives, after⟩ := gives.local about agrees.symm
  obtain ⟨fresh, -⟩ := List.nodup_cons.1 apart.distinct
  refine ⟨apart.distinct, ?_, ?_⟩
  · intro task member
    rcases List.mem_cons.1 member with rfl | old
    · exact ⟨own', .next course ownGives, after.symm⟩
    · obtain ⟨its, itsCourse, itsShelf⟩ := apart.alone task (List.mem_cons_of_mem _ old)
      have different : task.subject ≠ subject := fun same =>
        fresh (List.mem_map.2 ⟨task, old, same⟩)
      exact ⟨its, itsCourse, itsShelf.trans (others _ different).symm⟩
  · intro other unbegun
    have different : subject ≠ other := unbegun _ List.mem_cons_self
    rw [others other different.symm]
    refine apart.idle other fun task member => ?_
    rcases List.mem_cons.1 member with rfl | old
    · exact different
    · exact unbegun task (List.mem_cons_of_mem _ old)

end Apart

/-- A round after an opening that listed subjects: each of them waits or has one task, the permits
are accounted for, and the tasks go as if each were alone. -/
structure Round.Splits (around : Surroundings) (policy : RunPolicy) (opened : Catalog)
    (listed : Names) (round : Round) (catalog : Catalog) : Prop where
  share : (round.waiting ++ round.tasks.map (·.subject)).Perm listed.toList
  crew : round.permits + round.busy.length = policy.crewSize
  done : ∀ task ∈ round.ended ++ round.counted, ∃ worked, task.rest = .done worked
  apart : Apart around policy.retry opened round.tasks catalog

namespace Round.Splits

variable {around : Surroundings} {policy : RunPolicy} {opened catalog catalog' : Catalog}
  {listed : Names} {round round' : Round}

theorem start {summary : Summary} :
    Splits around policy opened listed ⟨summary, listed.toList, policy.crewSize, [], [], []⟩
      opened :=
  ⟨by simp [Round.tasks], rfl, nofun, .nil⟩

/-- Tasks may change their places as long as those outside the crew have ended. -/
theorem reorder (splits : round.Splits around policy opened listed catalog)
    (waiting : round'.waiting = round.waiting) (same : round.tasks.Perm round'.tasks)
    (crew : round'.permits + round'.busy.length = round.permits + round.busy.length)
    (done : ∀ task ∈ round'.ended ++ round'.counted, ∃ worked, task.rest = .done worked) :
    round'.Splits around policy opened listed catalog where
  share := by
    rw [waiting]
    exact ((same.symm.map _).append_left _).trans splits.share
  crew := crew.trans splits.crew
  done := done
  apart := splits.apart.perm same

theorem step (splits : round.Splits around policy opened listed catalog)
    (step : round.Goes around.Gives policy.retry catalog round' catalog') :
    round'.Splits around policy opened listed catalog' := by
  have ⟨share, crew, done, apart⟩ := splits
  cases step with
  | @begun summary subject waiting permits busy ended counted =>
    have fresh : subject ∉ (busy ++ ended ++ counted).map (·.subject) := by
      have distinct := share.nodup_iff.2 listed.toList_nodup
      exact fun member => (List.nodup_cons.1 distinct).1 (List.mem_append_right _ member)
    refine ⟨.trans ?_ share, ?_, done, (apart.begin fresh).perm ?_⟩
    · simp only [Round.tasks, List.perm_iff_count, List.map_append, List.map_cons, List.map_nil,
        List.count_append, List.count_cons, List.cons_append, List.count_nil]
      omega
    · simp only [List.length_append, List.length_cons, List.length_nil] at crew ⊢
      omega
    · simp only [Round.tasks, List.append_assoc, List.singleton_append]
      exact List.perm_middle.symm
  | @worked summary waiting permits before subject told effect rest after ended counted _ answer _
      gives =>
    have front {task : Task} : (task :: (before ++ (after ++ (ended ++ counted)))).Perm
        (before ++ task :: after ++ ended ++ counted) := by
      simp only [List.append_assoc, List.cons_append]
      exact List.perm_middle.symm
    refine ⟨?_, ?_, done, ((apart.perm front.symm).work gives).perm front⟩
    · simpa only [Round.tasks, List.map_append, List.map_cons] using share
    · simpa only [List.length_append, List.length_cons] using crew
  | @ended summary waiting permits before subject told worked after ended counted =>
    have moved : (before ++ ⟨subject, told, .done worked⟩ :: after ++ ended ++ counted).Perm
        (before ++ after ++ (ended ++ [⟨subject, told, .done worked⟩]) ++ counted) := by
      simp only [List.append_assoc, List.cons_append]
      refine List.Perm.append_left before ?_
      rw [← List.append_assoc after ended, ← List.append_assoc after ended]
      exact List.perm_middle.symm
    refine splits.reorder rfl moved ?_ ?_
    · simp only [List.length_append, List.length_cons]
      omega
    · intro task member
      rcases List.mem_append.1 member with recent | old
      · rcases List.mem_append.1 recent with before | same
        · exact done task (List.mem_append_left _ before)
        · cases List.mem_singleton.1 same
          exact ⟨worked, rfl⟩
      · exact done task (List.mem_append_right _ old)
  | @counted summary permits busy before task after counted =>
    have moved : (busy ++ (before ++ task :: after) ++ counted).Perm
        (busy ++ (before ++ after) ++ (counted ++ [task])) := by
      simp only [List.append_assoc, List.cons_append]
      refine List.Perm.append_left busy (List.Perm.append_left before ?_)
      rw [← List.append_assoc after]
      exact (List.perm_append_singleton task (after ++ counted)).symm.trans
        (by rw [List.append_assoc])
    refine splits.reorder rfl moved rfl ?_
    intro other member
    refine done other ?_
    simp only [List.mem_append, List.mem_cons, List.not_mem_nil, or_false] at member ⊢
    rcases member with (first | last) | old | same
    · exact .inl (.inl first)
    · exact .inl (.inr (.inr last))
    · exact .inr old
    · exact .inl (.inr (.inl same))

end Round.Splits

/-- A pass as the runs of its opening and of its tasks. -/
inductive Pass.Splits (around : Surroundings) (policy : RunPolicy) (start : Catalog) :
    Pass → Catalog → Prop
  | opening {told rest catalog} :
      Program.Course around (Program.opening policy.retry) start told rest catalog →
      Splits around policy start ⟨told, .opening rest⟩ catalog
  | round {told round catalog opened listed} :
      Program.Course around (Program.opening policy.retry) start told
        (.done (some listed, round.summary)) opened →
      round.Splits around policy opened listed catalog →
      Splits around policy start ⟨told, .round round⟩ catalog

theorem Round.Goes.summary_eq
    {gives : List Exchange → κ → (effect : Effect) → effect.Answer → κ → Prop}
    {policy : RetryPolicy} {round round' : Round} {state state' : κ}
    (goes : round.Goes gives policy state round' state') : round'.summary = round.summary := by
  cases goes <;> rfl

/-- The order in which the crew works makes no difference to any one subject. -/
theorem Pass.Reach.splits {around : Surroundings} {policy : RunPolicy} {start catalog : Catalog}
    {pass : Pass} (reach : Reach around policy start pass catalog) :
    pass.Splits around policy start catalog := by
  induction reach with
  | start => exact .opening .start
  | next previous step ih =>
    cases step with
    | told gives =>
      cases ih with
      | opening course => exact .opening (.next course gives)
    | opened =>
      cases ih with
      | opening course => exact .round course .start
    | round step =>
      cases ih with
      | round course splits => exact .round (step.summary_eq ▸ course) (splits.step step)

end SchemaLedger
