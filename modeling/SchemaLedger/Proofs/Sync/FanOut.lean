import SchemaLedger.Proofs.Sync.Crew
import SchemaLedger.Proofs.Sync.World

namespace SchemaLedger

/-- The task waits for an answer of the registry. -/
def Task.calls (task : Task) : Bool :=
  match task.rest with
  | .perform (.query _ _) _ => true
  | _ => false

theorem Task.not_calls_of_done {task : Task} {worked : Worked} (done : task.rest = .done worked) :
    task.calls = false := by
  rw [Task.calls, done]

/-- Anything that is asked for can be answered. -/
theorem Effect.exists_answer (effect : Effect) : Nonempty effect.Answer := by
  cases effect with
  | query limit call => exact ⟨.timedOut⟩
  | store request => exact ⟨.error (.io "")⟩
  | pause | report => exact ⟨()⟩

namespace Pass

/-- The tasks that hold a permit. -/
def busy (pass : Pass) : List Task :=
  match pass.phase with
  | .opening _ => []
  | .round round => round.busy

/-- How a pass that was begun in the catalog `start` shares out the work, at one moment. -/
structure FannedOut (around : Surroundings) (policy : RunPolicy) (start : Catalog) (pass : Pass) :
    Prop where
  crew : pass.busy.length ≤ max policy.maxConcurrent 1
  calls : pass.tasks.countP (·.calls) ≤ max policy.maxConcurrent 1
  once : (pass.tasks.map (·.subject)).Nodup
  listed : ∀ task ∈ pass.tasks, ∃ subjects, Listing pass.told subjects ∧ task.subject ∈ subjects
  opened : ∀ task ∈ pass.tasks, ∃ listed summary catalog, Program.Course around
    (Program.opening policy.retry) start pass.told (.done (some listed, summary)) catalog
  moves : ¬pass.Finished → ∃ exchange pass', pass.Moves policy exchange pass'
  ended : pass.Finished → ∀ task ∈ pass.tasks, ∃ worked, task.rest = .done worked
  worked : pass.Finished → ∀ subjects, Heard pass.told .subjects (.answered subjects) →
    ∀ subject ∈ subjects, ∃ task ∈ pass.tasks, task.subject = subject
  counted : pass.Finished → ∃ result catalog, Program.Course around
    (Program.opening policy.retry) start pass.told (.done result) catalog ∧
      pass.summary = ⟨result.2.tally + (pass.tasks.map Task.total).sum, result.2.removal⟩

variable {around : Surroundings} {policy : RunPolicy} {start catalog : Catalog} {pass : Pass}

/-- No schedule leads into a state in which a pass waits for itself: without a free permit there is
a task that holds one. -/
theorem Reach.moves (reach : Reach around policy start pass catalog)
    (unfinished : ¬pass.Finished) : ∃ exchange pass', pass.Moves policy exchange pass' := by
  cases reach.splits with
  | @opening told rest =>
    cases rest with
    | perform effect next =>
      obtain ⟨answer⟩ := effect.exists_answer
      exact ⟨_, _, .told answer⟩
    | done result =>
      obtain ⟨listed, summary⟩ := result
      cases listed with
      | none => exact absurd ⟨summary, rfl⟩ unfinished
      | some listed => exact ⟨_, _, .opened⟩
  | @round told round _ opened listed course splits =>
    obtain ⟨summary, waiting, permits, busy, ended, counted⟩ := round
    cases busy with
    | cons task others =>
      obtain ⟨subject, taskTold, rest⟩ := task
      cases rest with
      | done worked => exact ⟨_, _, .round (@Round.Goes.ended _ _ _ _ _ _ [] _ _ _ _ _ _ _)⟩
      | perform effect next =>
        obtain ⟨answer⟩ := effect.exists_answer
        exact ⟨_, _, .round (@Round.Moves.worked _ _ _ _ [] _ _ _ _ _ _ _ answer)⟩
    | nil =>
      have free : permits = policy.crewSize := splits.crew
      have some : 0 < policy.crewSize := Nat.lt_of_lt_of_le Nat.one_pos (Nat.le_max_right _ _)
      obtain ⟨others, rfl⟩ := Nat.exists_eq_add_of_lt (free ▸ some)
      cases waiting with
      | cons subject later => exact ⟨_, _, .round .begun⟩
      | nil =>
        cases ended with
        | cons task others => exact ⟨_, _, .round (@Round.Goes.counted _ _ _ _ _ _ [] _ _ _ _)⟩
        | nil => exact absurd ⟨rfl, rfl, rfl⟩ unfinished

/-- Who has given back the permit waits for nothing. -/
theorem calls_le_busy {round : Round} {opened : Catalog} {listed : Names}
    (splits : round.Splits around policy opened listed catalog) :
    round.tasks.countP (·.calls) ≤ round.busy.length := by
  have silent : (round.ended ++ round.counted).countP (·.calls) = 0 := by
    refine List.countP_eq_zero.2 fun task member => ?_
    obtain ⟨worked, done⟩ := splits.done task member
    rw [Task.not_calls_of_done done]
    exact Bool.false_ne_true
  rw [Round.tasks, List.append_assoc, List.countP_append, silent]
  exact List.countP_le_length

/-- The subjects of an ended round are those that the opening listed. -/
theorem Finished.share {told : List Exchange} {round : Round} {opened : Catalog} {listed : Names}
    (finished : Finished ⟨told, .round round⟩)
    (splits : round.Splits around policy opened listed catalog) :
    (round.tasks.map (·.subject)).Perm listed.toList := by
  have share := splits.share
  rwa [finished.1, List.nil_append] at share

/-- At every moment the work is shared out: what was told in the opening settles who is listed, and
the tasks of a round stand apart from each other. -/
theorem Reach.fannedOut (reach : Reach around policy start pass catalog) :
    pass.FannedOut around policy start := by
  have ended (finished : pass.Finished) (task : Task) (member : task ∈ pass.tasks) :
      ∃ worked, task.rest = .done worked := reach.done_of_finished finished member
  have moves (unfinished : ¬pass.Finished) := reach.moves unfinished
  cases reach.splits with
  | @opening told rest _ course =>
    refine ⟨Nat.zero_le _, Nat.zero_le _, List.nodup_nil, nofun, nofun, moves, ended, ?_, ?_⟩
    · rintro ⟨summary, rfl⟩ subjects heard
      exact absurd heard (course.asks (Program.asks_opening policy.retry) subjects)
    · rintro ⟨summary, rfl⟩
      exact ⟨_, _, course, congrArg (Summary.mk · summary.removal) (add_zero summary.tally).symm⟩
  | @round told round _ opened listed course splits =>
    have crew : round.busy.length ≤ max policy.maxConcurrent 1 :=
      Nat.le.intro (Nat.add_comm .. ▸ splits.crew)
    obtain ⟨subjects, listing, rfl⟩ := course.asks (Program.asks_opening policy.retry)
    refine ⟨crew, (calls_le_busy splits).trans crew, splits.apart.distinct, ?_, ?_, moves,
      ended, ?_, ?_⟩
    · intro task member
      have shared := splits.share.mem_iff.1 (List.mem_append_right _ (List.mem_map_of_mem member))
      exact ⟨subjects, listing, Names.mem_toList_ofList.1 shared⟩
    · exact fun _ _ => ⟨_, _, _, course⟩
    · intro finished others heard subject isListed
      obtain rfl := (listing others).1 heard
      have share := Finished.share finished splits
      exact List.mem_map.1 (share.mem_iff.2 (Names.mem_toList_ofList.2 isListed))
    · intro finished
      have folded : round.tasks = round.counted := by
        rw [Round.tasks, finished.2.1, finished.2.2, List.nil_append, List.nil_append]
      refine ⟨_, _, course, congrArg (Summary.mk · round.summary.removal) ?_⟩
      rw [round.tally_eq, ← folded]
      rfl

end Pass

/-- At every moment of a pass, whatever the registry lists and in whatever order, whatever is
answered and however the tasks take turns: no more tasks hold a permit, and so no more calls are
open, than the policy allows and at least one; a task is begun only after the opening is over,
which ends with the removal of stale subjects; its subject is listed and has no other task. Until it
has finished the pass can go on, and when it has, every task has ended, every listed subject had
one, and the result counts each of them once. -/
theorem passes_fan_out {around : Surroundings} {policy : RunPolicy} {start catalog : Catalog}
    {pass : Pass} (reach : Pass.Reach around policy start pass catalog) :
    pass.FannedOut around policy start :=
  reach.fannedOut

/-- Three subjects are listed, one of them twice. A crew of two has begun the first two, and both
wait for an answer. -/
theorem passes_fan_out_of_two : ∃ pass, Pass.Reach .moody ⟨2, .standard⟩ .empty pass .empty ∧
    pass.FannedOut .moody ⟨2, .standard⟩ .empty ∧
      pass.tasks.map (·.subject) = ["bills", "drafts"] ∧ pass.tasks.countP (·.calls) = 2 := by
  have begun : Pass.Reach .moody ⟨2, .standard⟩ .empty _ .empty := .start
  have listed := begun.next (.told (@Surroundings.Gives.replied _ _ _ _ _
    (Attempt.answered ["orders", "drafts", "orders", "bills"]) trivial))
  have known := listed.next (.told (.accepted trivial))
  have opened := known.next .opened
  have one := opened.next (.round .begun)
  have two := one.next (.round .begun)
  have first := two.next (.round (@Round.Goes.worked _ _ _ _ _ _ [] _ _ _ _ [_] _ _ _ _ _
    (.accepted trivial)))
  have second := first.next (.round (@Round.Goes.worked _ _ _ _ _ _ [_] _ _ _ _ [] _ _ _ _ _
    (.accepted trivial)))
  exact ⟨_, second, passes_fan_out second, rfl, rfl⟩

/-- So the pass that a host carries out has shared out its work, and it has finished. -/
theorem runPass_fans_out {σ : Type} {host : Host σ} {view : σ → Catalog} {around : Surroundings}
    (within : host.Within view around) (policy : RunPolicy) (now : Nat) (state : σ) :
    ∃ pass : Pass, pass.FannedOut around policy (view state) ∧ pass.Finished ∧
      pass.summary = (runPass host policy now state).1 := by
  obtain ⟨pass, reach, finished, summary⟩ := Pass.reach_runPass within policy now state
  exact ⟨pass, reach.fannedOut, finished, summary⟩

end SchemaLedger
