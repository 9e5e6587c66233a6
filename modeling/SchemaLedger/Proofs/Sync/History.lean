import Mathlib.Data.List.Induction
import Mathlib.Data.List.Nodup
import SchemaLedger.Proofs.Catalog.Sound
import SchemaLedger.Proofs.Sync.Crew

namespace SchemaLedger

theorem Surroundings.Gives.sound {around : Surroundings} {told : List Exchange}
    {catalog catalog' : Catalog} {effect : Effect} {answer : effect.Answer}
    (gives : around.Gives told catalog effect answer catalog') (sound : catalog.Sound) :
    catalog'.Sound := by
  cases gives with
  | accepted => exact sound.perform _
  | replied | refused | paused | reported => exact sound

namespace Program.Course

variable {around : Surroundings} {policy : RetryPolicy} {subject : String}
  {start catalog : Catalog} {told : List Exchange}

theorem underway {rest : Program Worked}
    (course : Course around (catchUp policy subject) start told rest catalog) :
    Underway subject start told catalog :=
  (course.kept (.inl .nil) keeps_catchUp).1

theorem concluded {worked : Worked}
    (course : Course around (catchUp policy subject) start told (.done worked) catalog) :
    Concluded subject start worked.outcome told catalog :=
  course.kept_done (.inl .nil) keeps_catchUp

theorem cleared {rest : Program (Option Names × Summary)}
    (course : Course around (opening policy) start told rest catalog) :
    Cleared start told catalog :=
  (course.kept cleared_nil keeps_opening).1

theorem opened {result : Option Names × Summary}
    (course : Course around (opening policy) start told (.done result) catalog) :
    Opened result told catalog :=
  (course.kept_done cleared_nil keeps_opening).2

theorem removed_unlisted {rest : Program (Option Names × Summary)}
    (course : Course around (opening policy) start told rest catalog)
    (removed : Removed subject told) : ∃ earlier subjects,
      around.replies earlier .subjects (.answered subjects) ∧ subject ∉ subjects := by
  obtain ⟨-, subjects, heard, unlisted⟩ := course.cleared.removed subject removed
  obtain ⟨earlier, reply⟩ := course.heard_allowed heard
  exact ⟨earlier, subjects, reply, unlisted⟩

end Program.Course

namespace Pass

variable {around : Surroundings} {policy : RunPolicy} {start catalog : Catalog} {pass : Pass}

/-- What a pass that was begun in the catalog `start` has done to one subject so far: nothing, or
the removal of its shelf, or the work of a task that found the shelf as the pass had found it. -/
inductive Treats (around : Surroundings) (policy : RunPolicy) (start : Catalog) (pass : Pass)
    (catalog : Catalog) (subject : String) : Prop
  | spared : (∀ task ∈ pass.tasks, task.subject ≠ subject) → ¬Removed subject pass.told →
      catalog.shelf subject = start.shelf subject →
      Treats around policy start pass catalog subject
  | removed : (∀ task ∈ pass.tasks, task.subject ≠ subject) → Removed subject pass.told →
      catalog.shelf subject = Shelf.empty → Treats around policy start pass catalog subject
  | worked {told rest opened own} : ⟨subject, told, rest⟩ ∈ pass.tasks →
      ¬Removed subject pass.told →
      Program.Course around (Program.catchUp policy.retry subject) opened told rest own →
      opened.shelf subject = start.shelf subject → own.shelf subject = catalog.shelf subject →
      Treats around policy start pass catalog subject

theorem Reach.treats (reach : Reach around policy start pass catalog) (subject : String) :
    pass.Treats around policy start catalog subject := by
  cases reach.splits with
  | @opening told _ _ course =>
    have cleared := course.cleared
    by_cases removed : Removed subject told
    · exact .removed nofun removed (cleared.removed subject removed).1
    · exact .spared nofun removed (cleared.others subject removed)
  | @round told round _ opened listed course splits =>
    have cleared := course.cleared
    by_cases begun : ∃ task ∈ round.tasks, task.subject = subject
    · obtain ⟨⟨subject, taskTold, rest⟩, member, rfl⟩ := begun
      obtain ⟨own, taskCourse, agrees⟩ := splits.apart.alone _ member
      have listedHere : subject ∈ listed.toList :=
        splits.share.mem_iff.1 (List.mem_append_right _ (List.mem_map_of_mem member))
      have standing : ¬Removed subject told := by
        intro removed
        obtain ⟨-, subjects, heard, unlisted⟩ := cleared.removed subject removed
        obtain ⟨others, heardThen, rfl, -⟩ := course.opened
        cases cleared.once subjects others heard heardThen
        exact unlisted (Names.mem_toList_ofList.1 listedHere)
      exact .worked member standing taskCourse (cleared.others subject standing) agrees
    · have unbegun : ∀ task ∈ round.tasks, task.subject ≠ subject := fun task member same =>
        begun ⟨task, member, same⟩
      have idle := splits.apart.idle subject unbegun
      by_cases removed : Removed subject told
      · exact .removed unbegun removed (idle.trans (cleared.removed subject removed).1)
      · exact .spared unbegun removed (idle.trans (cleared.others subject removed))

/-- No subject has two tasks in a pass. -/
theorem Reach.task_unique (reach : Reach around policy start pass catalog) {a b : Task}
    (first : a ∈ pass.tasks) (second : b ∈ pass.tasks) (same : a.subject = b.subject) : a = b := by
  cases reach.splits with
  | opening => cases first
  | round course splits => exact List.inj_on_of_nodup_map splits.apart.distinct first second same

/-- A task as a course of its own, told about the catalogs of the pass. -/
theorem Reach.course (reach : Reach around policy start pass catalog) {task : Task}
    (member : task ∈ pass.tasks) :
    ¬Removed task.subject pass.told ∧ ∃ opened own,
      Program.Course around (Program.catchUp policy.retry task.subject) opened task.told task.rest
        own ∧ opened.shelf task.subject = start.shelf task.subject ∧
      own.shelf task.subject = catalog.shelf task.subject := by
  cases reach.treats task.subject with
  | spared unbegun => exact absurd rfl (unbegun task member)
  | removed unbegun => exact absurd rfl (unbegun task member)
  | worked other standing course before after =>
    have same := reach.task_unique member other rfl
    rw [same]
    exact ⟨standing, _, _, course, before, after⟩

theorem Reach.concluded (reach : Reach around policy start pass catalog) {task : Task}
    (member : task ∈ pass.tasks) {worked : Worked} (done : task.rest = .done worked) :
    Concluded task.subject start worked.outcome task.told catalog := by
  obtain ⟨-, _, _, course, before, after⟩ := reach.course member
  rw [done] at course
  exact course.concluded.congr before after

/-- Only subjects that the registry has just left out of its list are removed. -/
theorem Reach.removed_unlisted (reach : Reach around policy start pass catalog) {subject : String}
    (removed : Removed subject pass.told) : ∃ earlier subjects,
      around.replies earlier .subjects (.answered subjects) ∧ subject ∉ subjects := by
  cases reach.splits with
  | opening course => exact course.removed_unlisted removed
  | round course => exact course.removed_unlisted removed

/-- A finished pass had no list, or it has done its work on every listed subject and, unless a
request failed, left no other subject in the catalog. -/
theorem Reach.finished (reach : Reach around policy start pass catalog) (finished : pass.Finished) :
    (∃ earlier attempt, around.replies earlier .subjects attempt ∧
      ∀ subjects, attempt ≠ .answered subjects) ∨
    ∃ earlier subjects, around.replies earlier .subjects (.answered subjects) ∧
      (∀ subject ∈ subjects, ∃ task ∈ pass.tasks, task.subject = subject ∧
        ∃ worked, task.rest = .done worked) ∧
      ((∀ subject, subject ∉ subjects → catalog.shelf subject = Shelf.empty) ∨
        ∃ earlier request error, around.refuses earlier request error) := by
  cases reach.end_of_finished finished with
  | unlisted course =>
    obtain ⟨attempt, heard, unanswered⟩ := course.opened
    obtain ⟨earlier, reply⟩ := course.heard_allowed heard
    exact .inl ⟨earlier, attempt, reply, unanswered⟩
  | listed course share alone idle =>
    obtain ⟨subjects, heard, rfl, cleared⟩ := course.opened
    obtain ⟨earlier, reply⟩ := course.heard_allowed heard
    refine .inr ⟨earlier, subjects, reply, fun subject member => ?_, cleared.imp ?_ ?_⟩
    · have shared := share.mem_iff.2 (Names.mem_toList_ofList.2 member)
      obtain ⟨task, isTask, own⟩ := List.mem_map.1 shared
      obtain ⟨worked, -, done, -⟩ := alone task isTask
      exact ⟨task, isTask, own, worked, done⟩
    · intro empty subject unlisted
      rw [idle subject fun member => unlisted (Names.mem_toList_ofList.1 member)]
      exact empty subject unlisted
    · rintro ⟨request, error, answered⟩
      obtain ⟨earlier, refusal⟩ := course.refusal_allowed answered
      exact ⟨earlier, request, error, refusal⟩

theorem Reach.sound (reach : Reach around policy start pass catalog) (sound : start.Sound) :
    catalog.Sound := by
  induction reach with
  | start => exact sound
  | next previous step ih =>
    cases step with
    | told gives => exact gives.sound ih
    | opened => exact ih
    | round step =>
      cases step with
      | worked gives => exact gives.sound ih
      | begun | ended | counted => exact ih

end Pass

/-- Passes one after the other, each of them finished or broken off at any moment. -/
inductive Passes (around : Surroundings) (start : Catalog) : List Pass → Catalog → Prop
  | start : Passes around start [] start
  | next {passes catalog policy pass catalog'} : Passes around start passes catalog →
      Pass.Reach around policy catalog pass catalog' →
      Passes around start (passes ++ [pass]) catalog'

namespace Passes

variable {around : Surroundings} {start catalog : Catalog} {passes : List Pass}

theorem sound (history : Passes around start passes catalog) (sound : start.Sound) :
    catalog.Sound := by
  induction history with
  | start => exact sound
  | next _ reach ih => exact reach.sound ih

theorem last {pass : Pass} (history : Passes around start (passes ++ [pass]) catalog) :
    ∃ before policy, Passes around start passes before ∧
      Pass.Reach around policy before pass catalog := by
  generalize whole : passes ++ [pass] = all at history
  cases history with
  | start => exact absurd whole (List.concat_ne_nil pass passes)
  | next previous reach =>
    obtain ⟨rfl, same⟩ := List.append_inj' whole rfl
    cases same
    exact ⟨_, _, previous, reach⟩

theorem widen {wide : Surroundings} (history : Passes around start passes catalog)
    (within : around.Within wide) : Passes wide start passes catalog := by
  induction history with
  | start => exact .start
  | next _ reach ih => exact .next ih (reach.widen within)

/-- A history may be cut between any two passes. -/
theorem split {first second : List Pass}
    (history : Passes around start (first ++ second) catalog) :
    ∃ middle, Passes around start first middle ∧ Passes around middle second catalog := by
  induction second using List.reverseRecOn generalizing catalog with
  | nil => exact ⟨catalog, by rwa [List.append_nil] at history, .start⟩
  | append_singleton second pass ih =>
    rw [← List.append_assoc] at history
    obtain ⟨before, policy, previous, reach⟩ := history.last
    obtain ⟨middle, early, late⟩ := ih previous
    exact ⟨middle, early, .next late reach⟩

end Passes

end SchemaLedger
