import SchemaLedger.Proofs.Sync.History
import SchemaLedger.Proofs.Sync.Steady

namespace SchemaLedger

/-- How calls end and which requests fail, by what the program was told before. -/
structure Conduct where
  reply : List Exchange → (call : Query) → Attempt call.Reply
  refusal : List Exchange → Request → Option StoreError

/-- A host that gives the only answers there are. What it keeps is settled by the exchanges with
the program and by the catalog. -/
def Host.Obeys {σ : Type} (host : Host σ) (state : List Exchange → Catalog → σ)
    (around : Surroundings) : Prop :=
  ∀ told catalog effect answer catalog', around.Gives told catalog effect answer catalog' →
    ∀ now, host effect now (state told catalog) =
      (answer, now, state (told ++ [⟨effect, answer⟩]) catalog')

/-- Such a host comes along every course there is. -/
theorem Program.Course.run_eq {α σ : Type} {host : Host σ} {state : List Exchange → Catalog → σ}
    {around : Surroundings} {program rest : Program α} {start catalog : Catalog}
    {told : List Exchange} (course : Course around program start told rest catalog)
    (obeys : host.Obeys state around) (now : Nat) :
    program.run host now (state [] start) = rest.run host now (state told catalog) := by
  induction course with
  | start => rfl
  | next previous gives ih =>
    rw [ih, Program.run, obeys _ _ _ _ _ gives now]

/-- How a program ended that was alone. -/
structure Ending (α : Type) where
  value : α
  told : List Exchange
  catalog : Catalog

namespace Conduct

variable {α : Type} (conduct : Conduct)

def around : Surroundings where
  replies told call attempt := attempt = conduct.reply told call
  accepts told request := conduct.refusal told request = none
  refuses told request error := conduct.refusal told request = some error

/-- The one answer to an effect, and the catalog after it. -/
def answer (told : List Exchange) (catalog : Catalog) : (effect : Effect) → effect.Answer × Catalog
  | .query _ call => (conduct.reply told call, catalog)
  | .store request =>
    match conduct.refusal told request with
    | some error => (.error error, catalog)
    | none => (.ok (catalog.perform request).1, (catalog.perform request).2)
  | .pause _ => ((), catalog)
  | .report _ => ((), catalog)

/-- Carries out one program and keeps what it is told. No time passes. -/
def host : Host (List Exchange × Catalog) := fun effect now (told, catalog) =>
  let (answer, catalog) := conduct.answer told catalog effect
  (answer, now, told ++ [⟨effect, answer⟩], catalog)

/-- Runs a program that is alone. -/
def ending (program : Program α) (start : Catalog) : Ending α :=
  let (value, _, told, catalog) := program.run conduct.host 0 ([], start)
  ⟨value, told, catalog⟩

/-- Works on subjects one after the other, each of them alone, and adds up their counts. -/
def inTurn (policy : RetryPolicy) : List String → Tally → Catalog → Tally × Catalog
  | [], tally, catalog => (tally, catalog)
  | subject :: rest, tally, catalog =>
    let alone := conduct.ending (Program.catchUp policy subject) catalog
    inTurn policy rest (tally + alone.value.total) alone.catalog

/-- Two conducts that are the same towards one subject. -/
structure Alike (subject : String) (a b : Conduct) : Prop where
  reply : ∀ told call, call.subject? = some subject → a.reply told call = b.reply told call
  refusal : ∀ told request, request.subject? = some subject →
    a.refusal told request = b.refusal told request

variable {conduct} {program rest : Program α} {start catalog a b : Catalog}
  {told : List Exchange} {subject : String}

theorem gives_answer (told : List Exchange) (catalog : Catalog) (effect : Effect) :
    conduct.around.Gives told catalog effect (conduct.answer told catalog effect).1
      (conduct.answer told catalog effect).2 := by
  cases effect with
  | query limit call => exact .replied rfl
  | pause | report => constructor
  | store request =>
    dsimp only [Conduct.answer]
    cases refused : conduct.refusal told request with
    | none =>
      have accepts : conduct.around.accepts told request := refused
      exact .accepted accepts
    | some error =>
      have refuses : conduct.around.refuses told request error := refused
      exact .refused refuses

theorem answer_eq {effect : Effect} {answer : effect.Answer} {catalog' : Catalog}
    (gives : conduct.around.Gives told catalog effect answer catalog') :
    conduct.answer told catalog effect = (answer, catalog') := by
  cases gives with
  | replied reply => exact Prod.ext reply.symm rfl
  | accepted accepted =>
    have noRefusal : conduct.refusal told _ = none := accepted
    simp only [Conduct.answer, noRefusal]
  | refused refused =>
    have refusal : conduct.refusal told _ = some _ := refused
    simp only [Conduct.answer, refusal]
  | paused | reported => rfl

theorem host_obeys : conduct.host.Obeys Prod.mk conduct.around := by
  intro told catalog effect answer catalog' gives now
  simp only [host, answer_eq gives]

/-- The induction is on what is left of the program. -/
theorem exists_course (course : Program.Course conduct.around program start told rest catalog) :
    ∃ value told' catalog',
      Program.Course conduct.around program start told' (.done value) catalog' := by
  induction rest generalizing told catalog with
  | done value => exact ⟨value, told, catalog, course⟩
  | perform effect next ih => exact ih _ (.next course (gives_answer told catalog effect))

/-- A program comes to no other end than that of its run. -/
theorem ending_eq {value : α}
    (course : Program.Course conduct.around program start told (.done value) catalog) :
    conduct.ending program start = ⟨value, told, catalog⟩ := by
  have run := course.run_eq host_obeys 0
  unfold ending
  rw [run, Program.run]

theorem course_ending (program : Program α) (start : Catalog) :
    Program.Course conduct.around program start (conduct.ending program start).told
      (.done (conduct.ending program start).value) (conduct.ending program start).catalog := by
  have begun : Program.Course conduct.around program start [] program start := .start
  obtain ⟨value, told, catalog, course⟩ := exists_course begun
  rw [ending_eq course]
  exact course

/-- A program about one subject ends alike on equal shelves of it, and leaves all others alone. -/
theorem ending_shelf_of_ne (about : program.About subject) {other : String}
    (different : other ≠ subject) :
    (conduct.ending program start).catalog.shelf other = start.shelf other := by
  exact ((course_ending program start).local about rfl).1 other different

theorem ending_congr (about : program.About subject) (same : a.shelf subject = b.shelf subject) :
    (conduct.ending program a).value = (conduct.ending program b).value ∧
      (conduct.ending program a).told = (conduct.ending program b).told ∧
      (conduct.ending program a).catalog.shelf subject =
        (conduct.ending program b).catalog.shelf subject := by
  obtain ⟨-, catalog, course, after⟩ := (course_ending program a).local about same
  rw [ending_eq course]
  exact ⟨rfl, rfl, after⟩

/-- A program about one subject does not see what a conduct is like towards others. -/
theorem Alike.course {first second : Conduct} (alike : Alike subject first second)
    (about : program.About subject)
    (course : Program.Course first.around program start told rest catalog) :
    Program.Course second.around program start told rest catalog := by
  induction course with
  | start => exact .start
  | @next told effect rest catalog answer catalog' previous gives ih =>
    have own := (previous.only about).1
    refine .next ih ?_
    cases gives with
    | replied reply => exact .replied (reply.trans (alike.reply _ _ own))
    | accepted accepts =>
      have same := alike.refusal told _ (Request.subject?_of_fills? own)
      exact .accepted (same.symm.trans accepts)
    | refused refuses =>
      have same := alike.refusal told _ (Request.subject?_of_fills? own)
      exact .refused (same.symm.trans refuses)
    | paused => exact .paused
    | reported => exact .reported

/-- Nobody's work in turn depends on those whose turn came before. The induction is on the
subjects whose turn is still to come. -/
theorem inTurn_eq (conduct : Conduct) (policy : RetryPolicy) {subjects : List String}
    (distinct : subjects.Nodup) (tally : Tally) (catalog : Catalog) :
    (conduct.inTurn policy subjects tally catalog).1 = tally + (subjects.map fun subject =>
        (conduct.ending (Program.catchUp policy subject) catalog).value.total).sum ∧
      ∀ subject, (conduct.inTurn policy subjects tally catalog).2.shelf subject =
        if subject ∈ subjects then
          (conduct.ending (Program.catchUp policy subject) catalog).catalog.shelf subject
        else catalog.shelf subject := by
  induction subjects generalizing tally catalog with
  | nil => exact ⟨(add_zero tally).symm, fun _ => rfl⟩
  | cons first rest ih =>
    obtain ⟨fresh, distinct⟩ := List.nodup_cons.1 distinct
    let alone := conduct.ending (Program.catchUp policy first) catalog
    have others {subject : String} (different : subject ≠ first) :
        alone.catalog.shelf subject = catalog.shelf subject :=
      ending_shelf_of_ne Program.about_catchUp different
    have value {subject : String} (different : subject ≠ first) :
        (conduct.ending (Program.catchUp policy subject) alone.catalog).value =
          (conduct.ending (Program.catchUp policy subject) catalog).value :=
      (ending_congr Program.about_catchUp (others different)).1
    have shelf {subject : String} (different : subject ≠ first) :
        (conduct.ending (Program.catchUp policy subject) alone.catalog).catalog.shelf subject =
          (conduct.ending (Program.catchUp policy subject) catalog).catalog.shelf subject :=
      (ending_congr Program.about_catchUp (others different)).2.2
    obtain ⟨counts, shelves⟩ := ih distinct (tally + alone.value.total) alone.catalog
    constructor
    · have same : (rest.map fun subject =>
          (conduct.ending (Program.catchUp policy subject) alone.catalog).value.total) =
          rest.map fun subject =>
            (conduct.ending (Program.catchUp policy subject) catalog).value.total := by
        refine List.map_congr_left fun subject member => ?_
        have different : subject ≠ first := fun same => fresh (same ▸ member)
        rw [value different]
      rw [inTurn, counts, same, List.map_cons, List.sum_cons, ← add_assoc]
    · intro subject
      rw [inTurn, shelves]
      by_cases same : subject = first
      · subst same
        rw [if_neg fresh, if_pos List.mem_cons_self]
      · rw [shelf same, others same]
        simp only [List.mem_cons, same, false_or]

end Conduct

section Schedules

variable {conduct other : Conduct} {policy policy' : RunPolicy}
  {start start' catalog catalog' : Catalog} {pass pass' : Pass}

/-- A finished task has done what it does alone on the catalog that the opening left. -/
theorem Pass.Reach.tasks_alone (reach : Pass.Reach conduct.around policy start pass catalog)
    (finished : pass.Finished) {listed : Names}
    (lists : (conduct.ending (Program.opening policy.retry) start).value.1 = some listed) :
    let opening := conduct.ending (Program.opening policy.retry) start
    (pass.tasks.map (·.subject)).Perm listed.toList ∧
      (∀ task ∈ pass.tasks,
        let alone := conduct.ending (Program.catchUp policy.retry task.subject) opening.catalog
        task = ⟨task.subject, alone.told, .done alone.value⟩ ∧
          catalog.shelf task.subject = alone.catalog.shelf task.subject) ∧
      (∀ subject, subject ∉ listed.toList →
        catalog.shelf subject = opening.catalog.shelf subject) ∧
      pass.summary = ⟨opening.value.2.tally + (pass.tasks.map Task.total).sum,
        opening.value.2.removal⟩ := by
  cases reach.end_of_finished finished with
  | unlisted course =>
    rw [Conduct.ending_eq course] at lists
    cases lists
  | listed course share alone idle counts =>
    rw [Conduct.ending_eq course] at lists ⊢
    cases lists
    refine ⟨share, fun task member => ?_, idle, counts⟩
    obtain ⟨worked, own, done, own_course, agrees⟩ := alone task member
    rw [Conduct.ending_eq own_course]
    obtain ⟨subject, told, rest⟩ := task
    cases done
    exact ⟨rfl, agrees.symm⟩

/-- What one subject is told, what comes of it and what is left on its shelf do not depend on how
the rest of the world behaves. -/
theorem Pass.Reach.task_eq (reach : Pass.Reach conduct.around policy start pass catalog)
    (finished : pass.Finished) (reach' : Pass.Reach other.around policy' start' pass' catalog')
    (finished' : pass'.Finished) (retry : policy.retry = policy'.retry) {task task' : Task}
    (member : task ∈ pass.tasks) (member' : task' ∈ pass'.tasks)
    (own : task.subject = task'.subject) (alike : conduct.Alike task.subject other)
    (same : start.shelf task.subject = start'.shelf task.subject) :
    task = task' ∧ catalog.shelf task.subject = catalog'.shelf task.subject := by
  obtain ⟨worked, done⟩ := reach.done_of_finished finished member
  obtain ⟨worked', done'⟩ := reach'.done_of_finished finished' member'
  obtain ⟨-, opened, last, course, before, after⟩ := reach.course member
  obtain ⟨-, opened', last', course', before', after'⟩ := reach'.course member'
  obtain ⟨subject, told, rest⟩ := task
  obtain ⟨subject', told', rest'⟩ := task'
  dsimp only at own done done' before before' after after' course course' same
  subst own done done'
  rw [← retry] at course'
  have found : opened.shelf subject = opened'.shelf subject :=
    before.trans (same.trans before'.symm)
  obtain ⟨-, ending, moved, agrees⟩ := course.local Program.about_catchUp found
  have here := Conduct.ending_eq (alike.course Program.about_catchUp moved)
  have there := Conduct.ending_eq course'
  cases here.symm.trans there
  exact ⟨rfl, after.symm.trans (agrees.trans after')⟩

/-- The counts and the shelves are those of any order in which the subjects have their turns. -/
theorem Pass.Reach.eq_inTurn (reach : Pass.Reach conduct.around policy start pass catalog)
    (finished : pass.Finished) {listed : Names}
    (lists : (conduct.ending (Program.opening policy.retry) start).value.1 = some listed)
    {order : List String} (same : order.Perm listed.toList) :
    let opening := conduct.ending (Program.opening policy.retry) start
    let inTurn := conduct.inTurn policy.retry order opening.value.2.tally opening.catalog
    pass.summary = ⟨inTurn.1, opening.value.2.removal⟩ ∧
      ∀ subject, catalog.shelf subject = inTurn.2.shelf subject := by
  obtain ⟨share, alone, idle, counts⟩ := reach.tasks_alone finished lists
  intro opening inTurn
  have distinct := same.nodup_iff.2 listed.toList_nodup
  obtain ⟨tally, shelves⟩ := Conduct.inTurn_eq conduct policy.retry distinct
    opening.value.2.tally opening.catalog
  let total (subject : String) : Tally :=
    (conduct.ending (Program.catchUp policy.retry subject) opening.catalog).value.total
  constructor
  · have totals : pass.tasks.map Task.total = (pass.tasks.map (·.subject)).map total := by
      rw [List.map_map]
      refine List.map_congr_left fun task begun => ?_
      rw [(alone task begun).1]
      rfl
    have sums : (pass.tasks.map Task.total).sum = (order.map total).sum := by
      rw [totals]
      exact ((share.trans same.symm).map total).sum_eq
    rw [counts, sums]
    exact congrArg (Summary.mk · opening.value.2.removal) tally.symm
  · intro subject
    rw [shelves]
    by_cases member : subject ∈ order
    · rw [if_pos member]
      obtain ⟨task, begun, rfl⟩ := List.mem_map.1 ((share.trans same.symm).mem_iff.2 member)
      exact (alone task begun).2
    · rw [if_neg member]
      exact idle subject fun listedHere => member (same.mem_iff.2 listedHere)

/-- Over every schedule of every crew, whatever the registry answers and whichever requests fail, as
long as the end of a call hangs on nothing but what its program was told before: each listed subject
fares as if it were alone on the catalog that the opening left; the counts are those of working on
one subject after the other, in any order; and a subject notices neither the faults of others nor
the size of the crew. -/
theorem every_schedule_goes_as_in_turn
    (reach : Pass.Reach conduct.around policy start pass catalog) (finished : pass.Finished) :
    let opening := conduct.ending (Program.opening policy.retry) start
    (opening.value.1 = none → catalog = opening.catalog ∧ pass.summary = opening.value.2) ∧
    (∀ listed, opening.value.1 = some listed →
      (∀ subject ∈ listed.toList,
        let alone := conduct.ending (Program.catchUp policy.retry subject) opening.catalog
        catalog.shelf subject = alone.catalog.shelf subject ∧
          ⟨subject, alone.told, .done alone.value⟩ ∈ pass.tasks) ∧
      (∀ subject, subject ∉ listed.toList →
        catalog.shelf subject = opening.catalog.shelf subject) ∧
      ∀ order : List String, order.Perm listed.toList →
        let inTurn := conduct.inTurn policy.retry order opening.value.2.tally opening.catalog
        pass.summary = ⟨inTurn.1, opening.value.2.removal⟩ ∧
          ∀ subject, catalog.shelf subject = inTurn.2.shelf subject) ∧
    ∀ (other : Conduct) (policy' : RunPolicy) (start' : Catalog) (pass' : Pass)
      (catalog' : Catalog), policy.retry = policy'.retry →
      Pass.Reach other.around policy' start' pass' catalog' → pass'.Finished →
      ∀ subject, conduct.Alike subject other → start.shelf subject = start'.shelf subject →
      ∀ task ∈ pass.tasks, task.subject = subject →
      ∀ task' ∈ pass'.tasks, task'.subject = subject →
        task = task' ∧ catalog.shelf subject = catalog'.shelf subject := by
  intro opening
  refine ⟨fun none => ?_, fun listed lists => ⟨?_, ?_, ?_⟩, ?_⟩
  · cases reach.end_of_finished finished with
    | unlisted course _ counts =>
      have same : opening = ⟨(_, _), _, _⟩ := Conduct.ending_eq course
      rw [same]
      exact ⟨rfl, counts⟩
    | listed course =>
      have same : opening = ⟨(_, _), _, _⟩ := Conduct.ending_eq course
      rw [same] at none
      cases none
  · intro subject member
    obtain ⟨share, alone, -⟩ := reach.tasks_alone finished lists
    obtain ⟨task, begun, rfl⟩ := List.mem_map.1 (share.mem_iff.2 member)
    obtain ⟨told, shelf⟩ := alone task begun
    exact ⟨shelf, told ▸ begun⟩
  · exact (reach.tasks_alone finished lists).2.2.1
  · intro order same
    exact reach.eq_inTurn finished lists same
  · intro other policy' start' pass' catalog' retry reach' finished' subject alike same task member
      own task' member' own'
    subst own
    exact reach.task_eq finished reach' finished' retry member member' own'.symm alike same

end Schedules

namespace Conduct

/-- A conduct that hangs on nothing that was told before. -/
def steady (replies : Replies) (refusals : Refusals) : Conduct :=
  ⟨fun _ => replies, fun _ => refusals⟩

theorem steady_within (replies : Replies) (refusals : Refusals) :
    (steadyHost replies refusals).Within id (steady replies refusals).around :=
  steadyHost_within (fun _ _ => rfl) (fun _ _ accepts => accepts) fun _ _ _ refuses => refuses

end Conduct

/-- Two subjects of one version each. -/
def twoSubjects : Replies
  | .subjects => .answered ["stock", "orders"]
  | .latest subject => .answered ⟨subject, 1, ⟨some "{}", .avro, none⟩, none, none, none⟩
  | .version subject number => .answered ⟨subject, number, ⟨some "{}", .avro, none⟩, none, none, none⟩
  | .config _ => .timedOut
  | .mode _ => .failed (.notFound "mode")

/-- Nothing can be written for one of them. -/
def refuseOrders : Refusals
  | .put row => if row.subject = "orders" then some (.io "disk full") else none
  | _ => none

/-- Writes that fail for one subject do not change the work on the other, and the counts are those
of either order. -/
theorem every_schedule_goes_as_in_turn_of_twoSubjects :
    ∃ sick healthy stored whole,
      Pass.Reach (Conduct.steady twoSubjects refuseOrders).around .standard .empty sick stored ∧
      sick.Finished ∧
      Pass.Reach (Conduct.steady twoSubjects .none).around ⟨1, .standard⟩ .empty healthy whole ∧
      healthy.Finished ∧ sick.summary.tally = ⟨2, 1, 2, 1, 1⟩ ∧
      stored.shelf "stock" = whole.shelf "stock" ∧ (stored.row? "stock" 1).isSome ∧
      stored.row? "orders" 1 = none := by
  obtain ⟨sick, reach, finished, -⟩ :=
    Pass.reach_runPass (Conduct.steady_within twoSubjects refuseOrders) .standard 0 .empty
  obtain ⟨healthy, reach', finished', -⟩ :=
    Pass.reach_runPass (Conduct.steady_within twoSubjects .none) ⟨1, .standard⟩ 0 .empty
  have stocked : (((runPass (steadyHost twoSubjects refuseOrders) .standard 0 .empty).2.2).row?
      "stock" 1).isSome := by decide +kernel
  have missing : ¬(((runPass (steadyHost twoSubjects refuseOrders) .standard 0 .empty).2.2).row?
      "orders" 1).isSome := by decide +kernel
  dsimp only [id] at reach reach'
  have lists : ((Conduct.steady twoSubjects refuseOrders).ending
      (Program.opening RunPolicy.standard.retry) .empty).value.1 =
      some (Names.ofList ["stock", "orders"]) := by decide +kernel
  have lists' : ((Conduct.steady twoSubjects .none).ending
      (Program.opening RunPolicy.standard.retry) .empty).value.1 =
      some (Names.ofList ["stock", "orders"]) := by decide +kernel
  have listed : "stock" ∈ (Names.ofList ["stock", "orders"]).toList := by decide +kernel
  have order : ["stock", "orders"].Perm (Names.ofList ["stock", "orders"]).toList := by
    decide +kernel
  have alike : (Conduct.steady twoSubjects refuseOrders).Alike "stock"
      (Conduct.steady twoSubjects .none) := by
    refine ⟨fun _ _ _ => rfl, fun told request own => ?_⟩
    cases request with
    | put row =>
      have other : row.subject ≠ "orders" := by
        rw [Option.some.inj own]
        decide
      exact if_neg other
    | _ => rfl
  obtain ⟨-, each, isolated⟩ := every_schedule_goes_as_in_turn reach finished
  obtain ⟨-, each', -⟩ := every_schedule_goes_as_in_turn reach' finished'
  obtain ⟨alone, -, turns⟩ := each _ lists
  have same := isolated _ ⟨1, .standard⟩ _ _ _ rfl reach' finished' "stock" alike rfl
    _ (alone "stock" listed).2 rfl _ ((each' _ lists').1 "stock" listed).2 rfl
  refine ⟨sick, healthy, _, _, reach, finished, reach', finished', ?_, same.2, stocked,
    Option.not_isSome_iff_eq_none.1 missing⟩
  rw [(turns ["stock", "orders"] order).1]
  decide +kernel

end SchemaLedger
