import SchemaLedger.Proofs.Sync.Accounts
import SchemaLedger.Proofs.Sync.Settled

namespace SchemaLedger

/-- Nothing is stale in a catalog whose shelves are all those of listed subjects. -/
theorem Catalog.Sound.known_without {catalog : Catalog} {subjects : List String}
    (sound : catalog.Sound) (empty : ∀ subject, subject ∉ subjects → catalog.shelf subject = .empty) :
    catalog.known.without (.ofList subjects) = .empty := by
  refine Names.eq_of_contains fun subject => iff_of_false (fun isStale => ?_) nofun
  have known := Names.contains_ofList.1 (Names.contains_without.1 isStale).1
  obtain ⟨shelf, found⟩ := Option.isSome_iff_exists.1 (Table.mem_keys_iff.1 known)
  obtain ⟨rfl, occupied⟩ := sound.find?_eq_some_iff.1 found
  rw [empty subject (Catalog.unlisted_of_stale isStale)] at occupied
  rcases occupied with entry | artifacts | remarks
  · cases entry
  · exact absurd rfl artifacts
  · exact absurd rfl remarks

namespace Pass.Reach

variable {replies : Replies} {policy : RunPolicy} {start catalog : Catalog} {pass : Pass}
  {subjects : List String}

/-- The opening has heard of the subjects what the registry says of them. -/
theorem heard_subjects {refusals : Refusals}
    (reach : Reach (Conduct.steady replies refusals).around policy start pass catalog)
    (finished : pass.Finished) {attempt : Attempt (List String)} :
    Heard pass.told .subjects attempt ↔ attempt = replies .subjects := by
  cases reach.end_of_finished finished with
  | unlisted course | listed course =>
    have only {attempt : Attempt (List String)} (heard : Heard pass.told .subjects attempt) :
        attempt = replies .subjects := by
      obtain ⟨_, reply⟩ := course.heard_allowed heard
      exact reply
    have asked : ∃ attempt, Heard pass.told .subjects attempt := by
      obtain ⟨attempt, heard, -⟩ := course.opened
      exact ⟨_, heard⟩
    obtain ⟨other, heard⟩ := asked
    exact ⟨only, fun same => (only heard).trans same.symm ▸ heard⟩

section Unfailing

variable (reach : Reach (Conduct.steady replies .none).around policy start pass catalog)
  (finished : pass.Finished)
include reach finished

theorem lost_eq : pass.lost start subjects = start.known.without (.ofList subjects) := by
  have calm : pass.told.any Exchange.fails = false := by
    refine List.any_eq_false.2 fun exchange member fails => ?_
    obtain ⟨effect, answer⟩ := exchange
    cases effect with
    | query | pause | report => cases fails
    | store request =>
      cases answer with
      | ok answer => cases fails
      | error error =>
        cases reach.end_of_finished finished with
        | unlisted course | listed course =>
          obtain ⟨_, refused⟩ := course.refusal_allowed member
          have refusal : Refusals.none request = some error := refused
          exact Refusals.none_ne refusal
  rw [Pass.lost, calm, if_neg Bool.false_ne_true]

/-- The work on a listed subject, told about the catalogs of the pass. -/
theorem caughtUp (heard : Heard pass.told .subjects (.answered subjects)) {subject : String}
    (listed : subject ∈ subjects) : ∃ opened own, opened.shelf subject = start.shelf subject ∧
      own.shelf subject = catalog.shelf subject ∧ replies.CaughtUp subject opened own := by
  obtain ⟨share, -⟩ := reach.end_of_listed finished heard
  have shared := share.mem_iff.2 (Names.mem_toList_ofList.2 listed)
  obtain ⟨task, member, rfl⟩ := List.mem_map.1 shared
  obtain ⟨worked, done⟩ := reach.done_of_finished finished member
  obtain ⟨-, opened, own, course, before, after⟩ := reach.course member
  rw [done] at course
  exact ⟨opened, own, before, after, course.ends Program.ends_catchUp⟩

/-- Subjects that are not listed are gone after the pass. -/
theorem shelf_of_unlisted (heard : Heard pass.told .subjects (.answered subjects))
    {subject : String} (unlisted : subject ∉ subjects) : catalog.shelf subject = .empty := by
  obtain ⟨-, others, -⟩ := reach.end_of_listed finished heard
  rw [others subject unlisted, reach.lost_eq finished]
  split
  · rfl
  · rename_i standing
    exact Catalog.shelf_of_fresh unlisted (Bool.eq_false_iff.2 standing)

end Unfailing

variable {middle : Catalog} {policy' : RunPolicy} {pass' : Pass}

/-- A second pass finds every shelf as it is to be. -/
theorem shelf_again (reach : Reach (Conduct.steady replies .none).around policy start pass middle)
    (finished : pass.Finished)
    (again : Reach (Conduct.steady replies .none).around policy' middle pass' catalog)
    (finished' : pass'.Finished) (heard : Heard pass.told .subjects (.answered subjects))
    (heard' : Heard pass'.told .subjects (.answered subjects)) (subject : String) :
    catalog.shelf subject = middle.shelf subject := by
  by_cases listed : subject ∈ subjects
  · obtain ⟨_, first, -, after, caughtUp⟩ := reach.caughtUp finished heard listed
    obtain ⟨opened, second, before, after', caughtUp'⟩ := again.caughtUp finished' heard' listed
    have settled : replies.Settled subject (opened.shelf subject) := by
      rw [before, ← after]
      exact caughtUp.settled
    rw [← after', settled.shelf_eq caughtUp', before]
  · rw [again.shelf_of_unlisted finished' heard' listed, reach.shelf_of_unlisted finished heard listed]

/-- Where no shelf changes nothing has come, and nothing is counted as new. -/
theorem news_of_same (reach : Reach (Conduct.steady replies .none).around policy start pass catalog)
    (finished : pass.Finished) (heard : Heard pass.told .subjects (.answered subjects))
    (same : ∀ subject, catalog.shelf subject = start.shelf subject) :
    pass.summary.tally.subjectsNew = 0 ∧ pass.summary.tally.versionsNew = 0 := by
  obtain ⟨-, subjectsNew, versionsNew, -⟩ := reach.tally_of_listed finished heard
  have nothing (task : Task) (member : task ∈ pass.tasks) :
      task.told.countP Exchange.inserts = 0 := by
    obtain ⟨worked, done⟩ := reach.done_of_finished finished member
    obtain ⟨come, versions, length⟩ := (reach.accounts member done).2.versions
    rw [← length]
    have size := versions.length_eq
    rw [same, List.length_append] at size
    omega
  rw [subjectsNew, versionsNew]
  constructor
  · refine List.sum_eq_zero fun count member => ?_
    obtain ⟨task, begun, rfl⟩ := List.mem_map.1 member
    exact if_neg fun fresh => absurd fresh.2 (by rw [nothing task begun]; exact Nat.lt_irrefl 0)
  · refine List.sum_eq_zero fun count member => ?_
    obtain ⟨task, begun, rfl⟩ := List.mem_map.1 member
    exact nothing task begun

end Pass.Reach

/-- A pass over a registry that answers every call in the same way each time, on a catalog that
refuses nothing, leaves nothing to do for another one. Whatever the registry answers, with a list or
without, the catalog stays as it is, and nothing is reported as new or removed. -/
theorem rerun_changes_nothing {replies : Replies} {requests : List Request}
    {policy policy' : RunPolicy} {middle catalog : Catalog} {pass pass' : Pass}
    (reach : Pass.Reach (Conduct.steady replies .none).around policy
      (Catalog.keeper.after requests .empty) pass middle)
    (finished : pass.Finished)
    (again : Pass.Reach (Conduct.steady replies .none).around policy' middle pass' catalog)
    (finished' : pass'.Finished) :
    let report := pass'.summary.report
    catalog = middle ∧ pass'.summary.tally.subjectsNew = 0 ∧ pass'.summary.tally.versionsNew = 0 ∧
      pass'.summary.removal = .none ∧ report.subjectsNew = 0 ∧ report.versionsNew = 0 ∧
      report.subjectsRemoved = 0 ∧ report.versionsRemoved = 0 ∧ report.artifactsRemoved = 0 ∧
      report.remarksRemoved = 0 ∧ report.removedSubjects = .empty := by
  intro report
  have told (subjectsNew : pass'.summary.tally.subjectsNew = 0)
      (versionsNew : pass'.summary.tally.versionsNew = 0)
      (removal : pass'.summary.removal = .none) : report.subjectsNew = 0 ∧ report.versionsNew = 0 ∧
        report.subjectsRemoved = 0 ∧ report.versionsRemoved = 0 ∧ report.artifactsRemoved = 0 ∧
        report.remarksRemoved = 0 ∧ report.removedSubjects = .empty := by
    simp only [report, Summary.report, RunReport.withTally, subjectsNew, versionsNew, removal]
    decide
  by_cases listed : ∃ subjects, replies .subjects = .answered subjects
  · obtain ⟨subjects, answered⟩ := listed
    have heard := (reach.heard_subjects finished).2 answered.symm
    have heard' := (again.heard_subjects finished').2 answered.symm
    have shelves := reach.shelf_again finished again finished' heard heard'
    have sound : middle.Sound := reach.sound (Catalog.sound_empty.after requests)
    obtain ⟨subjectsNew, versionsNew⟩ := again.news_of_same finished' heard' shelves
    have lost : pass'.lost middle subjects = .empty := by
      rw [again.lost_eq finished']
      exact sound.known_without fun subject => reach.shelf_of_unlisted finished heard
    have removal : pass'.summary.removal = .none := by
      obtain ⟨-, -, counts⟩ := again.end_of_listed finished' heard'
      have counted : middle.count .empty = .zero := congrArg Prod.fst (Catalog.remove_empty middle)
      rw [counts, lost, counted]
      rfl
    exact ⟨(again.sound sound).eq_of_shelves sound shelves, subjectsNew, versionsNew, removal,
      told subjectsNew versionsNew removal⟩
  · have unheard (subjects : List String) :
        ¬Heard pass'.told .subjects (.answered subjects) := fun heard =>
      listed ⟨subjects, ((again.heard_subjects finished').1 heard).symm⟩
    obtain ⟨same, counts⟩ := again.end_of_unlisted finished' unheard
    have tally : pass'.summary.tally = .error := congrArg Summary.tally counts
    have removal : pass'.summary.removal = .none := congrArg Summary.removal counts
    have subjectsNew : pass'.summary.tally.subjectsNew = 0 := by rw [tally]; rfl
    have versionsNew : pass'.summary.tally.versionsNew = 0 := by rw [tally]; rfl
    exact ⟨same, subjectsNew, versionsNew, removal, told subjectsNew versionsNew removal⟩

/-- Subjects that never come to their latest version, each for another reason, and one that counts
its versions from zero. -/
def unruly : Replies
  | .subjects => .answered ["bare", "phantom", "stuck", "zero"]
  | .latest subject =>
    if subject = "bare" then .answered ⟨subject, 2, ⟨none, .avro, none⟩, none, none, none⟩
    else if subject = "phantom" then .failed (.notFound "latest")
    else if subject = "stuck" then .answered ⟨subject, 3, ⟨some "{}", .avro, none⟩, none, none, none⟩
    else .answered ⟨subject, 0, ⟨some "{}", .avro, none⟩, none, none, none⟩
  | .version subject number =>
    if number = 1 then .answered ⟨subject, number, ⟨some "{}", .avro, none⟩, none, none, none⟩
    else .timedOut
  | .config _ => .failed (.notFound "config")
  | .mode _ => .timedOut

/-- The second pass meets the same two ends as the first and leaves the catalog as it is. -/
theorem rerun_changes_nothing_of_unruly :
    let start := Catalog.keeper.after draftRequests .empty
    ∃ pass middle pass' catalog,
      Pass.Reach (Conduct.steady unruly .none).around .standard start pass middle ∧
      pass.Finished ∧
      Pass.Reach (Conduct.steady unruly .none).around .standard middle pass' catalog ∧
      pass'.Finished ∧ pass.summary.tally = ⟨4, 3, 4, 3, 1⟩ ∧
      pass.summary.removal.rows = ⟨2, 2, 1, 1⟩ ∧ catalog = middle ∧
      pass'.summary.tally = ⟨4, 0, 1, 0, 1⟩ ∧ pass'.summary.report.removedSubjects = .empty := by
  intro start
  obtain ⟨pass, reach, finished, counts⟩ :=
    Pass.reach_runPass (Conduct.steady_within unruly .none) .standard 0 start
  obtain ⟨pass', again, finished', counts'⟩ :=
    Pass.reach_runPass (Conduct.steady_within unruly .none) .standard 0
      (runPass (steadyHost unruly .none) .standard 0 start).2.2
  dsimp only [id] at reach again
  obtain ⟨same, -, -, -, -, -, -, -, -, -, none⟩ :=
    rerun_changes_nothing reach finished again finished'
  refine ⟨pass, _, pass', _, reach, finished, again, finished', ?_, ?_, same, ?_, none⟩
  · rw [counts]
    decide +kernel
  · rw [counts]
    decide +kernel
  · rw [counts']
    decide +kernel

end SchemaLedger
