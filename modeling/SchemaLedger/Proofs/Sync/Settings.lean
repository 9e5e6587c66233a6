import SchemaLedger.Proofs.Sync.AppendOnly
import SchemaLedger.Proofs.Sync.Refresh

namespace SchemaLedger

/-- Refreshes of one subject, each with all that was told to the work that made it. -/
abbrev Refreshes : Type := List (List Exchange)

/-- What refreshes make of the settings of an entry: what was delivered last, and where nothing was
delivered what they were. -/
structure Entry.Follows (subject : String) (old : Entry) (refreshes : Refreshes) (new : Entry) :
    Prop where
  own : new.subject = old.subject
  level : new.compatibilityLevel =
    (levels subject refreshes.flatten).getLast?.or old.compatibilityLevel
  readOnly : new.readOnly = (modes subject refreshes.flatten).getLast?.getD old.readOnly
  environment : new.environment = if refreshes = [] then old.environment else environment? subject
  ownerTeam : new.ownerTeam = old.ownerTeam
  personalScore : new.personalScore = old.personalScore
  riskScore : new.riskScore = old.riskScore

namespace Entry.Follows

variable {subject : String} {old new later : Entry} {refreshes more : Refreshes}
  {told : List Exchange}

theorem nil (old : Entry) (mark : Option UInt32) :
    old.Follows subject [] { old with mark := mark } where
  own := rfl
  level := rfl
  readOnly := rfl
  environment := rfl
  ownerTeam := rfl
  personalScore := rfl
  riskScore := rfl

theorem remark (follows : old.Follows subject refreshes new) (mark : Option UInt32) :
    old.Follows subject refreshes { new with mark := mark } where
  own := follows.own
  level := follows.level
  readOnly := follows.readOnly
  environment := follows.environment
  ownerTeam := follows.ownerTeam
  personalScore := follows.personalScore
  riskScore := follows.riskScore

theorem flatten_concat (told : List Exchange) :
    (refreshes ++ [told]).flatten = refreshes.flatten ++ told := by
  rw [List.flatten_append, List.flatten_cons, List.flatten_nil, List.append_nil]

/-- The environment of a subject is always the same, so an entry that began without one has it or
none. -/
theorem update (follows : old.Follows subject refreshes new) (bare : old.environment = none)
    (told : List Exchange) :
    old.Follows subject (refreshes ++ [told]) ((delivered subject told).apply new) where
  own := follows.own
  level := by
    rw [flatten_concat, levels_append, List.getLast?_append, Option.or_assoc, ← follows.level]
    exact Option.orElse_eq_or
  readOnly := by
    rw [flatten_concat, modes_append, List.getLast?_append, Option.getD_or, ← follows.readOnly]
    rfl
  environment := by
    rw [if_neg (by simp)]
    have same : new.environment = none ∨ new.environment = environment? subject := by
      rw [follows.environment, bare]
      split
      · exact .inl rfl
      · exact .inr rfl
    show (environment? subject <|> new.environment) = environment? subject
    rcases same with none | same
    · rw [none]
      cases environment? subject <;> rfl
    · rw [same]
      cases environment? subject <;> rfl
  ownerTeam := follows.ownerTeam
  personalScore := follows.personalScore
  riskScore := follows.riskScore

/-- What came later begins where the earlier refreshes ended. -/
theorem of_append (first : old.Follows subject refreshes new)
    (whole : old.Follows subject (refreshes ++ more) later) : new.Follows subject more later where
  own := whole.own.trans first.own.symm
  level := by
    rw [whole.level, first.level, List.flatten_append, levels_append, List.getLast?_append,
      Option.or_assoc]
  readOnly := by
    rw [whole.readOnly, first.readOnly, List.flatten_append, modes_append, List.getLast?_append,
      Option.getD_or]
  environment := by
    rw [whole.environment, first.environment]
    cases more with
    | nil => rw [List.append_nil, if_pos rfl]
    | cons told more => rw [if_neg (by simp), if_neg (by simp)]
  ownerTeam := whole.ownerTeam.trans first.ownerTeam.symm
  personalScore := whole.personalScore.trans first.personalScore.symm
  riskScore := whole.riskScore.trans first.riskScore.symm

end Entry.Follows

/-- What was told to the work of a pass on a subject. -/
def Pass.toldOf (pass : Pass) (subject : String) : List Exchange :=
  (pass.tasks.filter fun task => task.subject = subject).flatMap (·.told)

/-- The refreshes of a subject that took effect since it has its entry. A put makes the entry where
there is none, and a removal ends it. -/
def Call.follow (subject : String) (since : Option Refreshes) : Call → Option Refreshes
  | ⟨_, .put row, .ok _⟩ => if row.subject = subject then some (since.getD []) else since
  | ⟨_, .remove names, .ok _⟩ => if Table.contains names subject then none else since
  | ⟨some pass, .update name _, .ok true⟩ =>
    if name = subject then since.map (· ++ [pass.toldOf subject]) else since
  | _ => since

def refreshesSince (subject : String) (log : List Call) : Option Refreshes :=
  log.foldl (Call.follow subject) none

/-- The call ends the entry of the subject. -/
def Call.Removes (subject : String) : Call → Prop
  | ⟨_, .remove names, .ok _⟩ => Table.contains names subject = true
  | _ => False

/-- Unless it ends the entry, a call adds the same to whatever refreshes there were. -/
theorem Call.follow_some {subject : String} {call : Call} (kept : ¬call.Removes subject) :
    ∃ more, ∀ refreshes, call.follow subject (some refreshes) = some (refreshes ++ more) := by
  have unchanged (same : ∀ refreshes, call.follow subject (some refreshes) = some refreshes) :
      ∃ more, ∀ refreshes, call.follow subject (some refreshes) = some (refreshes ++ more) :=
    ⟨[], fun refreshes => (same refreshes).trans (congrArg some (List.append_nil _).symm)⟩
  obtain ⟨caller, request, answer⟩ := call
  cases request with
  | put row =>
    refine unchanged fun refreshes => ?_
    cases answer with
    | error => rfl
    | ok => exact ite_self _
  | remove names =>
    refine unchanged fun refreshes => ?_
    cases answer with
    | error => rfl
    | ok => exact if_neg kept
  | update name change =>
    match caller, answer with
    | none, _ | some _, .error _ | some _, .ok false => exact unchanged fun _ => rfl
    | some pass, .ok true =>
      by_cases own : name = subject
      · exact ⟨[pass.toldOf subject], fun _ => if_pos own⟩
      · exact unchanged fun _ => if_neg own
  | _ => exact unchanged fun _ => rfl

theorem Call.foldl_follow_some {subject : String} {log : List Call}
    (kept : ∀ call ∈ log, ¬call.Removes subject) : ∃ more, ∀ refreshes,
      log.foldl (follow subject) (some refreshes) = some (refreshes ++ more) := by
  induction log with
  | nil => exact ⟨[], fun refreshes => congrArg some (List.append_nil _).symm⟩
  | cons call log ih =>
    obtain ⟨own, later⟩ := List.forall_mem_cons.1 kept
    obtain ⟨first, follows⟩ := call.follow_some own
    obtain ⟨rest, ih⟩ := ih later
    refine ⟨first ++ rest, fun refreshes => ?_⟩
    rw [List.foldl_cons, follows, ih, List.append_assoc]

/-- The entry of a subject follows from a fresh one by the refreshes since it was made. -/
def Catalog.GoesBy (catalog : Catalog) (subject : String) : Option Refreshes → Prop
  | none => (catalog.shelf subject).entry = none
  | some refreshes => ∃ entry, (catalog.shelf subject).entry = some entry ∧
    (Entry.fresh subject).Follows subject refreshes entry

/-- Runs hand on what was delivered to them, and nobody else changes the settings of the subject. -/
def Call.Delivers (subject : String) (call : Call) : Prop :=
  ∀ change, call.request = .update subject change →
    ∃ pass, call.caller = some pass ∧ change = delivered subject (pass.toldOf subject)

theorem Shelf.entry_put (shelf : Shelf) (row : Snapshot) : ∃ mark, (shelf.put row).2.entry =
    some { shelf.entry.getD (.fresh row.subject) with mark := mark } := by
  unfold put
  split <;> exact ⟨_, rfl⟩

namespace Catalog

variable {catalog catalog' : Catalog} {subject : String} {since : Option Refreshes}

theorem GoesBy.congr (goesBy : catalog.GoesBy subject since)
    (same : (catalog'.shelf subject).entry = (catalog.shelf subject).entry) :
    catalog'.GoesBy subject since := by
  cases since with
  | none => exact same.trans goesBy
  | some refreshes =>
    obtain ⟨entry, atEntry, follows⟩ := goesBy
    exact ⟨entry, same.trans atEntry, follows⟩

theorem GoesBy.put {row : Snapshot} (goesBy : catalog.GoesBy row.subject since) :
    (catalog.put row).2.GoesBy row.subject (some (since.getD [])) := by
  have made : ((catalog.put row).2.shelf row.subject).entry =
      ((catalog.shelf row.subject).put row).2.entry := by
    rw [Catalog.put, shelf_setShelf_self]
  obtain ⟨mark, atEntry⟩ := (catalog.shelf row.subject).entry_put row
  rw [← made] at atEntry
  cases since with
  | none =>
    have before : (catalog.shelf row.subject).entry = none := goesBy
    rw [before] at atEntry
    exact ⟨_, atEntry, .nil (.fresh row.subject) mark⟩
  | some refreshes =>
    obtain ⟨entry, before, follows⟩ := goesBy
    rw [before] at atEntry
    exact ⟨_, atEntry, follows.remark mark⟩

theorem GoesBy.update (goesBy : catalog.GoesBy subject since) (told : List Exchange) :
    (catalog.update subject (delivered subject told)).2.GoesBy subject
      (since.map (· ++ [told])) := by
  cases since with
  | none =>
    have before : (catalog.shelf subject).entry = none := goesBy
    rw [update_of_none before]
    exact before
  | some refreshes =>
    obtain ⟨entry, before, follows⟩ := goesBy
    refine ⟨_, ?_, follows.update rfl told⟩
    rw [update_snd, before, Option.map_some]

/-- An update takes effect exactly where there is an entry. -/
theorem GoesBy.update_fst (goesBy : catalog.GoesBy subject since) (change : EntryUpdate) :
    (catalog.update subject change).1 = since.isSome := by
  rw [Catalog.update_fst]
  cases since with
  | none =>
    have before : (catalog.shelf subject).entry = none := goesBy
    rw [before, Option.isSome_none, Option.isSome_none]
  | some refreshes =>
    obtain ⟨entry, atEntry, -⟩ := goesBy
    rw [atEntry, Option.isSome_some, Option.isSome_some]

theorem GoesBy.remove (goesBy : catalog.GoesBy subject since) (names : Names) :
    (catalog.remove names).2.GoesBy subject
      (if Table.contains names subject then none else since) := by
  cases gone : Table.contains names subject with
  | true =>
    show ((catalog.remove names).2.shelf subject).entry = none
    rw [shelf_remove, gone, if_pos rfl]
    rfl
  | false =>
    rw [if_neg Bool.false_ne_true]
    exact goesBy.congr (by rw [shelf_remove, gone, if_neg Bool.false_ne_true])

/-- What is followed are exactly the calls that change the entry of the subject, one case for each
request. -/
theorem GoesBy.carried {caller : Option Pass} {request : Request} {value : request.Answer}
    (goesBy : catalog.GoesBy subject since)
    (delivers : Call.Delivers subject ⟨caller, request, .ok value⟩)
    (answered : (∀ subject version, request ≠ .snapshot subject version) →
      value = (catalog.perform request).1) :
    (catalog.perform request).2.GoesBy subject
      (Call.follow subject since ⟨caller, request, .ok value⟩) := by
  cases request with
  | mark | known | count | entry | entries | snapshot | versions => exact goesBy
  | put row =>
    rw [Call.follow]
    split
    case isTrue own =>
      subst own
      exact goesBy.put
    case isFalse other =>
      exact goesBy.congr (congrArg Shelf.entry (shelf_perform_of_ne rfl (Ne.symm other)))
  | update name change =>
    by_cases own : name = subject
    · subst own
      obtain ⟨pass, rfl, rfl⟩ := delivers change rfl
      have effective : value = since.isSome :=
        (answered fun _ _ => nofun).trans (goesBy.update_fst _)
      have followed : Call.follow name since
          ⟨some pass, .update name (delivered name (pass.toldOf name)), .ok value⟩ =
            since.map (· ++ [pass.toldOf name]) := by
        cases since with
        | none => rw [effective]; rfl
        | some refreshes => rw [effective]; exact if_pos rfl
      rw [followed]
      exact goesBy.update _
    · have followed :
          Call.follow subject since ⟨caller, .update name change, .ok value⟩ = since := by
        cases caller with
        | none => rfl
        | some pass =>
          cases value with
          | false => rfl
          | true => exact if_neg own
      rw [followed]
      exact goesBy.congr (congrArg Shelf.entry (shelf_perform_of_ne rfl (Ne.symm own)))
  | remove names => exact goesBy.remove names
  | attach row | annotate row =>
    refine goesBy.congr ?_
    simp only [perform, attach, annotate]
    by_cases own : subject = row.subject
    · rw [own, shelf_setShelf_self]
    · rw [shelf_setShelf_of_ne _ own]

theorem Logs.goesBy {calls : List Call} (logs : catalog.Logs calls catalog')
    (goesBy : catalog.GoesBy subject since) (delivers : ∀ call ∈ calls, call.Delivers subject) :
    catalog'.GoesBy subject (calls.foldl (Call.follow subject) since) := by
  cases logs with
  | idle => exact goesBy
  | @failed caller request error =>
    have ignored : Call.follow subject since ⟨caller, request, .error error⟩ = since := by
      cases request <;> cases caller <;> rfl
    rw [List.foldl_cons, List.foldl_nil, ignored]
    exact goesBy
  | carried answered => exact goesBy.carried (List.forall_mem_singleton.1 delivers) answered

end Catalog

/-- The effect changes no settings. -/
def Effect.Unsettling (effect : Effect) : Prop :=
  ∀ subject change, effect ≠ .store (.update subject change)

namespace Program

theorem unsettling_reconcile (listed : Names) : (reconcile listed).Only Effect.Unsettling := by
  refine only_bind (only_bind ⟨nofun, fun _ => trivial⟩ fun answer => ?_) fun result => ?_
  · cases answer <;> trivial
  cases result with
  | error error => trivial
  | ok stale =>
    dsimp only
    split
    · trivial
    refine only_bind ⟨nofun, fun _ => trivial⟩ fun preview => ?_
    cases preview with
    | error error => trivial
    | ok preview =>
      refine only_bind ⟨nofun, fun _ => trivial⟩ fun _ => only_bind ⟨nofun, fun _ => trivial⟩ ?_
      intro rows
      cases rows with
      | error error => trivial
      | ok rows => exact only_bind ⟨nofun, fun _ => trivial⟩ fun _ => trivial

/-- A run removes and counts before it works on subjects, and settles nothing. -/
theorem unsettling_opening (policy : RetryPolicy) : (opening policy).Only Effect.Unsettling := by
  have noted (event : Event) : (report event).Only Effect.Unsettling := ⟨nofun, fun _ => trivial⟩
  refine only_bind (only_bind ⟨nofun, fun _ => trivial⟩ fun attempt => ?_) fun found => ?_
  · cases attempt with
    | answered subjects => trivial
    | timedOut | failed error => exact only_bind (noted _) fun _ => trivial
  cases found with
  | found subjects =>
    refine only_bind (unsettling_reconcile _) fun removal => ?_
    cases removal with
    | ok removal => trivial
    | error error => exact only_bind (noted _) fun _ => trivial
  | notFound | unavailable => exact only_bind (noted _) fun _ => trivial

end Program

/-- A task that keeps to its subject and refreshes its settings as is due. -/
structure Task.Settles (task : Task) : Prop where
  about : task.rest.About task.subject
  asks : task.rest.Asks (Effect.Refreshing task.subject)
    (fun _ told => Behind task.subject told → Refreshed task.subject told) task.told
  behind : ∀ x ∈ task.told, x.refreshes = true → Behind task.subject task.told

theorem Task.Settles.told {subject : String} {told : List Exchange} {effect : Effect}
    {rest : effect.Answer → Program Worked}
    (settles : Settles ⟨subject, told, .perform effect rest⟩) (answer : effect.Answer) :
    Settles ⟨subject, told ++ [⟨effect, answer⟩], rest answer⟩ where
  about := settles.about.2 answer
  asks := settles.asks.2 answer
  behind x member refreshes := by
    rcases List.mem_append.1 member with old | last
    · exact (settles.behind x old refreshes).append _
    · cases List.mem_singleton.1 last
      exact (settles.asks.1.behind refreshes).append _

/-- A pass with one task for each subject, all of which refresh the settings as is due. -/
def Pass.Settles (pass : Pass) : Prop :=
  match pass.phase with
  | .opening rest => rest.Only Effect.Unsettling
  | .round round => (round.waiting ++ round.tasks.map (·.subject)).Nodup ∧
    ∀ task ∈ round.tasks, task.Settles

/-- Subjects move on from those that wait to those that are worked on, and none comes twice. -/
theorem Round.Moves.subjects_perm {policy : RetryPolicy} {round round' : Round}
    {exchange : Option Exchange} (moves : round.Moves policy exchange round') :
    (round'.waiting ++ round'.tasks.map (·.subject)).Perm
      (round.waiting ++ round.tasks.map (·.subject)) := by
  cases moves with
  | worked => simp only [Round.tasks, List.map_append, List.map_cons]; exact .rfl
  | begun | ended | counted =>
    simp only [Round.tasks, List.perm_iff_count, List.map_append, List.map_cons, List.map_nil,
      List.count_append, List.count_cons, List.cons_append, List.count_nil]
    omega

namespace Pass

variable {policy : RunPolicy} {pass pass' : Pass} {exchange : Option Exchange}

theorem Moves.settles (moves : pass.Moves policy exchange pass') (settles : pass.Settles) :
    pass'.Settles := by
  cases moves with
  | told => exact settles.2 _
  | @opened _ listed _ _ =>
    refine ⟨?_, List.forall_mem_nil _⟩
    simpa only [Round.tasks, List.append_nil, List.map_nil] using listed.toList_nodup
  | round moves =>
    obtain ⟨apart, tasks⟩ := settles
    have moves : Round.Moves _ _ _ _ := moves
    refine ⟨moves.subjects_perm.nodup_iff.2 apart, moves.forall_tasks (fun subject _ => ?_)
      (fun answer own => own.told answer) tasks⟩
    exact ⟨Program.about_catchUp, Program.refreshing_catchUp, List.forall_mem_nil _⟩

theorem Settles.task {task : Task} (settles : pass.Settles) (isTask : task ∈ pass.tasks) :
    task.Settles := by
  obtain ⟨told, phase⟩ := pass
  cases phase with
  | opening rest => cases isTask
  | round round => exact settles.2 task isTask

/-- A subject has no other task. -/
theorem Settles.toldOf_eq {task : Task} (settles : pass.Settles) (isTask : task ∈ pass.tasks) :
    pass.toldOf task.subject = task.told := by
  obtain ⟨told, phase⟩ := pass
  cases phase with
  | opening rest => cases isTask
  | round round =>
    have apart : (round.tasks.map (·.subject)).Nodup := settles.1.of_append_right
    obtain ⟨before, after, tasks⟩ := List.append_of_mem isTask
    rw [show round.tasks = _ from tasks, List.map_append, List.map_cons, List.nodup_middle,
      ← List.map_append, List.nodup_cons] at apart
    have others (other : Task) (member : other ∈ before ++ after) :
        ¬decide (other.subject = task.subject) = true := fun same =>
      apart.1 (List.mem_map.2 ⟨other, member, of_decide_eq_true same⟩)
    rw [List.forall_mem_append] at others
    rw [toldOf, tasks, List.filter_append, List.filter_cons, if_pos (decide_eq_true rfl),
      List.filter_eq_nil_iff.2 others.1, List.filter_eq_nil_iff.2 others.2]
    exact List.append_nil _

theorem Moves.delivers {name : String} {change : EntryUpdate} {answer : Except StoreError Bool}
    (moves : pass.Moves policy (some ⟨.store (.update name change), answer⟩) pass')
    (settles : pass.Settles) : change = delivered name (pass.toldOf name) := by
  cases moves with
  | told given =>
    cases given
    exact absurd rfl (settles.1 name change)
  | round moves =>
    obtain ⟨task, isTask, rest, isRest, -⟩ := Round.Moves.asked moves
    obtain ⟨about, asks, -⟩ := settles.2 task isTask
    rw [isRest] at about asks
    have own : name = task.subject := Option.some.inj about.1
    rw [own, settles.toldOf_eq isTask]
    exact asks.1.2

end Pass

namespace World

variable {world world' first second : World} {calls log : List Call} {catalog : Catalog}
  {subject : String} {since : Option Refreshes}

def Settles (world : World) : Prop :=
  ∀ run ∈ world.runs, run.2.Settles

theorem Step.settles (step : Step world calls world') (settles : world.Settles) :
    world'.Settles :=
  step.forall_runs (fun policy => Program.unsettling_opening policy.retry)
    (fun moves own => moves.settles own) settles

theorem Step.delivers (step : Step world calls world') (settles : world.Settles)
    (alone : ∀ call ∈ calls, call.caller = none → ∀ change, call.request ≠ .update subject change) :
    ∀ call ∈ calls, call.Delivers subject := by
  cases step with
  | asked =>
    refine List.forall_mem_singleton.2 fun change updates => ?_
    exact absurd updates (List.forall_mem_singleton.1 alone rfl change)
  | begun | moved => exact List.forall_mem_nil _
  | @answered _ _ _ _ pass _ _ effect answer moves =>
    cases effect with
    | query | pause | report => exact List.forall_mem_nil _
    | store request =>
      refine List.forall_mem_singleton.2 fun change updates => ⟨pass, rfl, ?_⟩
      obtain rfl : request = .update subject change := updates
      exact moves.delivers (settles _ List.mem_append_cons_self)

/-- As long as nobody else changes the settings, they go by the refreshes. -/
theorem History.goesBy (history : History first log second) (shows : first.backend.Shows catalog)
    (alone : ∀ call ∈ log, call.caller = none → ∀ change, call.request ≠ .update subject change)
    (settles : first.Settles) (goesBy : catalog.GoesBy subject since) :
    ∃ catalog', second.backend.Shows catalog' ∧ second.Settles ∧
      catalog'.GoesBy subject (log.foldl (Call.follow subject) since) := by
  induction history with
  | start => exact ⟨catalog, shows, settles, goesBy⟩
  | next _ step ih =>
    obtain ⟨before, now⟩ := List.forall_mem_append.1 alone
    obtain ⟨between, showsBetween, settlesBetween, goesByBetween⟩ := ih before
    obtain ⟨catalog', showsAfter, logs⟩ := step.logs showsBetween
    refine ⟨catalog', showsAfter, step.settles settlesBetween, ?_⟩
    rw [List.foldl_append]
    exact logs.goesBy goesByBetween (step.delivers settlesBetween now)

end World

/-- There is an entry exactly if there is something to go by, and it follows from a fresh one. -/
def Backend.GoesBy (backend : Backend) (subject : String) : Option Refreshes → Prop
  | none => (keeper (.entry subject) backend).1 = .ok none
  | some refreshes => ∃ entry, (keeper (.entry subject) backend).1 = .ok (some entry) ∧
    (Entry.fresh subject).Follows subject refreshes entry

theorem Backend.Shows.goesBy {backend : Backend} {catalog : Catalog} {subject : String}
    {since : Option Refreshes} (shows : backend.Shows catalog)
    (goesBy : catalog.GoesBy subject since) : backend.GoesBy subject since := by
  have answered : (keeper (.entry subject) backend).1 = .ok (catalog.shelf subject).entry :=
    (shows.keep (.entry subject)).2 fun _ _ => nofun
  cases since with
  | none => exact answered.trans (congrArg Except.ok goesBy)
  | some refreshes =>
    obtain ⟨entry, atEntry, follows⟩ := goesBy
    exact ⟨entry, answered.trans (congrArg Except.ok atEntry), follows⟩

theorem Backend.GoesBy.follows {backend : Backend} {subject : String} {since : Option Refreshes}
    {entry : Entry} (goesBy : backend.GoesBy subject since)
    (atEntry : (keeper (.entry subject) backend).1 = .ok (some entry)) : ∃ refreshes,
      since = some refreshes ∧ (Entry.fresh subject).Follows subject refreshes entry := by
  cases since with
  | none => cases Eq.trans (Eq.symm goesBy) atEntry
  | some refreshes =>
    obtain ⟨held, atHeld, follows⟩ := goesBy
    cases atHeld.symm.trans atEntry
    exact ⟨refreshes, rfl, follows⟩

/-- A task asks for settings or hands them on only if its subject is behind, and has done all of it
by its end if it is. -/
structure Task.RefreshesAsDue (task : Task) : Prop where
  behind : ∀ x ∈ task.told, x.refreshes = true → Behind task.subject task.told
  due : ∀ worked, task.rest = .done worked → Behind task.subject task.told →
    Refreshed task.subject task.told

theorem Task.Settles.refreshesAsDue {task : Task} (settles : task.Settles) :
    task.RefreshesAsDue where
  behind := settles.behind
  due worked ended := by
    have asks := settles.asks
    rw [ended] at asks
    exact asks

/-- In memory or in a database, through any runs one after the other or at once, whatever the
registry answers and whichever requests fail: as long as nobody but the runs changes the settings of
a subject, its entry shows what was delivered last by the refreshes that took effect since the entry
was made, and is otherwise as it was then. A run refreshes exactly the settings of the subjects that
are behind. While an entry is not removed nothing in it is lost: what no refresh delivered stays. -/
theorem settings_are_as_last_delivered {backend : Backend} {subject : String} {log : List Call}
    {world : World} (reached : backend.Reached) (blank : ¬backend.Has subject .entries)
    (history : World.History ⟨backend, []⟩ log world)
    (alone : ∀ call ∈ log, call.caller = none → ∀ change, call.request ≠ .update subject change) :
    world.backend.GoesBy subject (refreshesSince subject log) ∧
    (∀ run ∈ world.runs, ∀ task ∈ run.2.tasks, task.RefreshesAsDue) ∧
    ∀ more later entry, World.History world more later →
      (∀ call ∈ more, ¬call.Removes subject ∧
        (call.caller = none → ∀ change, call.request ≠ .update subject change)) →
      (Backend.keeper (.entry subject) world.backend).1 = .ok (some entry) →
      ∃ refreshes entry', more.foldl (Call.follow subject) (some []) = some refreshes ∧
        (Backend.keeper (.entry subject) later.backend).1 = .ok (some entry') ∧
        entry.Follows subject refreshes entry' := by
  obtain ⟨catalog, shows⟩ := reached.shows
  have blank : catalog.GoesBy subject none := by
    have noEntry := mt (shows.has_iff .entries).2 blank
    exact Option.not_isSome_iff_eq_none.1 noEntry
  obtain ⟨catalog', shows', settles, goesBy⟩ :=
    history.goesBy shows alone (List.forall_mem_nil _) blank
  refine ⟨shows'.goesBy goesBy, fun run isRun task isTask => ?_, ?_⟩
  · exact ((settles run isRun).task isTask).refreshesAsDue
  intro more later entry further undisturbed atEntry
  obtain ⟨first, since, follows⟩ := (shows'.goesBy goesBy).follows atEntry
  obtain ⟨refreshes, adds⟩ := Call.foldl_follow_some fun call isCall => (undisturbed call isCall).1
  obtain ⟨_, showsLater, -, goesByLater⟩ :=
    further.goesBy shows' (fun call isCall => (undisturbed call isCall).2) settles goesBy
  rw [since, adds] at goesByLater
  obtain ⟨entry', atEntry', whole⟩ := showsLater.goesBy goesByLater
  exact ⟨refreshes, entry', adds [], atEntry', follows.of_append whole⟩

/-- A run finds the first version of a subject, keeps it and is told the level and the mode. -/
theorem settings_are_as_last_delivered_of_forward :
    ∃ log world, World.History ⟨.durable .fresh, []⟩ log world ∧
      (refreshesSince "orders" log).map (fun refreshes => levels "orders" refreshes.flatten) =
        some ["FORWARD"] ∧
      (refreshesSince "orders" log).map (fun refreshes => modes "orders" refreshes.flatten) =
        some [true] ∧
      world.backend.GoesBy "orders" (refreshesSince "orders" log) ∧
      ∀ run ∈ world.runs, ∀ task ∈ run.2.tasks, task.RefreshesAsDue := by
  have begun : World.History ⟨.durable .fresh, []⟩ _ _ := .next .start (.begun .standard)
  have listed := begun.next (@World.Step.answered _ _ [] _ _ _ [] _ _
    (.told (Attempt.answered ["orders"])) (.replied _))
  have known := listed.next (@World.Step.answered _ _ [] _ _ _ [] _ _ (.told _) (.kept .known))
  have started := known.next (@World.Step.moved _ [] _ _ _ [] .opened)
  have working := started.next (@World.Step.moved _ [] _ _ _ [] (.round .begun))
  have marked := working.next (@World.Step.answered _ _ [] _ _ _ [] _ _
    (.round (@Round.Moves.worked _ _ _ _ [] _ _ _ _ [] _ _ _)) (.kept (.mark "orders")))
  have latest := marked.next (@World.Step.answered _ _ [] _ _ _ [] _ _
    (.round (@Round.Moves.worked _ _ _ _ [] _ _ _ _ [] _ _
      (Attempt.answered ⟨"orders", 1, ⟨some "{}", .avro, none⟩, none, none, none⟩))) (.replied _))
  have noted := latest.next (@World.Step.answered _ _ [] _ _ _ [] (.report _) _
    (.round (@Round.Moves.worked _ _ _ _ [] _ _ _ _ [] _ _ _)) .reported)
  have kept := noted.next (@World.Step.answered _ _ [] _ _ _ [] _ _
    (.round (@Round.Moves.worked _ _ _ _ [] _ _ _ _ [] _ _ _)) (.kept (.put _)))
  have config := kept.next (@World.Step.answered _ _ [] _ _ _ [] _ _
    (.round (@Round.Moves.worked _ _ _ _ [] _ _ _ _ [] _ _
      (Attempt.answered (some ⟨some "FORWARD"⟩)))) (.replied _))
  have mode := config.next (@World.Step.answered _ _ [] _ _ _ [] _ _
    (.round (@Round.Moves.worked _ _ _ _ [] _ _ _ _ [] _ _ (Attempt.answered .readOnly)))
    (.replied _))
  have history := mode.next (@World.Step.answered _ _ [] _ _ _ [] _ _
    (.round (@Round.Moves.worked _ _ _ _ [] _ _ _ _ [] _ _ _)) (.kept (.update "orders" _)))
  have blank : ¬(Backend.durable .fresh).Has "orders" .entries := by
    dsimp only [Backend.Has]
    decide +kernel
  have settings := settings_are_as_last_delivered Backend.reached_fresh blank history ?_
  · exact ⟨_, _, history, by decide +kernel, by decide +kernel, settings.1, settings.2.1⟩
  · simp only [Exchange.calls, List.nil_append, List.cons_append, List.forall_mem_cons]
    exact ⟨by rintro ⟨⟩, by rintro ⟨⟩, by rintro ⟨⟩, by rintro ⟨⟩, List.forall_mem_nil _⟩

end SchemaLedger
