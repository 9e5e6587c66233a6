import SchemaLedger.Proofs.Sync.AppendOnly

namespace SchemaLedger

/-- The registry gave an answer about the version of the row, and the row was built from it. -/
structure Built (told : List Exchange) (row : Snapshot) (registered : Registered) : Prop where
  obtained : Obtained row.subject told row.version registered
  row : Snapshot.ofRegistered? row.subject row.version registered = some row

/-- A version is handed to the catalog only after the registry has given it. -/
def Effect.Founded (told : List Exchange) : Effect → Prop
  | .store (.put row) => ∃ registered, Built told row registered
  | _ => True

theorem Effect.Quiet.founded {effect : Effect} (quiet : effect.Quiet) (told : List Exchange) :
    effect.Founded told := by
  cases effect with
  | store request => exact absurd rfl (quiet request)
  | query | pause | report => trivial

theorem Effect.Settles.founded {subject : String} {effect : Effect}
    (settles : effect.Settles subject) (told : List Exchange) : effect.Founded told := by
  cases settles <;> trivial

namespace Program

variable {policy : RetryPolicy} {subject : String} {told : List Exchange}

/-- A version is kept under its own number, whatever number the answer bears. -/
theorem asks_keep {number : UInt32} {registered : Registered}
    (obtained : Obtained subject told number registered) :
    (keep subject number registered).Asks Effect.Founded (fun _ _ => True) told := by
  unfold keep
  split
  · exact asks_bind.2 ⟨trivial, fun _ => trivial⟩
  · rename_i row built
    obtain ⟨rfl, rfl⟩ := Snapshot.ofRegistered?_subject built
    refine asks_bind.2 ⟨⟨registered, obtained, built⟩, fun answer => ?_⟩
    match answer with
    | .ok .inserted => trivial
    | .ok .alreadyPresent => trivial
    | .error error => exact asks_bind.2 ⟨trivial, fun _ => trivial⟩

theorem asks_fetchFrom (count : Nat) (number : UInt32) (tally : Tally) :
    (fetchFrom policy subject count number tally).Asks Effect.Founded (fun _ _ => True) told := by
  induction count generalizing number tally told with
  | zero => trivial
  | succ count ih =>
    refine asks_bind.2 ((asks_version.widen fun told _ quiet => quiet.founded told).mono ?_)
    intro found told' settled
    cases found with
    | found registered =>
      have obtained : Obtained subject told' number registered := .inl settled.heard_of_found
      exact asks_bind.2 ((asks_keep obtained).mono fun _ _ _ => ih _ _)
    | notFound => exact asks_bind.2 ⟨trivial, fun _ => ih _ _⟩
    | unavailable => exact asks_bind.2 ⟨trivial, fun _ => trivial⟩

theorem asks_refresh : (refresh policy subject).Asks Effect.Founded (fun _ _ => True) told :=
  settles_refresh.asks fun told _ settles => settles.founded told

theorem asks_advance {mark : Option UInt32} {latest : Registered}
    (heard : Heard told (.latest subject) (.answered latest)) :
    (advance policy subject mark latest).Asks Effect.Founded (fun _ _ => True) told := by
  refine asks_bind.2 ⟨trivial, fun _ => asks_bind.2 ?_⟩
  refine (asks_fetchFrom _ _ _).growing.mono fun result told' ⟨_, within⟩ => ?_
  have obtained : Obtained subject told' latest.version latest :=
    .inr ⟨(heard.append _).mono within, rfl⟩
  obtain ⟨fetched, missing⟩ := result
  cases missing with
  | none =>
    refine asks_bind.2 ((asks_keep obtained).mono fun _ _ _ => ?_)
    exact asks_bind.2 (asks_refresh.mono fun _ _ _ => trivial)
  | some gap => exact asks_bind.2 (asks_bind.2 (asks_refresh.mono fun _ _ _ => trivial))

theorem asks_catchUp :
    (catchUp policy subject).Asks Effect.Founded (fun _ _ => True) told := by
  refine asks_bind.2 ⟨trivial, fun answer => ?_⟩
  cases answer with
  | error error => exact asks_bind.2 ⟨trivial, fun _ => trivial⟩
  | ok mark =>
    refine asks_bind.2 (((asks_latestFrom _ _).widen fun told _ quiet => quiet.founded told).mono ?_)
    intro found told' settled
    cases found with
    | notFound | unavailable => trivial
    | found latest =>
      dsimp only
      split
      · exact asks_bind.2 ⟨trivial, fun _ => trivial⟩
      · exact asks_advance settled.heard_of_found

end Program

/-- The task was told of the version of the row, handed the row that was built from the answer to
the catalog, and was told that it is new. -/
def Task.Brought (task : Task) (row : Snapshot) (registered : Registered) : Prop :=
  task.subject = row.subject ∧ ∃ before after,
    task.told = before ++ ⟨.store (.put row), .ok .inserted⟩ :: after ∧ Built before row registered

/-- A task of the pass brought the row, and the subject is on the list that the pass was given. -/
def Pass.Brought (pass : Pass) (row : Snapshot) (registered : Registered) : Prop :=
  (∃ subjects, Listing pass.told subjects ∧ row.subject ∈ subjects) ∧
    ∃ task ∈ pass.tasks, task.Brought row registered

/-- A task about a listed subject, with all that it may still ask for. -/
structure Task.Founded (subjects : List String) (task : Task) : Prop where
  listed : task.subject ∈ subjects
  about : task.rest.About task.subject
  asks : task.rest.Asks Effect.Founded (fun _ _ => True) task.told

/-- A pass whose opening brings no version, and whose tasks are about listed subjects and bring
nothing that the registry has not given them. -/
def Pass.Founded (pass : Pass) : Prop :=
  match pass.phase with
  | .opening rest => rest.Asks Effect.Clears Lists pass.told
  | .round round => ∃ subjects, Listing pass.told subjects ∧
    (∀ subject ∈ round.waiting, subject ∈ subjects) ∧
      ∀ task ∈ round.tasks, task.Founded subjects

theorem Task.Brought.grows {task task' : Task} {row : Snapshot} {registered : Registered}
    {later : List Exchange} (brought : task.Brought row registered)
    (same : task'.subject = task.subject) (grown : task'.told = task.told ++ later) :
    task'.Brought row registered := by
  obtain ⟨own, before, after, told, built⟩ := brought
  refine ⟨same.trans own, before, after ++ later, ?_, built⟩
  rw [grown, told, List.append_assoc, List.cons_append]

theorem Round.Moves.waiting_subset {policy : RetryPolicy} {round round' : Round}
    {exchange : Option Exchange} (moves : round.Moves policy exchange round') :
    round'.waiting ⊆ round.waiting := by
  cases moves with
  | begun => exact List.subset_cons_self _ _
  | worked | ended | counted => exact List.Subset.refl _

namespace Pass

variable {policy : RunPolicy} {pass pass' : Pass} {exchange : Option Exchange} {row : Snapshot}
  {registered : Registered}

theorem Moves.founded (moves : pass.Moves policy exchange pass') (founded : pass.Founded) :
    pass'.Founded := by
  cases moves with
  | told => exact founded.2 _
  | opened =>
    obtain ⟨subjects, listing, rfl⟩ := founded
    exact ⟨subjects, listing, fun _ => Names.mem_toList_ofList.1, List.forall_mem_nil _⟩
  | round moves =>
    obtain ⟨subjects, listing, waiting, tasks⟩ := founded
    have moves : Round.Moves _ _ _ _ := moves
    refine ⟨subjects, listing, fun subject member => waiting subject (moves.waiting_subset member),
      moves.forall_tasks (fun subject member => ?_) (fun answer own => ?_) tasks⟩
    · exact ⟨waiting subject member, Program.about_catchUp, Program.asks_catchUp⟩
    · exact ⟨own.listed, own.about.2 answer, own.asks.2 answer⟩

/-- What was brought stays on record. -/
theorem Moves.keeps_brought (moves : pass.Moves policy exchange pass')
    (brought : pass.Brought row registered) : pass'.Brought row registered := by
  obtain ⟨listed, task, isTask, brought⟩ := brought
  cases moves with
  | told | opened => cases isTask
  | round moves =>
    obtain ⟨task', isTask', same, later, grown⟩ := Round.Moves.grows moves isTask
    exact ⟨listed, task', isTask', brought.grows same grown⟩

/-- A version that is new was brought by the pass that handed it on. -/
theorem Moves.brings (moves : pass.Moves policy (some ⟨.store (.put row), .ok .inserted⟩) pass')
    (founded : pass.Founded) : ∃ registered, pass'.Brought row registered := by
  cases moves with
  | told given =>
    cases given
    exact founded.1.elim
  | round moves =>
    obtain ⟨subjects, listing, -, tasks⟩ := founded
    obtain ⟨task, isTask, rest, isRest, isTask'⟩ := Round.Moves.asked moves
    obtain ⟨listed, about, asks⟩ := tasks task isTask
    rw [isRest] at about asks
    have own : row.subject = task.subject := Option.some.inj about.1
    obtain ⟨registered, built⟩ := asks.1
    exact ⟨registered, ⟨subjects, listing, own ▸ listed⟩, _, isTask', own.symm, task.told, [], rfl,
      built⟩

end Pass

/-- A version comes into a catalog only by being put, and the answer says that it is new. -/
theorem Catalog.Logs.row?_cases {catalog catalog' : Catalog} {calls : List Call} {subject : String}
    {version : UInt32} {row : Snapshot} (logs : catalog.Logs calls catalog')
    (stored : catalog'.row? subject version = some row) :
    catalog.row? subject version = some row ∨
      ∃ caller, ⟨caller, .put row, .ok .inserted⟩ ∈ calls := by
  cases logs with
  | idle | failed => exact .inl stored
  | @carried caller request value answered =>
    rcases row?_perform_cases stored with before | rfl
    · exact .inl before
    cases before : catalog.row? row.subject row.version with
    | some kept =>
      refine .inl ((row?_put_of_isSome ?_ subject version).symm.trans stored)
      rw [before, Option.isSome_some]
    | none =>
      have outcome : value = (catalog.put row).1 := answered fun _ _ => nofun
      refine .inr ⟨caller, List.mem_singleton.2 ?_⟩
      rw [outcome, put_fst, before]
      rfl

namespace World

variable {world world' first second : World} {calls log : List Call} {catalog : Catalog}
  {row : Snapshot} {registered : Registered}

def Founded (world : World) : Prop :=
  ∀ run ∈ world.runs, run.2.Founded

/-- A run brought the row. -/
def Brought (world : World) (row : Snapshot) (registered : Registered) : Prop :=
  ∃ run ∈ world.runs, run.2.Brought row registered

theorem Step.founded (step : Step world calls world') (founded : world.Founded) :
    world'.Founded :=
  step.forall_runs (fun policy => Program.asks_opening policy.retry)
    (fun moves own => moves.founded own) founded

theorem Step.keeps_brought (step : Step world calls world')
    (brought : world.Brought row registered) : world'.Brought row registered := by
  obtain ⟨run, isRun, brought⟩ := brought
  cases step with
  | asked => exact ⟨run, isRun, brought⟩
  | begun => exact ⟨run, List.mem_append_left _ isRun, brought⟩
  | moved moves | answered moves =>
    rcases List.mem_append.1 isRun with before | here
    · exact ⟨run, List.mem_append_left _ before, brought⟩
    · rcases List.mem_cons.1 here with rfl | after
      · exact ⟨_, List.mem_append_cons_self, moves.keeps_brought brought⟩
      · exact ⟨run, List.mem_append_right _ (List.mem_cons_of_mem _ after), brought⟩

theorem Step.brings (step : Step world calls world') (founded : world.Founded) {pass : Pass}
    (isCall : ⟨some pass, .put row, .ok .inserted⟩ ∈ calls) :
    ∃ registered, world'.Brought row registered := by
  cases step with
  | asked => cases List.mem_singleton.1 isCall
  | begun | moved => cases isCall
  | @answered _ _ _ _ _ _ _ effect _ moves gives =>
    cases effect with
    | query | pause | report => cases isCall
    | store request =>
      cases List.mem_singleton.1 isCall
      obtain ⟨registered, brought⟩ := moves.brings (founded _ List.mem_append_cons_self)
      exact ⟨registered, _, List.mem_append_cons_self, brought⟩

/-- Every version in a catalog was brought by some run. -/
def Accounts (world : World) (catalog : Catalog) : Prop :=
  ∀ subject version row, catalog.row? subject version = some row →
    ∃ registered, world.Brought row registered

/-- As long as nobody else puts a version, all versions are accounted for. -/
theorem History.accounts (history : History first log second) (shows : first.backend.Shows catalog)
    (alone : ∀ call ∈ log, call.caller = none → ∀ row, call.request ≠ .put row)
    (founded : first.Founded) (accounts : first.Accounts catalog) :
    ∃ catalog', second.backend.Shows catalog' ∧ second.Founded ∧ second.Accounts catalog' := by
  induction history with
  | start => exact ⟨catalog, shows, founded, accounts⟩
  | next _ step ih =>
    obtain ⟨before, now⟩ := List.forall_mem_append.1 alone
    obtain ⟨between, showsBetween, foundedBetween, accountsBetween⟩ := ih before
    obtain ⟨catalog', showsAfter, logs⟩ := step.logs showsBetween
    refine ⟨catalog', showsAfter, step.founded foundedBetween, fun subject version row stored => ?_⟩
    rcases logs.row?_cases stored with old | ⟨caller, isCall⟩
    · obtain ⟨registered, brought⟩ := accountsBetween subject version row old
      exact ⟨registered, step.keeps_brought brought⟩
    · cases caller with
      | none => exact absurd rfl (now _ isCall rfl row)
      | some pass => exact step.brings foundedBetween isCall

end World

/-- In memory or in a database, through any runs one after the other or at once, whatever the
registry answers, wherever a run is given up and whichever requests fail: as long as nobody but the
runs puts versions into a catalog that began without any, every version in it was brought by a run.
The subject was on the list that the run was given, and the run built the row from an answer to its
own call for the version, or from the latest version if that has the number of the row; what else
the answer says of its subject and number makes no difference. -/
theorem versions_come_from_the_registry {backend : Backend} {log : List Call} {world : World}
    (reached : backend.Reached) (blank : backend.rows .versions = [])
    (history : World.History ⟨backend, []⟩ log world)
    (alone : ∀ call ∈ log, call.caller = none → ∀ row, call.request ≠ .put row) :
    ∀ kept ∈ world.backend.rows .versions, ∃ row registered,
      world.backend.spelled row = kept ∧ world.Brought row registered ∧
        row.Renders registered := by
  intro kept isRow
  obtain ⟨catalog, shows⟩ := reached.shows
  have nothing : World.Accounts ⟨backend, []⟩ catalog := by
    intro subject version row stored
    have isRow := (shows.mem_versions_iff.2 ⟨version, row, stored, rfl⟩).1
    rw [blank] at isRow
    cases isRow
  obtain ⟨catalog', shows', -, accounts⟩ :=
    history.accounts shows alone (List.forall_mem_nil _) nothing
  obtain ⟨subject, isSubject, -⟩ := shows'.subject_of_row isRow
  obtain ⟨version, row, stored, spelled⟩ := shows'.mem_versions_iff.1 ⟨isRow, isSubject⟩
  obtain ⟨registered, brought⟩ := accounts subject version row stored
  obtain ⟨run, isRun, listed, task, isTask, own, before, after, told, built⟩ := brought
  exact ⟨row, registered, spelled,
    ⟨run, isRun, listed, task, isTask, own, before, after, told, built⟩,
    Snapshot.renders_of_ofRegistered? built.row⟩

/-- An answer that gives another subject than it was asked for. -/
def elsewhere (number : UInt32) : Registered :=
  ⟨"elsewhere", number, ⟨some "{}", .avro, none⟩, none, none, none⟩

/-- A run finds version two to be the latest, is given version one with a wrong subject and a wrong
number, and is given up after both are kept. -/
theorem versions_come_from_the_registry_of_elsewhere :
    ∃ log world, World.History ⟨.durable .fresh, []⟩ log world ∧
      (world.backend.rows .versions).map Row.subject = [.text "orders", .text "orders"] ∧
      ∀ kept ∈ world.backend.rows .versions, ∃ row registered,
        world.backend.spelled row = kept ∧ world.Brought row registered ∧
          row.Renders registered := by
  have begun : World.History ⟨.durable .fresh, []⟩ _ _ := .next .start (.begun .standard)
  have listed := begun.next (@World.Step.answered _ _ [] _ _ _ [] _ _
    (.told (Attempt.answered ["orders"])) (.replied _))
  have known := listed.next (@World.Step.answered _ _ [] _ _ _ [] _ _ (.told _) (.kept .known))
  have started := known.next (@World.Step.moved _ [] _ _ _ [] .opened)
  have working := started.next (@World.Step.moved _ [] _ _ _ [] (.round .begun))
  have marked := working.next (@World.Step.answered _ _ [] _ _ _ [] _ _
    (.round (@Round.Moves.worked _ _ _ _ [] _ _ _ _ [] _ _ _)) (.kept (.mark "orders")))
  have latest := marked.next (@World.Step.answered _ _ [] _ _ _ [] _ _
    (.round (@Round.Moves.worked _ _ _ _ [] _ _ _ _ [] _ _ (Attempt.answered (elsewhere 2))))
    (.replied _))
  have noted := latest.next (@World.Step.answered _ _ [] _ _ _ [] (.report _) _
    (.round (@Round.Moves.worked _ _ _ _ [] _ _ _ _ [] _ _ _)) .reported)
  have first := noted.next (@World.Step.answered _ _ [] _ _ _ [] _ _
    (.round (@Round.Moves.worked _ _ _ _ [] _ _ _ _ [] _ _ (Attempt.answered (elsewhere 9))))
    (.replied _))
  have kept := first.next (@World.Step.answered _ _ [] _ _ _ [] _ _
    (.round (@Round.Moves.worked _ _ _ _ [] _ _ _ _ [] _ _ _)) (.kept (.put _)))
  have history := kept.next (@World.Step.answered _ _ [] _ _ _ [] _ _
    (.round (@Round.Moves.worked _ _ _ _ [] _ _ _ _ [] _ _ _)) (.kept (.put _)))
  refine ⟨_, _, history, ?_, versions_come_from_the_registry Backend.reached_fresh rfl history ?_⟩
  · decide +kernel
  · simp only [Exchange.calls, List.nil_append, List.cons_append, List.forall_mem_cons]
    exact ⟨by rintro ⟨⟩, by rintro ⟨⟩, by rintro ⟨⟩, by rintro ⟨⟩, List.forall_mem_nil _⟩

end SchemaLedger
