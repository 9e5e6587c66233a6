import SchemaLedger.Proofs.Sync.Backed
import SchemaLedger.Proofs.Sync.Round

namespace SchemaLedger

/-- Any answer may be given, and what was asked and answered is all there is to tell. -/
def Exchange.Free (_ : List Exchange) (_ : Option Exchange) (effect : Effect)
    (answer : effect.Answer) (exchange : Option Exchange) : Prop :=
  exchange = some ⟨effect, answer⟩

/-- A round goes on by itself, or a task of it asks for an effect and is told the answer. -/
def Round.Moves (policy : RetryPolicy) (round : Round) (exchange : Option Exchange)
    (round' : Round) : Prop :=
  round.Goes Exchange.Free policy none round' exchange

def Pass.Moves (policy : RunPolicy) (pass : Pass) (exchange : Option Exchange) (pass' : Pass) :
    Prop :=
  pass.Goes Exchange.Free policy none pass' exchange

theorem Round.Moves.worked {policy : RetryPolicy} {summary : Summary} {waiting : List String}
    {permits : Nat} {before : List Task} {subject : String} {told : List Exchange} {effect : Effect}
    {rest : effect.Answer → Program Worked} {after ended counted : List Task}
    (answer : effect.Answer) :
    Moves policy
      ⟨summary, waiting, permits, before ++ ⟨subject, told, .perform effect rest⟩ :: after, ended,
        counted⟩
      (some ⟨effect, answer⟩)
      ⟨summary, waiting, permits,
        before ++ ⟨subject, told ++ [⟨effect, answer⟩], rest answer⟩ :: after, ended, counted⟩ :=
  Round.Goes.worked rfl

theorem Pass.Moves.told {policy : RunPolicy} {told : List Exchange} {effect : Effect}
    {rest : effect.Answer → Program (Option Names × Summary)} (answer : effect.Answer) :
    Moves policy ⟨told, .opening (.perform effect rest)⟩ (some ⟨effect, answer⟩)
      ⟨told ++ [⟨effect, answer⟩], .opening (rest answer)⟩ :=
  Pass.Goes.told rfl

/-- The registry has given a list, and no other. -/
def Listing (told : List Exchange) (subjects : List String) : Prop :=
  ∀ others, Heard told .subjects (.answered others) ↔ others = subjects

/-- Subjects are removed only when the registry has given a list and they are not on it. -/
def Effect.Spares (told : List Exchange) : Effect → Prop
  | .store (.remove names) => ∃ subjects, Listing told subjects ∧
    ∀ subject ∈ subjects, Table.contains names subject = false
  | _ => True

/-- What an opening asks for: it brings no version of its own. -/
def Effect.Clears (told : List Exchange) : Effect → Prop
  | .store (.put _) => False
  | effect => effect.Spares told

theorem Effect.Clears.spares {told : List Exchange} {effect : Effect} (clears : effect.Clears told) :
    effect.Spares told := by
  cases effect with
  | query | pause | report => trivial
  | store request =>
    cases request with
    | remove names => exact clears
    | _ => trivial

/-- The work is about the subjects that the registry has listed, if it has. -/
def Lists (result : Option Names × Summary) (told : List Exchange) : Prop :=
  match result.1 with
  | none => ∀ subjects, ¬Heard told .subjects (.answered subjects)
  | some listed => ∃ subjects, Listing told subjects ∧ listed = Names.ofList subjects

theorem Listing.append {told later : List Exchange} {subjects : List String}
    (listing : Listing told subjects)
    (unheard : ∀ others, ¬Heard later .subjects (.answered others)) :
    Listing (told ++ later) subjects := fun others =>
  heard_append.trans ((or_iff_left (unheard others)).trans (listing others))

theorem Listing.store {told : List Exchange} {subjects : List String}
    (listing : Listing told subjects) (request : Request)
    (answer : Except StoreError request.Answer) :
    Listing (told ++ [⟨.store request, answer⟩]) subjects :=
  listing.append fun _ => not_heard_store

theorem Listing.report {told : List Exchange} {subjects : List String}
    (listing : Listing told subjects) (event : Event) :
    Listing (told ++ [⟨.report event, ()⟩]) subjects :=
  listing.append fun _ => not_heard_report

namespace Program

variable {told : List Exchange} {subjects : List String}

theorem asks_reconcile (listing : Listing told subjects) :
    (reconcile (Names.ofList subjects)).Asks Effect.Clears (fun _ told' => Listing told' subjects)
      told := by
  refine asks_bind.2 (asks_bind.2 ⟨trivial, fun answer => ?_⟩)
  have known := listing.store .known answer
  cases answer with
  | error error => exact known
  | ok names =>
    change Asks _ _ (if (names.without (Names.ofList subjects)).size = 0 then _ else _) _
    split
    · exact known
    refine asks_bind.2 ⟨trivial, fun preview => ?_⟩
    have counted := known.store _ preview
    cases preview with
    | error error => exact counted
    | ok preview =>
      refine asks_bind.2 ⟨trivial, fun _ => asks_bind.2 ⟨?_, fun rows => ?_⟩⟩
      · refine ⟨subjects, counted.report _, fun subject listed => Bool.eq_false_iff.2 fun stale => ?_⟩
        have unlisted := (Names.contains_without.1 stale).2
        rw [Names.contains_ofList.2 listed] at unlisted
        cases unlisted
      · cases rows with
        | error error => exact (counted.report _).store _ _
        | ok rows => exact ⟨trivial, fun _ => ((counted.report _).store _ _).report _⟩

/-- A run removes no subject that the registry has just listed, and works on no other. -/
theorem asks_opening (policy : RetryPolicy) : (opening policy).Asks Effect.Clears Lists [] := by
  refine asks_bind.2 (asks_bind.2 ⟨trivial, fun attempt => ?_⟩)
  have heard (others : List String) : Heard [⟨.query policy.listTimeout .subjects, attempt⟩]
      .subjects (.answered others) ↔ .answered others = attempt := heard_singleton
  cases attempt with
  | timedOut | failed error =>
    refine asks_bind.2 ⟨trivial, fun _ => asks_bind.2 ⟨trivial, fun _ subjects answered => ?_⟩⟩
    rcases heard_append.1 answered with early | late
    · rcases heard_append.1 early with first | last
      · cases (heard subjects).1 first
      · exact not_heard_report last
    · exact not_heard_report late
  | answered subjects =>
    have listing : Listing [⟨.query policy.listTimeout .subjects, .answered subjects⟩] subjects :=
      fun others => (heard others).trans ⟨Attempt.answered.inj, congrArg Attempt.answered⟩
    refine asks_bind.2 ((asks_reconcile listing).mono fun removal told listing => ?_)
    cases removal with
    | ok removal => exact ⟨subjects, listing, rfl⟩
    | error error => exact ⟨trivial, fun _ => ⟨subjects, listing.report _, rfl⟩⟩

end Program

/-- What is about one subject removes none. -/
theorem Effect.About.spares {subject : String} {effect : Effect} (about : effect.About subject)
    (told : List Exchange) : effect.Spares told := by
  cases effect with
  | query | pause | report => trivial
  | store request =>
    cases request with
    | remove names => cases about
    | _ => trivial

section Moves

variable {policy : RetryPolicy} {round round' : Round} {exchange : Option Exchange}

/-- What holds of a task when it is begun and is kept up by what it is told holds of all tasks. -/
theorem Round.Moves.forall_tasks {holds : Task → Prop}
    (moves : round.Moves policy exchange round')
    (begun : ∀ subject ∈ round.waiting, holds ⟨subject, [], Program.catchUp policy subject⟩)
    (worked : ∀ {subject told effect rest} (answer : effect.Answer),
      holds ⟨subject, told, .perform effect rest⟩ →
        holds ⟨subject, told ++ [⟨effect, answer⟩], rest answer⟩)
    (all : ∀ task ∈ round.tasks, holds task) : ∀ task ∈ round'.tasks, holds task := by
  cases moves with
  | begun =>
    simp only [Round.tasks, List.forall_mem_append, List.forall_mem_cons] at all ⊢
    obtain ⟨⟨busy, ended⟩, counted⟩ := all
    exact ⟨⟨⟨busy, begun _ List.mem_cons_self, List.forall_mem_nil _⟩, ended⟩, counted⟩
  | @worked _ _ _ _ _ _ _ _ _ _ _ _ answer =>
    simp only [Round.tasks, List.forall_mem_append, List.forall_mem_cons] at all ⊢
    obtain ⟨⟨⟨before, own, after⟩, ended⟩, counted⟩ := all
    exact ⟨⟨⟨before, worked answer own, after⟩, ended⟩, counted⟩
  | ended =>
    simp only [Round.tasks, List.forall_mem_append, List.forall_mem_cons] at all ⊢
    obtain ⟨⟨⟨before, own, after⟩, ended⟩, counted⟩ := all
    exact ⟨⟨⟨before, after⟩, ended, own, List.forall_mem_nil _⟩, counted⟩
  | counted =>
    simp only [Round.tasks, List.forall_mem_append, List.forall_mem_cons] at all ⊢
    obtain ⟨⟨busy, before, own, after⟩, counted⟩ := all
    exact ⟨⟨busy, before, after⟩, counted, own, List.forall_mem_nil _⟩

/-- Whatever a round asks for, one of its tasks asks for and is told the answer. -/
theorem Round.Moves.asked {effect : Effect} {answer : effect.Answer}
    (moves : round.Moves policy (some ⟨effect, answer⟩) round') :
    ∃ task ∈ round.tasks, ∃ rest, task.rest = .perform effect rest ∧
      ⟨task.subject, task.told ++ [⟨effect, answer⟩], rest answer⟩ ∈ round'.tasks := by
  cases moves with
  | @worked _ _ _ before subject told _ rest after _ _ _ _ _ given =>
    cases given
    refine ⟨⟨subject, told, .perform effect rest⟩, ?_, rest, rfl, ?_⟩
    · exact List.mem_append_left _ (List.mem_append_left _ List.mem_append_cons_self)
    · exact List.mem_append_left _ (List.mem_append_left _ List.mem_append_cons_self)

/-- Tasks keep to their subjects. -/
theorem Round.Moves.about (moves : round.Moves policy exchange round')
    (about : ∀ task ∈ round.tasks, task.rest.About task.subject) :
    (∀ task ∈ round'.tasks, task.rest.About task.subject) ∧
      ∀ x ∈ exchange, ∃ subject, x.effect.About subject := by
  refine ⟨?_, ?_⟩
  · refine moves.forall_tasks (fun _ _ => Program.about_catchUp) ?_ about
    exact fun answer own => own.2 answer
  · rintro ⟨effect, answer⟩ ⟨⟩
    obtain ⟨task, isTask, rest, isRest, -⟩ := moves.asked
    have own := about task isTask
    rw [isRest] at own
    exact ⟨task.subject, own.1⟩

/-- No task is lost, and none forgets what it was told. -/
theorem Round.Moves.grows (moves : round.Moves policy exchange round') {task : Task}
    (isTask : task ∈ round.tasks) :
    ∃ task' ∈ round'.tasks, task'.subject = task.subject ∧
      ∃ later, task'.told = task.told ++ later := by
  have kept (same : task ∈ round'.tasks) : ∃ task' ∈ round'.tasks,
      task'.subject = task.subject ∧ ∃ later, task'.told = task.told ++ later :=
    ⟨task, same, rfl, [], (List.append_nil _).symm⟩
  cases moves with
  | begun =>
    refine kept ?_
    simp only [Round.tasks, List.mem_append] at isTask ⊢
    exact isTask.imp_left fun own => own.imp_left .inl
  | @worked summary waiting permits before subject told effect rest after ended counted _ answer =>
    simp only [Round.tasks, List.mem_append, List.mem_cons] at isTask kept ⊢
    rcases isTask with ((own | rfl | own) | own) | own
    · exact kept (.inl (.inl (.inl own)))
    · exact ⟨_, .inl (.inl (.inr (.inl rfl))), rfl, _, rfl⟩
    · exact kept (.inl (.inl (.inr (.inr own))))
    · exact kept (.inl (.inr own))
    · exact kept (.inr own)
  | ended =>
    refine kept ?_
    simp only [Round.tasks, List.mem_append, List.mem_cons] at isTask ⊢
    tauto
  | counted =>
    refine kept ?_
    simp only [Round.tasks, List.mem_append, List.mem_cons] at isTask ⊢
    tauto

end Moves

/-- A pass whose opening keeps to the list that it was given, and whose tasks keep to their
subjects. -/
def Pass.Orderly (pass : Pass) : Prop :=
  match pass.phase with
  | .opening rest => rest.Asks Effect.Spares (fun _ _ => True) pass.told
  | .round round => ∀ task ∈ round.tasks, task.rest.About task.subject

theorem Pass.Moves.orderly {policy : RunPolicy} {pass pass' : Pass} {exchange : Option Exchange}
    (moves : pass.Moves policy exchange pass') (orderly : pass.Orderly) :
    pass'.Orderly ∧ ∀ x ∈ exchange, x.effect.Spares pass.told := by
  cases moves with
  | told given =>
    cases given
    refine ⟨orderly.2 _, ?_⟩
    rintro _ ⟨⟩
    exact orderly.1
  | opened => exact ⟨List.forall_mem_nil _, by rintro _ ⟨⟩⟩
  | round moves =>
    obtain ⟨about, asked⟩ := Round.Moves.about moves orderly
    refine ⟨about, fun x isAsked => ?_⟩
    obtain ⟨subject, about⟩ := asked x isAsked
    exact about.spares _

/-- A request with its answer, made by a run, as it was at that moment, or by somebody else. -/
structure Call where
  caller : Option Pass
  request : Request
  answer : Except StoreError request.Answer

/-- The call that an exchange of a run is, unless no catalog takes part in it. -/
def Exchange.calls (caller : Pass) : Exchange → List Call
  | ⟨.store request, answer⟩ => [⟨some caller, request, answer⟩]
  | _ => []

/-- A catalog and the runs that were begun on it. A run that has ended or was given up moves no
more. -/
structure World where
  backend : Backend
  runs : List (RunPolicy × Pass)

namespace World

/-- Somebody makes a request, a run is begun, or a run goes on. -/
inductive Step : World → List Call → World → Prop
  | asked {backend after runs request} {answer : Except StoreError request.Answer}
      (gives : backend.Gives (.store request) answer after) :
      Step ⟨backend, runs⟩ [⟨none, request, answer⟩] ⟨after, runs⟩
  | begun {backend runs} (policy : RunPolicy) :
      Step ⟨backend, runs⟩ []
        ⟨backend, runs ++ [(policy, ⟨[], .opening (Program.opening policy.retry)⟩)]⟩
  | moved {backend before policy pass pass' after} (moves : pass.Moves policy none pass') :
      Step ⟨backend, before ++ (policy, pass) :: after⟩ []
        ⟨backend, before ++ (policy, pass') :: after⟩
  | answered {backend backend' before policy pass pass' after effect} {answer : effect.Answer}
      (moves : pass.Moves policy (some ⟨effect, answer⟩) pass')
      (gives : backend.Gives effect answer backend') :
      Step ⟨backend, before ++ (policy, pass) :: after⟩ (Exchange.calls pass ⟨effect, answer⟩)
        ⟨backend', before ++ (policy, pass') :: after⟩

/-- What may happen from a moment on, with all calls that are made. -/
inductive History (first : World) : List Call → World → Prop
  | start : History first [] first
  | next {log world calls world'} : History first log world → Step world calls world' →
      History first (log ++ calls) world'

/-- The moments of all histories of a catalog that was empty when it was opened. -/
def Reached (world : World) : Prop :=
  ∃ backend log, backend.Reached ∧ History ⟨backend, []⟩ log world

def Orderly (world : World) : Prop :=
  ∀ run ∈ world.runs, run.2.Orderly

variable {world world' first second : World} {calls log : List Call}

/-- What holds of a pass when it is begun and is kept up wherever it goes holds of all runs. -/
theorem Step.forall_runs {holds : Pass → Prop} (step : Step world calls world')
    (begun : ∀ policy : RunPolicy, holds ⟨[], .opening (Program.opening policy.retry)⟩)
    (moved : ∀ {policy pass exchange pass'}, Pass.Moves policy pass exchange pass' →
      holds pass → holds pass')
    (all : ∀ run ∈ world.runs, holds run.2) : ∀ run ∈ world'.runs, holds run.2 := by
  cases step with
  | asked => exact all
  | begun policy =>
    exact List.forall_mem_append.2 ⟨all, List.forall_mem_singleton.2 (begun policy)⟩
  | moved moves | answered moves =>
    simp only [List.forall_mem_append, List.forall_mem_cons] at all ⊢
    obtain ⟨before, own, after⟩ := all
    exact ⟨before, moved moves own, after⟩

theorem Step.orderly (step : Step world calls world') (orderly : world.Orderly) :
    world'.Orderly ∧ ∀ call ∈ calls, ∀ pass ∈ call.caller,
      (Effect.store call.request).Spares pass.told := by
  refine ⟨step.forall_runs (fun policy => ?_) (fun moves own => (moves.orderly own).1) orderly, ?_⟩
  · exact ((Program.asks_opening policy.retry).mono fun _ _ _ => trivial).widen fun _ _ =>
      Effect.Clears.spares
  cases step with
  | asked gives =>
    refine List.forall_mem_singleton.2 ?_
    rintro pass ⟨⟩
  | begun | moved => exact List.forall_mem_nil _
  | @answered _ _ _ _ pass _ _ effect answer moves gives =>
    obtain ⟨-, spares⟩ := moves.orderly (orderly _ List.mem_append_cons_self)
    cases effect with
    | query | pause | report => exact List.forall_mem_nil _
    | store request =>
      refine List.forall_mem_singleton.2 ?_
      rintro _ ⟨⟩
      exact spares _ rfl

theorem Step.reached (step : Step world calls world') (reached : world.backend.Reached) :
    world'.backend.Reached := by
  cases step with
  | asked gives | answered _ gives => exact reached.gives gives
  | begun | moved => exact reached

/-- Runs remove no subject that they were told is listed. -/
theorem History.orderly (history : History first log second) (orderly : first.Orderly) :
    second.Orderly ∧ ∀ call ∈ log, ∀ pass ∈ call.caller,
      (Effect.store call.request).Spares pass.told := by
  induction history with
  | start => exact ⟨orderly, List.forall_mem_nil _⟩
  | next _ step ih =>
    obtain ⟨orderly, spared⟩ := ih
    obtain ⟨orderly, spares⟩ := step.orderly orderly
    exact ⟨orderly, List.forall_mem_append.2 ⟨spared, spares⟩⟩

theorem History.reached (history : History first log second) (reached : first.backend.Reached) :
    second.backend.Reached := by
  induction history with
  | start => exact reached
  | next _ step ih => exact step.reached ih

theorem Reached.orderly (reached : world.Reached) : world.Orderly := by
  obtain ⟨_, _, _, history⟩ := reached
  exact (history.orderly (List.forall_mem_nil _)).1

theorem Reached.backend (reached : world.Reached) : world.backend.Reached := by
  obtain ⟨_, _, backend, history⟩ := reached
  exact history.reached backend

end World

end SchemaLedger
