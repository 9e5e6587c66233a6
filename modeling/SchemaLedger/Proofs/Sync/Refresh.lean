import SchemaLedger.Proofs.Sync.CatchUp

namespace SchemaLedger

namespace Exchange

/-- The compatibility level that was delivered for a subject. -/
def level? (subject : String) : Exchange → Option String
  | ⟨.query _ (.config name), .answered (some config)⟩ =>
    if name = subject then config.compatibilityLevel else none
  | _ => none

/-- Whether the mode that was delivered for a subject is one for reading only. -/
def readOnly? (subject : String) : Exchange → Option Bool
  | ⟨.query _ (.mode name), .answered mode⟩ =>
    if name = subject then some mode.isReadOnly else none
  | _ => none

/-- The exchange is part of a refresh. -/
def refreshes : Exchange → Bool
  | ⟨.query _ (.config _), _⟩ | ⟨.query _ (.mode _), _⟩ | ⟨.store (.update _ _), _⟩ => true
  | _ => false

end Exchange

/-- The levels that were delivered for a subject, in their order. -/
def levels (subject : String) (told : List Exchange) : List String :=
  told.filterMap (Exchange.level? subject)

def modes (subject : String) (told : List Exchange) : List Bool :=
  told.filterMap (Exchange.readOnly? subject)

/-- What there is to keep after all that was told. -/
def delivered (subject : String) (told : List Exchange) : EntryUpdate :=
  ⟨(levels subject told).getLast?, (modes subject told).getLast?, environment? subject⟩

/-- The mark of a subject was read, and it is not as high as the latest version. -/
def Behind (subject : String) (told : List Exchange) : Prop :=
  ∃ mark latest, Answered told (.mark subject) (.ok mark) ∧
    Heard told (.latest subject) (.answered latest) ∧ mark.any (latest.version ≤ ·) = false

/-- The settings were asked for, and the catalog was told to keep them. -/
structure Refreshed (subject : String) (told : List Exchange) : Prop where
  config : ∃ attempt, Heard told (.config subject) attempt
  mode : ∃ attempt, Heard told (.mode subject) attempt
  update : ∃ change answer, Answered told (.update subject change) answer

/-- Settings are asked for and kept only of a subject that is behind, and what is kept is what was
delivered. -/
def Effect.Refreshing (subject : String) (told : List Exchange) : Effect → Prop
  | .query _ (.config _) | .query _ (.mode _) => Behind subject told
  | .store (.update _ change) => Behind subject told ∧ change = delivered subject told
  | _ => True

variable {subject : String} {told later : List Exchange}

theorem levels_append :
    levels subject (told ++ later) = levels subject told ++ levels subject later :=
  List.filterMap_append

theorem modes_append : modes subject (told ++ later) = modes subject told ++ modes subject later :=
  List.filterMap_append

/-- Nothing is delivered without a refresh. -/
theorem Exchange.level?_of_idle {x : Exchange} (idle : x.refreshes = false) :
    x.level? subject = none := by
  obtain ⟨effect, answer⟩ := x
  cases effect with
  | query limit call =>
    cases call with
    | config => cases idle
    | _ => rfl
  | _ => rfl

theorem Exchange.readOnly?_of_idle {x : Exchange} (idle : x.refreshes = false) :
    x.readOnly? subject = none := by
  obtain ⟨effect, answer⟩ := x
  cases effect with
  | query limit call =>
    cases call with
    | mode => cases idle
    | _ => rfl
  | _ => rfl

theorem levels_of_idle (idle : ∀ x ∈ told, x.refreshes = false) : levels subject told = [] :=
  List.filterMap_eq_nil_iff.2 fun x member => Exchange.level?_of_idle (idle x member)

theorem modes_of_idle (idle : ∀ x ∈ told, x.refreshes = false) : modes subject told = [] :=
  List.filterMap_eq_nil_iff.2 fun x member => Exchange.readOnly?_of_idle (idle x member)

theorem Behind.append (behind : Behind subject told) (later : List Exchange) :
    Behind subject (told ++ later) := by
  obtain ⟨mark, latest, answered, heard, above⟩ := behind
  exact ⟨mark, latest, answered.append later, heard.append later, above⟩

/-- An event on record says nothing of marks and versions. -/
theorem Behind.of_report {event : Event} (behind : Behind subject (told ++ [⟨.report event, ()⟩])) :
    Behind subject told := by
  obtain ⟨mark, latest, answered, heard, above⟩ := behind
  exact ⟨mark, latest, (answered_append.1 answered).resolve_right not_answered_report,
    (heard_append.1 heard).resolve_right not_heard_report, above⟩

theorem Refreshed.append (refreshed : Refreshed subject told) (later : List Exchange) :
    Refreshed subject (told ++ later) := by
  obtain ⟨⟨first, config⟩, ⟨second, mode⟩, ⟨change, answer, update⟩⟩ := refreshed
  exact ⟨⟨first, config.append later⟩, ⟨second, mode.append later⟩,
    ⟨change, answer, update.append later⟩⟩

theorem Effect.Refreshing.behind {effect : Effect} {answer : effect.Answer}
    (refreshing : effect.Refreshing subject told)
    (refreshes : Exchange.refreshes ⟨effect, answer⟩ = true) : Behind subject told := by
  cases effect with
  | query limit call =>
    cases call with
    | config | mode => exact refreshing
    | _ => cases refreshes
  | store request =>
    cases request with
    | update => exact refreshing.1
    | _ => cases refreshes
  | pause | report => cases refreshes

theorem Effect.Fetches.refreshing {below : Nat} {effect : Effect}
    (fetches : effect.Fetches subject below) : effect.Refreshing subject told := by
  cases fetches <;> trivial

theorem Exchange.idle_of_fetches {below : Nat} {x : Exchange}
    (fetches : x.effect.Fetches subject below) : x.refreshes = false := by
  obtain ⟨effect, answer⟩ := x
  cases fetches <;> rfl

namespace Program

variable {policy : RetryPolicy}

/-- The level is taken over if there is one in the answer. -/
theorem refreshing_config (behind : Behind subject told) (idle : ∀ x ∈ told, x.refreshes = false) :
    (config policy subject).Asks (Effect.Refreshing subject) (fun config told' =>
      Behind subject told' ∧ (∃ attempt, Heard told' (.config subject) attempt) ∧
        (levels subject told').getLast? = config.bind (·.compatibilityLevel) ∧
          modes subject told' = []) told := by
  have noLevel : levels subject told = [] := levels_of_idle idle
  have noMode : modes subject told = [] := modes_of_idle idle
  refine asks_bind.2 ⟨behind, fun attempt => ?_⟩
  have asked := behind.append [⟨.query policy.requestTimeout (.config subject), attempt⟩]
  have heard := heard_last told policy.requestTimeout (.config subject) attempt
  cases attempt with
  | answered config =>
    refine ⟨asked, ⟨_, heard⟩, ?_, ?_⟩
    · rw [levels_append, noLevel, List.nil_append]
      cases config with
      | none => rfl
      | some config =>
        cases level : config.compatibilityLevel <;> simp [levels, Exchange.level?, level]
    · rw [modes_append, noMode]
      rfl
  | timedOut | failed error =>
    refine asks_bind.2 ⟨trivial, fun _ => ⟨asked.append _, ⟨_, heard.append _⟩, ?_, ?_⟩⟩
    · rw [levels_append, levels_append, noLevel]
      rfl
    · rw [modes_append, modes_append, noMode]
      rfl

theorem refreshing_mode (behind : Behind subject told) (noMode : modes subject told = []) :
    (mode policy subject).Asks (Effect.Refreshing subject) (fun mode told' =>
      (modes subject told').getLast? = mode.map (·.isReadOnly) ∧
        (∃ attempt, Heard told' (.mode subject) attempt) ∧
          ∃ later, told' = told ++ later ∧ levels subject later = []) told := by
  refine asks_bind.2 ⟨behind, fun attempt => ?_⟩
  have heard := heard_last told policy.requestTimeout (.mode subject) attempt
  cases attempt with
  | answered mode =>
    refine ⟨?_, ⟨_, heard⟩, _, rfl, rfl⟩
    rw [modes_append, noMode]
    simp [modes, Exchange.readOnly?]
  | timedOut | failed error =>
    refine asks_bind.2 ⟨trivial, fun _ => ⟨?_, ⟨_, heard.append _⟩, _, List.append_assoc .., rfl⟩⟩
    rw [modes_append, modes_append, noMode]
    rfl

/-- A refresh hands on what it was told, and ends with the request to keep it. -/
theorem refreshing_refresh (behind : Behind subject told) (idle : ∀ x ∈ told, x.refreshes = false) :
    (refresh policy subject).Asks (Effect.Refreshing subject)
      (fun _ told' => Behind subject told' ∧ Refreshed subject told') told := by
  refine asks_bind.2 ((refreshing_config behind idle).mono ?_)
  rintro config told' ⟨behind, ⟨first, heardConfig⟩, level, noMode⟩
  refine asks_bind.2 ((refreshing_mode behind noMode).mono ?_)
  rintro mode told'' ⟨readOnly, ⟨second, heardMode⟩, later, rfl, noLevel⟩
  have same : (⟨config.bind (·.compatibilityLevel), mode.map (·.isReadOnly),
      environment? subject⟩ : EntryUpdate) = delivered subject (told' ++ later) := by
    rw [delivered, readOnly, levels_append, noLevel, List.append_nil, level]
  have behind := behind.append later
  refine asks_bind.2 ⟨⟨behind, same⟩, fun answer => ?_⟩
  have behind := behind.append [⟨.store (.update subject _), answer⟩]
  have refreshed : Refreshed subject (told' ++ later ++ [⟨.store (.update subject _), answer⟩]) :=
    ⟨⟨first, (heardConfig.append _).append _⟩, ⟨second, heardMode.append _⟩,
      ⟨_, answer, answered_last _ _ _⟩⟩
  match answer with
  | .ok true => exact ⟨behind, refreshed⟩
  | .ok false => exact asks_bind.2 ⟨trivial, fun _ => ⟨behind.append _, refreshed.append _⟩⟩
  | .error error => exact asks_bind.2 ⟨trivial, fun _ => ⟨behind.append _, refreshed.append _⟩⟩

/-- Fetching and keeping versions leaves the settings alone. -/
theorem refreshing_fetches {α : Type} {program : Program α} {below : Nat}
    (fetches : program.Only (Effect.Fetches subject below)) (behind : Behind subject told)
    (idle : ∀ x ∈ told, x.refreshes = false) :
    program.Asks (Effect.Refreshing subject) (fun _ told' => Behind subject told' ∧
      ∀ x ∈ told', x.refreshes = false) told := by
  have asks : program.Asks (fun _ => Effect.Fetches subject below) (fun _ _ => True) told :=
    fetches.asks fun _ _ => id
  refine ((asks.grown fetches).widen fun _ _ => Effect.Fetches.refreshing).mono ?_
  rintro value told' ⟨-, later, rfl, each⟩
  refine ⟨behind.append later, List.forall_mem_append.2 ⟨idle, fun x member => ?_⟩⟩
  exact Exchange.idle_of_fetches (each x member)

theorem refreshing_advance {mark : Option UInt32} {latest : Registered}
    (behind : Behind subject told) (idle : ∀ x ∈ told, x.refreshes = false) :
    (advance policy subject mark latest).Asks (Effect.Refreshing subject)
      (fun _ told' => Behind subject told' ∧ Refreshed subject told') told := by
  have announced (event : Event) : (report event).Only (Effect.Fetches subject 0) :=
    ⟨.report, fun _ => trivial⟩
  refine asks_bind.2 ((refreshing_fetches (announced _) behind idle).mono ?_)
  rintro _ told' ⟨behind, idle⟩
  refine asks_bind.2 ((refreshing_fetches (fetches_missing _ _ _) behind idle).mono ?_)
  rintro ⟨fetched, missing⟩ told' ⟨behind, idle⟩
  cases missing with
  | none =>
    refine asks_bind.2 ((refreshing_fetches (fetches_keep 0 _ _) behind idle).mono ?_)
    rintro kept told' ⟨behind, idle⟩
    exact asks_bind.2 ((refreshing_refresh behind idle).mono fun _ _ done => done)
  | some gap =>
    refine asks_bind.2 (asks_bind.2 ?_)
    exact (refreshing_refresh behind idle).mono fun _ _ done => done

/-- Work that gets past its check ends with a refresh. -/
theorem refreshing_catchUp : (catchUp policy subject).Asks (Effect.Refreshing subject)
    (fun _ told => Behind subject told → Refreshed subject told) [] := by
  refine asks_bind.2 ⟨trivial, fun answer => ?_⟩
  cases answer with
  | error error =>
    refine asks_bind.2 ⟨trivial, fun _ behind => ?_⟩
    obtain ⟨mark, latest, answered, -⟩ := behind.of_report
    cases List.mem_singleton.1 answered
  | ok mark =>
    refine asks_bind.2 ((((asks_latestFrom _ _).grown (fetches_latestFrom 0 _ _)).widen fun _ _ =>
      Effect.Fetches.refreshing).mono ?_)
    rintro found told' ⟨settled, later, rfl, each⟩
    have only (other : Option UInt32) (answered : Answered
        ([⟨.store (.mark subject), .ok mark⟩] ++ later) (.mark subject) (.ok other)) :
        other = mark := by
      rcases List.mem_cons.1 answered with first | fetched
      · cases first
        rfl
      · cases each _ fetched
    -- what makes the subject be behind was read and found
    have found_of_behind (behind : Behind subject ([⟨.store (.mark subject), .ok mark⟩] ++ later)) :
        ∃ latest, found = .found latest ∧ mark.any (latest.version ≤ ·) = false := by
      obtain ⟨other, latest, answered, heard, above⟩ := behind
      rw [only other answered] at above
      exact ⟨latest, settled.eq_found_of_heard not_heard_store heard, above⟩
    cases found with
    | notFound | unavailable =>
      intro behind
      obtain ⟨latest, isFound, -⟩ := found_of_behind behind
      cases isFound
    | found latest =>
      have read := (answered_last [] (.mark subject) (.ok mark)).append later
      dsimp only
      split
      case isTrue current =>
        refine asks_bind.2 ⟨trivial, fun _ behind => ?_⟩
        obtain ⟨other, isFound, above⟩ := found_of_behind behind.of_report
        cases isFound
        rw [current] at above
        cases above
      case isFalse above =>
        have behind : Behind subject ([⟨.store (.mark subject), .ok mark⟩] ++ later) :=
          ⟨mark, latest, read, settled.heard_of_found, Bool.eq_false_iff.2 above⟩
        have idle : ∀ x ∈ [⟨.store (.mark subject), .ok mark⟩] ++ later, x.refreshes = false :=
          List.forall_mem_append.2 ⟨List.forall_mem_singleton.2 rfl, fun x member =>
            Exchange.idle_of_fetches (each x member)⟩
        exact (refreshing_advance behind idle).mono fun _ _ ⟨_, refreshed⟩ _ => refreshed

end Program

end SchemaLedger
