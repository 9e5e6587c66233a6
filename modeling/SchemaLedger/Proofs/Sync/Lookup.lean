import SchemaLedger.Proofs.Sync.Exchange
import SchemaLedger.Sync.Lookup

namespace SchemaLedger

/-- An exchange that is about one call and about nothing else: the call itself, a pause or an
event. -/
def Exchange.Within (call : Query) (exchange : Exchange) : Prop :=
  match exchange.effect with
  | .query _ other => other = call
  | .store _ => False
  | .pause _ => True
  | .report _ => True

/-- A stretch of exchanges about one call. -/
def Chatter (call : Query) (later : List Exchange) : Prop :=
  ∀ exchange ∈ later, exchange.Within call

namespace Chatter

variable {call other : Query} {later : List Exchange}

theorem nil : Chatter call [] := fun _ member => nomatch member

theorem append {first second : List Exchange} (a : Chatter call first) (b : Chatter call second) :
    Chatter call (first ++ second) := fun exchange member =>
  (List.mem_append.1 member).elim (a exchange) (b exchange)

theorem quiet (chatter : Chatter call later) : ∀ exchange ∈ later, exchange.Quiet := by
  intro exchange member request isStore
  have within := chatter exchange member
  rw [Exchange.Within, isStore] at within
  exact within

theorem not_answered (chatter : Chatter call later) {request : Request}
    {answer : Except StoreError request.Answer} : ¬Answered later request answer :=
  not_answered_quiet chatter.quiet

theorem eq_of_heard (chatter : Chatter call later) {attempt : Attempt other.Reply}
    (heard : Heard later other attempt) : other = call := by
  obtain ⟨limit, member⟩ := heard
  exact chatter _ member

theorem report (event : Event) : Chatter call [⟨.report event, ()⟩] := by
  intro exchange member
  cases List.mem_singleton.1 member
  exact True.intro

theorem query (limit : Span) (attempt : Attempt call.Reply) :
    Chatter call [⟨.query limit call, attempt⟩] := by
  intro exchange member
  cases List.mem_singleton.1 member
  rfl

theorem pause (span : Span) : Chatter call [⟨.pause span, ()⟩] := by
  intro exchange member
  cases List.mem_singleton.1 member
  exact True.intro

end Chatter

theorem heard_singleton {limit : Span} {call : Query} {attempt other : Attempt call.Reply} :
    Heard [⟨.query limit call, attempt⟩] call other ↔ other = attempt := by
  simp only [Heard, List.mem_singleton, Exchange.mk.injEq, Effect.query.injEq]
  constructor
  · rintro ⟨_, ⟨_, _⟩, same⟩
    exact eq_of_heq same
  · rintro rfl
    exact ⟨limit, ⟨rfl, True.intro⟩, HEq.rfl⟩

theorem heard_last (told : List Exchange) (limit : Span) (call : Query)
    (attempt : Attempt call.Reply) :
    Heard (told ++ [⟨.query limit call, attempt⟩]) call attempt :=
  heard_append.2 (.inr (heard_singleton.2 rfl))

theorem not_heard_report {event : Event} {call : Query} {attempt : Attempt call.Reply} :
    ¬Heard [⟨.report event, ()⟩] call attempt := by
  rintro ⟨_, member⟩
  cases List.mem_singleton.1 member

theorem not_answered_report {event : Event} {request : Request}
    {answer : Except StoreError request.Answer} :
    ¬Answered [⟨.report event, ()⟩] request answer := by
  intro member
  cases List.mem_singleton.1 member

theorem not_heard_store {request : Request} {answer : Except StoreError request.Answer}
    {call : Query} {attempt : Attempt call.Reply} :
    ¬Heard [⟨.store request, answer⟩] call attempt := by
  rintro ⟨_, member⟩
  cases List.mem_singleton.1 member

theorem not_heard_pause {span : Span} {call : Query} {attempt : Attempt call.Reply} :
    ¬Heard [⟨.pause span, ()⟩] call attempt := by
  rintro ⟨_, member⟩
  cases List.mem_singleton.1 member

namespace Lookup

variable {α : Type} {attempt : Attempt α}

theorem ofAttempt_eq_found {value : α} :
    ofAttempt attempt = found value ↔ attempt = .answered value := by
  cases attempt with
  | answered other => simp [ofAttempt]
  | timedOut => simp [ofAttempt]
  | failed error => cases error <;> simp [ofAttempt]

theorem ofAttempt_eq_notFound :
    ofAttempt attempt = notFound ↔ ∃ detail, attempt = .failed (.notFound detail) := by
  cases attempt with
  | answered other => simp [ofAttempt]
  | timedOut => simp [ofAttempt]
  | failed error => cases error <;> simp [ofAttempt]

/-- Between two moments nothing was heard of a call but missed deadlines and the attempt that the
look-up went by, if there was one in time. -/
def Settled {α : Type} (before after : Attempt α → Prop) (found : Lookup α) : Prop :=
  ∃ attempt, found = ofAttempt attempt ∧ (attempt ≠ .timedOut → after attempt) ∧
    ∀ other, after other → before other ∨ other = .timedOut ∨ other = attempt

/-- What was found was heard. -/
theorem Settled.heard_of_found {α : Type} {before after : Attempt α → Prop} {value : α}
    (settled : (found value).Settled before after) : after (.answered value) := by
  obtain ⟨attempt, same, heard, -⟩ := settled
  obtain rfl := ofAttempt_eq_found.1 same.symm
  exact heard nofun

/-- What is heard is found. -/
theorem Settled.eq_found_of_heard {α : Type} {before after : Attempt α → Prop} {found : Lookup α}
    {value : α} (settled : found.Settled before after) (new : ¬before (.answered value))
    (heard : after (.answered value)) : found = .found value := by
  obtain ⟨attempt, same, -, sole⟩ := settled
  rcases sole _ heard with early | late | rfl
  · exact absurd early new
  · cases late
  · exact same

/-- A missed deadline settles nothing. -/
theorem Settled.retried {α : Type} {before between after : Attempt α → Prop} {found : Lookup α}
    (settled : found.Settled between after)
    (late : ∀ other, between other → before other ∨ other = .timedOut) :
    found.Settled before after := by
  obtain ⟨attempt, same, heard, sole⟩ := settled
  refine ⟨attempt, same, heard, fun other isHeard => ?_⟩
  rcases sole other isHeard with early | settles
  · exact (late other early).imp_right .inl
  · exact .inr settles

end Lookup

namespace Program

variable {around : Surroundings} {inv : List Exchange → Catalog → Prop} {policy : RetryPolicy}
  {subject : String} {told : List Exchange} {catalog : Catalog}

/-- An event does nothing but stand on record. -/
theorem keeps_report {event : Event} (holds : inv (told ++ [⟨.report event, ()⟩]) catalog) :
    (report event).Keeps around inv
      (fun _ told' catalog' => told' = told ++ [⟨.report event, ()⟩] ∧ catalog' = catalog)
      told catalog := by
  intro answer catalog' gives
  cases gives
  exact ⟨holds, rfl, rfl⟩

theorem keeps_settle (call : Query) {version : Option UInt32} {attempt : Attempt Registered}
    (holds : ∀ later, Chatter call later → inv (told ++ later) catalog) :
    (settle subject version attempt).Keeps around inv
      (fun found told' catalog' => found = Lookup.ofAttempt attempt ∧ catalog' = catalog ∧
        ∃ later, told' = told ++ later ∧ Chatter call later ∧
          ∀ other attempt, ¬Heard later other attempt)
      told catalog := by
  unfold settle
  cases Lookup.event? subject version attempt with
  | none => exact ⟨rfl, rfl, [], by simp, .nil, fun _ _ => not_heard_nil⟩
  | some event =>
    refine keeps_bind.2 ((keeps_report (holds _ (.report event))).mono ?_)
    rintro _ told' catalog' ⟨rfl, rfl⟩
    exact ⟨rfl, rfl, _, rfl, .report event, fun _ _ => not_heard_report⟩

theorem keeps_version {number : UInt32}
    (holds : ∀ later, Chatter (.version subject number) later → inv (told ++ later) catalog) :
    (version policy subject number).Keeps around inv
      (fun found told' catalog' => catalog' = catalog ∧
        ∃ attempt later, found = Lookup.ofAttempt attempt ∧ told' = told ++ later ∧
          Heard later (.version subject number) attempt ∧
          Chatter (.version subject number) later)
      told catalog := by
  refine keeps_bind.2 ?_
  intro attempt catalog' gives
  cases gives
  have asked : Chatter (.version subject number)
      [⟨.query policy.requestTimeout (.version subject number), attempt⟩] := .query _ _
  refine ⟨holds _ asked, (keeps_settle (.version subject number) ?_).mono ?_⟩
  · intro later chatter
    rw [List.append_assoc]
    exact holds _ (asked.append chatter)
  · rintro found told' catalog' ⟨rfl, rfl, later, rfl, chatter, -⟩
    refine ⟨rfl, attempt, _, rfl, List.append_assoc .., ?_, asked.append chatter⟩
    exact heard_append.2 (Or.inl (heard_singleton.2 rfl))

/-- A result of the look-up for the latest version agrees with what was heard on the way. -/
structure AgreesWithLatest (subject : String) (later : List Exchange)
    (found : Lookup Registered) : Prop where
  answered : ∀ registered,
    Heard later (.latest subject) (.answered registered) ↔ found = .found registered
  denied : found = .notFound → ∃ detail, Heard later (.latest subject) (.failed (.notFound detail))

theorem AgreesWithLatest.ofAttempt {later : List Exchange} {attempt : Attempt Registered}
    (heard : ∀ other, Heard later (.latest subject) other ↔ other = attempt) :
    AgreesWithLatest subject later (Lookup.ofAttempt attempt) where
  answered registered := by
    rw [heard, Lookup.ofAttempt_eq_found]
    exact eq_comm
  denied missing := by
    obtain ⟨detail, rfl⟩ := Lookup.ofAttempt_eq_notFound.1 missing
    exact ⟨detail, (heard _).2 rfl⟩

theorem AgreesWithLatest.timedOut {before later : List Exchange} {found : Lookup Registered}
    (silent : ∀ attempt, Heard before (.latest subject) attempt → attempt = .timedOut)
    (agrees : AgreesWithLatest subject later found) :
    AgreesWithLatest subject (before ++ later) found where
  answered registered := by
    rw [heard_append, ← agrees.answered registered]
    constructor
    · rintro (early | late)
      · cases silent _ early
      · exact late
    · exact Or.inr
  denied missing := by
    obtain ⟨detail, heard⟩ := agrees.denied missing
    exact ⟨detail, heard_append.2 (Or.inr heard)⟩

/-- The latest version was looked for and nothing else was done. The exchanges since then agree with
the result, and the registry was asked if it had to be. -/
def LatestSought (subject : String) (asked : Prop) (told : List Exchange) (catalog : Catalog)
    (found : Lookup Registered) (told' : List Exchange) (catalog' : Catalog) : Prop :=
  catalog' = catalog ∧ ∃ later, told' = told ++ later ∧ Chatter (.latest subject) later ∧
    AgreesWithLatest subject later found ∧
    (asked → ∃ attempt, Heard later (.latest subject) attempt)

/-- After a missed deadline the look-up goes on as if it began then. -/
theorem LatestSought.retried {asked asked' : Prop} {limit : Span} {between told' : List Exchange}
    {found : Lookup Registered} {catalog' : Catalog}
    (sought : LatestSought subject asked
      (told ++ ([⟨.query limit (.latest subject), .timedOut⟩] ++ between)) catalog found told'
      catalog')
    (chatter : Chatter (.latest subject) between)
    (unheard : ∀ attempt, ¬Heard between (.latest subject) attempt) :
    LatestSought subject asked' told catalog found told' catalog' := by
  obtain ⟨rfl, later, rfl, further, agrees, -⟩ := sought
  have called : Heard ([⟨.query limit (.latest subject), .timedOut⟩] ++ between)
      (.latest subject) .timedOut := heard_append.2 (.inl (heard_singleton.2 rfl))
  refine ⟨rfl, _, List.append_assoc .., ((Chatter.query _ _).append chatter).append further,
    .timedOut (fun attempt heard => ?_) agrees, fun _ => ⟨_, heard_append.2 (.inl called)⟩⟩
  exact heard_singleton.1 ((heard_append.1 heard).resolve_right (unheard attempt))

/-- Every end of the call but a missed deadline is final. -/
theorem keeps_settle_latest {asked : Prop} {limit : Span} {attempt : Attempt Registered}
    (holds : ∀ later, Chatter (.latest subject) later → inv (told ++ later) catalog) :
    (settle subject none attempt).Keeps around inv (LatestSought subject asked told catalog)
      (told ++ [⟨.query limit (.latest subject), attempt⟩]) catalog := by
  have called : Chatter (.latest subject) [⟨.query limit (.latest subject), attempt⟩] := .query _ _
  refine (keeps_settle (.latest subject) fun later chatter => ?_).mono ?_
  · rw [List.append_assoc]
    exact holds _ (called.append chatter)
  · rintro found told' catalog' ⟨rfl, rfl, later, rfl, chatter, unheard⟩
    refine ⟨rfl, _, List.append_assoc .., called.append chatter, .ofAttempt fun other => ?_,
      fun _ => ⟨attempt, heard_append.2 (.inl (heard_singleton.2 rfl))⟩⟩
    rw [heard_append, heard_singleton]
    exact or_iff_left (unheard _ _)

theorem keeps_latestFrom (left made : Nat)
    (holds : ∀ later, Chatter (.latest subject) later → inv (told ++ later) catalog) :
    (latestFrom policy subject left made).Keeps around inv
      (LatestSought subject (left ≠ 0) told catalog) told catalog := by
  induction left generalizing made told with
  | zero =>
    refine keeps_bind.2 ((keeps_report (holds _ (.report _))).mono ?_)
    rintro _ told' catalog' ⟨rfl, rfl⟩
    exact ⟨rfl, _, rfl, .report _,
      ⟨fun _ => ⟨fun heard => absurd heard not_heard_report, nofun⟩, nofun⟩, absurd rfl⟩
  | succ left ih =>
    refine keeps_bind.2 ?_
    intro attempt catalog' gives
    cases gives
    refine ⟨holds _ (.query _ _), ?_⟩
    cases attempt with
    | answered value => exact keeps_settle_latest holds
    | failed error => exact keeps_settle_latest holds
    | timedOut =>
      have further (between : List Exchange) (chatter : Chatter (.latest subject) between)
          (later : List Exchange) (more : Chatter (.latest subject) later) :
          inv (told ++ ([⟨.query policy.requestTimeout (.latest subject), .timedOut⟩] ++ between) ++
            later) catalog := by
        rw [List.append_assoc]
        exact holds _ (((Chatter.query _ _).append chatter).append more)
      dsimp only
      split
      · -- Another attempt follows after an event and a pause.
        generalize policy.backoffDelay (.ofNat made) = delay
        have waited : Chatter (.latest subject) ([⟨.report (.latestRetried subject (made + 1) delay),
            ()⟩] ++ [⟨.pause delay, ()⟩]) := (Chatter.report _).append (.pause _)
        have unheard (attempt : Attempt Registered) : ¬Heard ([⟨.report (.latestRetried subject
            (made + 1) delay), ()⟩] ++ [⟨.pause delay, ()⟩]) (.latest subject) attempt :=
          fun heard => (heard_append.1 heard).elim not_heard_report not_heard_pause
        have noted : inv (told ++ [⟨.query policy.requestTimeout (.latest subject), .timedOut⟩] ++
            [⟨.report (.latestRetried subject (made + 1) delay), ()⟩]) catalog :=
          further [] .nil _ (.report _)
        refine keeps_bind.2 ((keeps_report noted).mono ?_)
        rintro _ told' catalog' ⟨rfl, rfl⟩
        refine keeps_bind.2 ?_
        intro answer catalog' gives
        cases gives
        refine ⟨?_, ?_⟩
        · rw [List.append_assoc _ [_] [_]]
          exact further [] .nil _ waited
        · rw [List.append_assoc _ [_] [_], List.append_assoc _ [_]]
          exact (ih (made + 1) (further _ waited)).mono fun _ _ _ sought =>
            sought.retried waited unheard
      · exact (ih (made + 1) (further [] .nil)).mono fun _ _ _ sought =>
          sought.retried .nil fun _ => not_heard_nil

theorem keeps_latest
    (holds : ∀ later, Chatter (.latest subject) later → inv (told ++ later) catalog) :
    (latest policy subject).Keeps around inv
      (fun found told' catalog' => catalog' = catalog ∧
        ∃ later, told' = told ++ later ∧ Chatter (.latest subject) later ∧
          AgreesWithLatest subject later found ∧
          ∃ attempt, Heard later (.latest subject) attempt)
      told catalog := by
  have once : max policy.attempts.toNat 1 ≠ 0 :=
    Nat.ne_of_gt (Nat.lt_of_lt_of_le Nat.one_pos (Nat.le_max_right _ _))
  refine (keeps_latestFrom _ _ holds).mono ?_
  rintro found told' catalog' ⟨same, later, grown, chatter, agrees, asked⟩
  exact ⟨same, later, grown, chatter, agrees, asked once⟩

/-- A call whose end is at most put on record leaves no more than chatter about it. -/
theorem keeps_noted {α : Type} {call : Query} {limit : Span}
    {taken : Attempt call.Reply → Program α}
    (noted : ∀ attempt, (∃ value, taken attempt = pure value) ∨
      ∃ event value, taken attempt = (do report event; pure value))
    (holds : ∀ later, Chatter call later → inv (told ++ later) catalog) :
    (query limit call >>= taken).Keeps around inv
      (fun _ told' catalog' => catalog' = catalog ∧
        ∃ later, told' = told ++ later ∧ Chatter call later)
      told catalog := by
  refine keeps_bind.2 ?_
  intro attempt catalog' gives
  cases gives
  have asked : Chatter call [⟨.query limit call, attempt⟩] := .query _ _
  refine ⟨holds _ asked, ?_⟩
  rcases noted attempt with ⟨value, same⟩ | ⟨event, value, same⟩
  · change (taken attempt).Keeps around inv _ _ _
    rw [same]
    exact ⟨rfl, _, rfl, asked⟩
  · have onRecord : inv (told ++ [⟨.query limit call, attempt⟩] ++ [⟨.report event, ()⟩])
        catalog := by
      rw [List.append_assoc]
      exact holds _ (asked.append (.report event))
    change (taken attempt).Keeps around inv _ _ _
    rw [same]
    refine keeps_bind.2 ((keeps_report onRecord).mono ?_)
    rintro _ told' catalog' ⟨rfl, rfl⟩
    exact ⟨rfl, _, List.append_assoc .., asked.append (.report _)⟩

theorem keeps_config
    (holds : ∀ later, Chatter (.config subject) later → inv (told ++ later) catalog) :
    (config policy subject).Keeps around inv
      (fun _ told' catalog' => catalog' = catalog ∧
        ∃ later, told' = told ++ later ∧ Chatter (.config subject) later)
      told catalog := by
  refine keeps_noted (fun attempt => ?_) holds
  cases attempt with
  | answered value => exact .inl ⟨_, rfl⟩
  | timedOut | failed error => exact .inr ⟨_, _, rfl⟩

theorem keeps_mode
    (holds : ∀ later, Chatter (.mode subject) later → inv (told ++ later) catalog) :
    (mode policy subject).Keeps around inv
      (fun _ told' catalog' => catalog' = catalog ∧
        ∃ later, told' = told ++ later ∧ Chatter (.mode subject) later)
      told catalog := by
  refine keeps_noted (fun attempt => ?_) holds
  cases attempt with
  | answered value => exact .inl ⟨_, rfl⟩
  | timedOut | failed error => exact .inr ⟨_, _, rfl⟩

/-- To settle a call is to report at most. -/
theorem asks_settle {version : Option UInt32} {attempt : Attempt Registered} :
    (settle subject version attempt).Asks (fun _ => Effect.Quiet)
      (fun found told' => found = Lookup.ofAttempt attempt ∧ told ⊆ told' ∧
        ∀ call (other : Attempt call.Reply), Heard told' call other → Heard told call other)
      told := by
  unfold settle
  split
  · refine asks_bind.2 ⟨.report, fun _ => ⟨rfl, List.subset_append_left _ _, fun _ _ heard => ?_⟩⟩
    exact (heard_append.1 heard).resolve_right not_heard_report
  · exact ⟨rfl, List.Subset.refl _, fun _ _ heard => heard⟩

theorem asks_version {number : UInt32} :
    (version policy subject number).Asks (fun _ => Effect.Quiet)
      (fun found told' => found.Settled (Heard told (.version subject number))
        (Heard told' (.version subject number))) told := by
  refine asks_bind.2 ⟨.query, fun attempt => asks_settle.mono ?_⟩
  rintro found told' ⟨rfl, within, nothing⟩
  refine ⟨attempt, rfl, fun _ => (heard_last told _ _ _).mono within, fun other heard => ?_⟩
  rcases heard_append.1 (nothing _ _ heard) with early | late
  · exact .inl early
  · exact .inr (.inr (heard_singleton.1 late))

/-- Every end of the call but a missed deadline is final. -/
theorem asks_settle_latest {limit : Span} {attempt : Attempt Registered} :
    (settle subject none attempt).Asks (fun _ => Effect.Quiet)
      (fun found told' => found.Settled (Heard told (.latest subject))
        (Heard told' (.latest subject)))
      (told ++ [⟨.query limit (.latest subject), attempt⟩]) := by
  refine asks_settle.mono ?_
  rintro found told' ⟨rfl, within, nothing⟩
  refine ⟨attempt, rfl, fun _ => (heard_last told limit _ _).mono within, fun other heard => ?_⟩
  rcases heard_append.1 (nothing _ _ heard) with early | late
  · exact .inl early
  · exact .inr (.inr (heard_singleton.1 late))

theorem asks_latestFrom (left made : Nat) :
    (latestFrom policy subject left made).Asks (fun _ => Effect.Quiet)
      (fun found told' => found.Settled (Heard told (.latest subject))
        (Heard told' (.latest subject))) told := by
  induction left generalizing made told with
  | zero =>
    refine asks_bind.2 ⟨.report, fun _ => ⟨.timedOut, rfl, absurd rfl, fun other heard => ?_⟩⟩
    exact .inl ((heard_append.1 heard).resolve_right not_heard_report)
  | succ left ih =>
    refine asks_bind.2 ⟨.query, fun attempt => ?_⟩
    cases attempt with
    | answered value => exact asks_settle_latest
    | failed error => exact asks_settle_latest
    | timedOut =>
      have late (other : Attempt Registered) (heard : Heard
          (told ++ [⟨.query policy.requestTimeout (.latest subject), .timedOut⟩]) (.latest subject)
          other) : Heard told (.latest subject) other ∨ other = .timedOut :=
        (heard_append.1 heard).imp_right heard_singleton.1
      dsimp only
      split
      · refine asks_bind.2 ⟨.report, fun _ => asks_bind.2 ⟨.pause, fun _ => ?_⟩⟩
        refine (ih _).mono fun _ _ settled => settled.retried fun other heard => late other ?_
        have noted := (heard_append.1 heard).resolve_right not_heard_pause
        exact (heard_append.1 noted).resolve_right not_heard_report
      · exact (ih _).mono fun _ _ settled => settled.retried late

end Program

end SchemaLedger
