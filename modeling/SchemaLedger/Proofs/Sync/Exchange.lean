import SchemaLedger.Proofs.Catalog
import SchemaLedger.Sync.Program

namespace SchemaLedger

/-- An effect that was asked for, with its answer. -/
structure Exchange where
  effect : Effect
  answer : effect.Answer

/-- What a program has to reckon with: how calls may end, which requests may be carried out and
which may fail. All three may hang on what the program was told before. -/
structure Surroundings where
  replies : List Exchange → (call : Query) → Attempt call.Reply → Prop
  accepts : List Exchange → Request → Prop
  refuses : List Exchange → Request → StoreError → Prop

/-- The answers to an effect, and the catalog after each. A refused request changes nothing. -/
inductive Surroundings.Gives (around : Surroundings) (told : List Exchange) (catalog : Catalog) :
    (effect : Effect) → effect.Answer → Catalog → Prop
  | replied {limit call attempt} : around.replies told call attempt →
      Gives around told catalog (.query limit call) attempt catalog
  | accepted {request} : around.accepts told request →
      Gives around told catalog (.store request) (.ok (catalog.perform request).1)
        (catalog.perform request).2
  | refused {request error} : around.refuses told request error →
      Gives around told catalog (.store request) (.error error) catalog
  | paused {span} : Gives around told catalog (.pause span) () catalog
  | reported {event} : Gives around told catalog (.report event) () catalog

/-- A registry that may do anything, over a catalog that carries out every request. -/
def Surroundings.moody : Surroundings := ⟨fun _ _ _ => True, fun _ _ => True, fun _ _ _ => False⟩

/-- A registry that may do anything, over a catalog that may refuse any request. -/
def Surroundings.wild : Surroundings := ⟨fun _ _ _ => True, fun _ _ => True, fun _ _ _ => True⟩

/-- Whatever may happen in the first surroundings may happen in the second. -/
structure Surroundings.Within (narrow wide : Surroundings) : Prop where
  replies : ∀ told call attempt, narrow.replies told call attempt → wide.replies told call attempt
  accepts : ∀ told request, narrow.accepts told request → wide.accepts told request
  refuses : ∀ told request error, narrow.refuses told request error →
    wide.refuses told request error

theorem Surroundings.Gives.widen {narrow wide : Surroundings} {told : List Exchange}
    {catalog catalog' : Catalog} {effect : Effect} {answer : effect.Answer}
    (gives : narrow.Gives told catalog effect answer catalog') (within : narrow.Within wide) :
    wide.Gives told catalog effect answer catalog' := by
  cases gives with
  | replied reply => exact .replied (within.replies _ _ _ reply)
  | accepted accepts => exact .accepted (within.accepts _ _ accepts)
  | refused refuses => exact .refused (within.refuses _ _ _ refuses)
  | paused => exact .paused
  | reported => exact .reported

/-- A call ended like this. -/
def Heard (told : List Exchange) (call : Query) (attempt : Attempt call.Reply) : Prop :=
  ∃ limit, ⟨.query limit call, attempt⟩ ∈ told

/-- A request was answered like this. -/
def Answered (told : List Exchange) (request : Request)
    (answer : Except StoreError request.Answer) : Prop :=
  ⟨.store request, answer⟩ ∈ told

/-- No catalog takes part in the effect. -/
def Effect.Quiet (effect : Effect) : Prop :=
  ∀ request, effect ≠ .store request

theorem Effect.Quiet.query {limit : Span} {call : Query} : (Effect.query limit call).Quiet := by
  rintro _ ⟨⟩

theorem Effect.Quiet.pause {span : Span} : (Effect.pause span).Quiet := by
  rintro _ ⟨⟩

theorem Effect.Quiet.report {event : Event} : (Effect.report event).Quiet := by
  rintro _ ⟨⟩

/-- Exchanges that no catalog takes part in. -/
def Exchange.Quiet (exchange : Exchange) : Prop :=
  ∀ request, exchange.effect ≠ .store request

/-- Nothing was asked of a catalog but what it has. -/
def Exchange.Reads (exchange : Exchange) : Prop :=
  ∀ request, exchange.effect = .store request → request.reads = true

theorem Exchange.Quiet.reads {exchange : Exchange} (quiet : exchange.Quiet) : exchange.Reads :=
  fun request isStore => absurd isStore (quiet request)

/-- The text of a snapshot is not asked for. -/
def Effect.Plain (effect : Effect) : Prop :=
  ∀ subject version, effect ≠ .store (.snapshot subject version)

theorem Heard.append {told : List Exchange} {call : Query} {attempt : Attempt call.Reply}
    (heard : Heard told call attempt) (later : List Exchange) :
    Heard (told ++ later) call attempt := by
  obtain ⟨limit, member⟩ := heard
  exact ⟨limit, List.mem_append_left later member⟩

theorem Answered.append {told : List Exchange} {request : Request}
    {answer : Except StoreError request.Answer} (answered : Answered told request answer)
    (later : List Exchange) : Answered (told ++ later) request answer :=
  List.mem_append_left later answered

theorem Heard.mono {told told' : List Exchange} {call : Query} {attempt : Attempt call.Reply}
    (heard : Heard told call attempt) (within : told ⊆ told') : Heard told' call attempt := by
  obtain ⟨limit, member⟩ := heard
  exact ⟨limit, within member⟩

theorem heard_append {told later : List Exchange} {call : Query} {attempt : Attempt call.Reply} :
    Heard (told ++ later) call attempt ↔ Heard told call attempt ∨ Heard later call attempt := by
  simp only [Heard, List.mem_append, exists_or]

theorem answered_append {told later : List Exchange} {request : Request}
    {answer : Except StoreError request.Answer} :
    Answered (told ++ later) request answer ↔
      Answered told request answer ∨ Answered later request answer := by
  simp only [Answered, List.mem_append]

/-- A request is answered as soon as it is on record. -/
theorem answered_last (told : List Exchange) (request : Request)
    (answer : Except StoreError request.Answer) :
    Answered (told ++ [⟨.store request, answer⟩]) request answer :=
  List.mem_append_right told (List.mem_singleton.2 rfl)

theorem not_heard_nil {call : Query} {attempt : Attempt call.Reply} : ¬Heard [] call attempt := by
  rintro ⟨_, member⟩
  cases member

theorem not_answered_nil {request : Request} {answer : Except StoreError request.Answer} :
    ¬Answered [] request answer := by
  intro member
  cases member

theorem not_answered_quiet {later : List Exchange} (quiet : ∀ x ∈ later, x.Quiet)
    {request : Request} {answer : Except StoreError request.Answer} :
    ¬Answered later request answer := fun member => quiet _ member request rfl

/-- What an effect reaches is one subject in the registry, or its entry and versions in the
catalog. -/
def Effect.About (subject : String) : Effect → Prop
  | .query _ call => call.subject? = some subject
  | .store request => request.fills? = some subject
  | .pause _ => True
  | .report _ => True

namespace Program

variable {α β : Type} {around : Surroundings}

/-- How far a program has come since it was begun in a catalog: what it was told, what is left of
it and how the catalog looks now, with nobody else at work. -/
inductive Course (around : Surroundings) (program : Program α) (start : Catalog) :
    List Exchange → Program α → Catalog → Prop
  | start : Course around program start [] program start
  | next {told effect rest catalog answer catalog'} :
      Course around program start told (.perform effect rest) catalog →
      around.Gives told catalog effect answer catalog' →
      Course around program start (told ++ [⟨effect, answer⟩]) (rest answer) catalog'

/-- Whatever the answers are, `inv` holds after each of them and `post` at the end. -/
def Keeps (around : Surroundings) (inv : List Exchange → Catalog → Prop)
    (post : α → List Exchange → Catalog → Prop) : Program α → List Exchange → Catalog → Prop
  | .done value, told, catalog => post value told catalog
  | .perform effect rest, told, catalog => ∀ answer catalog',
      around.Gives told catalog effect answer catalog' →
      inv (told ++ [⟨effect, answer⟩]) catalog' ∧
        (rest answer).Keeps around inv post (told ++ [⟨effect, answer⟩]) catalog'

variable {inv : List Exchange → Catalog → Prop} {post post' : α → List Exchange → Catalog → Prop}

theorem keeps_bind {program : Program α} {f : α → Program β}
    {post : β → List Exchange → Catalog → Prop} {told : List Exchange} {catalog : Catalog} :
    (program >>= f).Keeps around inv post told catalog ↔
      program.Keeps around inv (fun value => (f value).Keeps around inv post) told catalog := by
  induction program generalizing told catalog with
  | done value => exact Iff.rfl
  | perform effect rest ih =>
    constructor
    · intro keeps answer catalog' gives
      obtain ⟨holds, further⟩ := keeps answer catalog' gives
      exact ⟨holds, (ih answer).1 further⟩
    · intro keeps answer catalog' gives
      obtain ⟨holds, further⟩ := keeps answer catalog' gives
      exact ⟨holds, (ih answer).2 further⟩

theorem Keeps.mono {program : Program α} {told : List Exchange} {catalog : Catalog}
    (keeps : program.Keeps around inv post told catalog)
    (weaker : ∀ value told catalog, post value told catalog → post' value told catalog) :
    program.Keeps around inv post' told catalog := by
  induction program generalizing told catalog with
  | done value => exact weaker _ _ _ keeps
  | perform effect rest ih =>
    intro answer catalog' gives
    obtain ⟨holds, further⟩ := keeps answer catalog' gives
    exact ⟨holds, ih answer further⟩

/-- A walk through the program covers every state that any course of it comes to. -/
theorem Course.kept {program rest : Program α} {start catalog : Catalog} {told : List Exchange}
    (course : Course around program start told rest catalog)
    (first : inv [] start) (keeps : program.Keeps around inv post [] start) :
    inv told catalog ∧ rest.Keeps around inv post told catalog := by
  induction course with
  | start => exact ⟨first, keeps⟩
  | next previous gives ih => exact ih.2 _ _ gives

theorem Course.kept_done {program : Program α} {start catalog : Catalog} {told : List Exchange}
    {value : α} (course : Course around program start told (.done value) catalog)
    (first : inv [] start) (keeps : program.Keeps around inv post [] start) :
    post value told catalog :=
  (course.kept first keeps).2

/-- Nothing reaches a program but what its surroundings allow. -/
theorem Course.heard_allowed {program rest : Program α} {start catalog : Catalog}
    {told : List Exchange} (course : Course around program start told rest catalog) {call : Query}
    {attempt : Attempt call.Reply} (heard : Heard told call attempt) :
    ∃ earlier, around.replies earlier call attempt := by
  induction course with
  | start => exact absurd heard not_heard_nil
  | @next told effect rest catalog answer catalog' previous gives ih =>
    rcases heard_append.1 heard with old | ⟨limit, new⟩
    · exact ih old
    · cases List.mem_singleton.1 new
      cases gives with
      | replied reply => exact ⟨told, reply⟩

theorem Course.refusal_allowed {program rest : Program α} {start catalog : Catalog}
    {told : List Exchange} (course : Course around program start told rest catalog)
    {request : Request} {error : StoreError} (answered : Answered told request (.error error)) :
    ∃ earlier, around.refuses earlier request error := by
  induction course with
  | start => exact absurd answered not_answered_nil
  | @next told effect rest catalog answer catalog' previous gives ih =>
    rcases answered_append.1 answered with old | new
    · exact ih old
    · cases List.mem_singleton.1 new
      cases gives with
      | refused refusal => exact ⟨told, refusal⟩

/-- Whatever the program asks for is allowed. -/
def Only (allowed : Effect → Prop) : Program α → Prop
  | .done _ => True
  | .perform effect rest => allowed effect ∧ ∀ answer, (rest answer).Only allowed

/-- Whatever the program reaches is about one subject. -/
abbrev About (subject : String) (program : Program α) : Prop :=
  program.Only (Effect.About subject)

variable {allowed wider : Effect → Prop}

theorem only_bind {program : Program α} {f : α → Program β} (first : program.Only allowed)
    (second : ∀ value, (f value).Only allowed) : (program >>= f).Only allowed := by
  induction program with
  | done value => exact second value
  | perform effect rest ih => exact ⟨first.1, fun answer => ih answer (first.2 answer)⟩

theorem Only.mono {program : Program α} (only : program.Only allowed)
    (within : ∀ effect, allowed effect → wider effect) : program.Only wider := by
  induction program with
  | done value => trivial
  | perform effect rest ih => exact ⟨within _ only.1, fun answer => ih answer (only.2 answer)⟩

theorem Course.only {program rest : Program α} {start catalog : Catalog} {told : List Exchange}
    (course : Course around program start told rest catalog) (only : program.Only allowed) :
    rest.Only allowed := by
  induction course with
  | start => exact only
  | next previous gives ih => exact ih.2 _

end Program

/-- Whatever the answers are, every effect is allowed when it is asked for, and `post` holds at the
end. -/
def Program.Asks {α : Type} (allowed : List Exchange → Effect → Prop)
    (post : α → List Exchange → Prop) : Program α → List Exchange → Prop
  | .done value, told => post value told
  | .perform effect rest, told => allowed told effect ∧ ∀ answer,
    (rest answer).Asks allowed post (told ++ [⟨effect, answer⟩])

namespace Program

variable {α β : Type} {allowed : List Exchange → Effect → Prop} {told : List Exchange}

theorem asks_bind {program : Program α} {f : α → Program β} {post : β → List Exchange → Prop} :
    (program >>= f).Asks allowed post told ↔
      program.Asks allowed (fun value told => (f value).Asks allowed post told) told := by
  induction program generalizing told with
  | done value => exact Iff.rfl
  | perform effect rest ih => exact and_congr_right fun _ => forall_congr' fun answer => ih answer

theorem Asks.mono {program : Program α} {post post' : α → List Exchange → Prop}
    (asks : program.Asks allowed post told)
    (weaker : ∀ value told, post value told → post' value told) :
    program.Asks allowed post' told := by
  induction program generalizing told with
  | done value => exact weaker _ _ asks
  | perform effect rest ih => exact ⟨asks.1, fun answer => ih answer (asks.2 answer)⟩

theorem Asks.widen {wider : List Exchange → Effect → Prop} {program : Program α}
    {post : α → List Exchange → Prop} (asks : program.Asks allowed post told)
    (within : ∀ told effect, allowed told effect → wider told effect) :
    program.Asks wider post told := by
  induction program generalizing told with
  | done value => exact asks
  | perform effect rest ih => exact ⟨within _ _ asks.1, fun answer => ih answer (asks.2 answer)⟩

/-- Nothing that was told is forgotten on the way. -/
theorem Asks.growing {program : Program α} {post : α → List Exchange → Prop}
    (asks : program.Asks allowed post told) :
    program.Asks allowed (fun value told' => post value told' ∧ told ⊆ told') told := by
  induction program generalizing told with
  | done value => exact ⟨asks, List.Subset.refl told⟩
  | perform effect rest ih =>
    refine ⟨asks.1, fun answer => (ih answer (asks.2 answer)).mono ?_⟩
    exact fun value told' ⟨holds, within⟩ =>
      ⟨holds, List.Subset.trans (List.subset_append_left told _) within⟩

theorem Course.asks {around : Surroundings} {start catalog : Catalog} {program rest : Program α}
    {post : α → List Exchange → Prop} (course : Course around program start told rest catalog)
    (asks : program.Asks allowed post []) : rest.Asks allowed post told := by
  induction course with
  | start => exact asks
  | next previous gives ih => exact ih.2 _

theorem Only.asks {only : Effect → Prop} {program : Program α} (asks : program.Only only)
    (within : ∀ told effect, only effect → allowed told effect) :
    program.Asks allowed (fun _ _ => True) told := by
  induction program generalizing told with
  | done value => trivial
  | perform effect rest ih => exact ⟨within _ _ asks.1, fun answer => ih answer (asks.2 answer)⟩

/-- What a program is told comes behind what it was told before, and is about the effects that it
asks for. -/
theorem Asks.grown {only : Effect → Prop} {program : Program α} {post : α → List Exchange → Prop}
    (asks : program.Asks allowed post told) (within : program.Only only) :
    program.Asks (fun _ => only) (fun value told' => post value told' ∧
      ∃ later, told' = told ++ later ∧ ∀ x ∈ later, only x.effect) told := by
  induction program generalizing told with
  | done value => exact ⟨asks, [], (List.append_nil told).symm, List.forall_mem_nil _⟩
  | perform effect rest ih =>
    refine ⟨within.1, fun answer => (ih answer (asks.2 answer) (within.2 answer)).mono ?_⟩
    rintro value told' ⟨holds, later, rfl, each⟩
    refine ⟨holds, ⟨effect, answer⟩ :: later, List.append_assoc .., ?_⟩
    exact List.forall_mem_cons.2 ⟨within.1, each⟩

end Program

/-- An answer to a program about one subject does nothing to the shelves of others, and comes out
the same in every catalog with the same shelf of that subject. -/
theorem Surroundings.Gives.local {around : Surroundings} {told : List Exchange}
    {a a' b : Catalog} {effect : Effect} {answer : effect.Answer} {subject : String}
    (gives : around.Gives told a effect answer a')
    (about : effect.About subject)
    (same : a.shelf subject = b.shelf subject) :
    (∀ other, other ≠ subject → a'.shelf other = a.shelf other) ∧
      ∃ b', around.Gives told b effect answer b' ∧ a'.shelf subject = b'.shelf subject := by
  cases gives with
  | replied reply => exact ⟨fun _ _ => rfl, b, .replied reply, same⟩
  | refused refusal => exact ⟨fun _ _ => rfl, b, .refused refusal, same⟩
  | paused => exact ⟨fun _ _ => rfl, b, .paused, same⟩
  | reported => exact ⟨fun _ _ => rfl, b, .reported, same⟩
  | @accepted request accepted =>
    have own := Request.subject?_of_fills? about
    obtain ⟨equal, after⟩ := Catalog.perform_local own same
    refine ⟨fun other different => Catalog.shelf_perform_of_ne own different,
      (b.perform request).2, ?_, after⟩
    rw [equal]
    exact .accepted accepted

/-- A program about one subject goes the same way in every catalog with the same shelf of that
subject, and leaves the shelves of others alone. -/
theorem Program.Course.local {α : Type} {around : Surroundings} {program rest : Program α}
    {a a' b : Catalog} {told : List Exchange} {subject : String}
    (course : Course around program a told rest a') (about : program.About subject)
    (same : a.shelf subject = b.shelf subject) :
    (∀ other, other ≠ subject → a'.shelf other = a.shelf other) ∧
      ∃ b', Course around program b told rest b' ∧ a'.shelf subject = b'.shelf subject := by
  induction course with
  | start => exact ⟨fun _ _ => rfl, b, .start, same⟩
  | next previous gives ih =>
    obtain ⟨others, between, course, agrees⟩ := ih
    obtain ⟨othersNow, b', answered, after⟩ := gives.local (previous.only about).1 agrees
    exact ⟨fun other different => (othersNow other different).trans (others other different), b',
      .next course answered, after⟩

end SchemaLedger
