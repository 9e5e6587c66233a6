import SchemaLedger.Proofs.Durable.Rows
import SchemaLedger.Proofs.Sync.Exchange

namespace SchemaLedger

namespace Backend

/-- The answers to an effect, and the catalog after each. A database may fail at any statement of a
request, and any request may be turned down before it is begun. -/
inductive Gives : Backend → (effect : Effect) → effect.Answer → Backend → Prop
  | replied {backend limit call} (attempt : Attempt call.Reply) :
      Gives backend (.query limit call) attempt backend
  | kept {backend} (request : Request) :
      Gives backend (.store request) (Backend.keeper request backend).1
        (Backend.keeper request backend).2
  | faulted {db} (broken : Nat → Bool) (request : Request) :
      Gives (.durable db) (.store request)
        ((db.perform broken request).1.mapError DurableError.toStoreError)
        (.durable (db.perform broken request).2)
  | refused {backend} (request : Request) (error : StoreError) :
      Gives backend (.store request) (.error error) backend
  | paused {backend span} : Gives backend (.pause span) () backend
  | reported {backend event} : Gives backend (.report event) () backend

variable {backend after : Backend} {catalog : Catalog}

theorem Reached.gives {effect : Effect} {answer : effect.Answer} (reached : backend.Reached)
    (gives : backend.Gives effect answer after) : after.Reached := by
  cases gives with
  | kept request => exact reached.kept request
  | faulted broken request => exact reached.faulted broken request
  | replied | refused | paused | reported => exact reached

/-- Only a version that cannot be read fails of itself, and to read it changes nothing. -/
theorem Shows.keeper_cases (shows : backend.Shows catalog) (request : Request) :
    (∃ error, Backend.keeper request backend = (.error error, backend)) ∨
      ∃ value after, Backend.keeper request backend = (.ok value, after) := by
  by_cases reads : ∃ subject version, request = .snapshot subject version
  · obtain ⟨subject, version, rfl⟩ := reads
    have unchanged : (Backend.keeper (.snapshot subject version) backend).2 = backend := by
      cases backend <;> rfl
    cases answered : (Backend.keeper (.snapshot subject version) backend).1 with
    | error error => exact .inl ⟨error, Prod.ext answered unchanged⟩
    | ok value => exact .inr ⟨value, backend, Prod.ext answered unchanged⟩
  · have answered := (shows.keep request).2 fun subject version same =>
      reads ⟨subject, version, same⟩
    exact .inr ⟨_, _, Prod.ext answered rfl⟩

/-- A request fails without a trace, or it is carried out as a whole. -/
theorem Shows.given {request : Request} {answer : Except StoreError request.Answer}
    (shows : backend.Shows catalog) (gives : backend.Gives (.store request) answer after) :
    (∃ error, answer = .error error ∧ after = backend) ∨
      ∃ value, answer = .ok value ∧ Backend.keeper request backend = (.ok value, after) := by
  have carried : (∃ error, (Backend.keeper request backend).1 = .error error ∧
      (Backend.keeper request backend).2 = backend) ∨
        ∃ value, (Backend.keeper request backend).1 = .ok value ∧
          Backend.keeper request backend = (.ok value, (Backend.keeper request backend).2) := by
    rcases shows.keeper_cases request with ⟨error, failed⟩ | ⟨value, after, done⟩
    · rw [failed]
      exact .inl ⟨error, rfl, rfl⟩
    · rw [done]
      exact .inr ⟨value, rfl, rfl⟩
  cases gives with
  | kept => exact carried
  | refused _ error => exact .inl ⟨error, rfl, rfl⟩
  | @faulted db broken _ =>
    rcases db.perform_broken broken request with ⟨error, failed⟩ | unbroken
    · rw [failed]
      exact .inl ⟨_, rfl, rfl⟩
    · rw [unbroken]
      exact carried

/-- To read changes nothing. -/
theorem Shows.unchanged {request : Request} {answer : Except StoreError request.Answer}
    (shows : backend.Shows catalog) (gives : backend.Gives (.store request) answer after)
    (reads : request.reads = true) : after = backend := by
  rcases shows.given gives with ⟨error, -, same⟩ | ⟨value, -, carried⟩
  · exact same
  · have kept : (Backend.keeper request backend).2 = backend := by
      cases request with
      | put | update | remove | attach | annotate => cases reads
      | count names => rw [shows.keeper_count]
      | mark | known | entry | entries | snapshot | versions => cases backend <;> rfl
    rw [carried] at kept
    exact kept

/-- How far a program has come since it was begun: what it was told, what is left of it, and what
has become of the catalog, with nobody else at work. -/
inductive Course {α : Type} (program : Program α) (start : Backend) :
    List Exchange → Program α → Backend → Prop
  | start : Course program start [] program start
  | next {told effect rest backend answer after} :
      Course program start told (.perform effect rest) backend →
      Gives backend effect answer after →
      Course program start (told ++ [⟨effect, answer⟩]) (rest answer) after

/-- Whatever the answers are, `inv` holds after each of them and `post` at the end. -/
def Keeps {α : Type} (inv : List Exchange → Backend → Prop)
    (post : α → List Exchange → Backend → Prop) : Program α → List Exchange → Backend → Prop
  | .done value, told, backend => post value told backend
  | .perform effect rest, told, backend => ∀ answer after, backend.Gives effect answer after →
      inv (told ++ [⟨effect, answer⟩]) after ∧
        Keeps inv post (rest answer) (told ++ [⟨effect, answer⟩]) after

variable {α β : Type} {inv : List Exchange → Backend → Prop} {told : List Exchange}

theorem keeps_bind {program : Program α} {f : α → Program β}
    {post : β → List Exchange → Backend → Prop} :
    Keeps inv post (program >>= f) told backend ↔
      Keeps inv (fun value => Keeps inv post (f value)) program told backend := by
  induction program generalizing told backend with
  | done value => exact Iff.rfl
  | perform effect rest ih =>
    constructor
    · intro keeps answer after gives
      obtain ⟨holds, further⟩ := keeps answer after gives
      exact ⟨holds, (ih answer).1 further⟩
    · intro keeps answer after gives
      obtain ⟨holds, further⟩ := keeps answer after gives
      exact ⟨holds, (ih answer).2 further⟩

theorem keeps_report {event : Event} {post : Unit → List Exchange → Backend → Prop}
    (holds : inv (told ++ [⟨.report event, ()⟩]) backend)
    (further : post () (told ++ [⟨.report event, ()⟩]) backend) :
    Keeps inv post (Program.report event) told backend := by
  intro answer after gives
  cases gives
  exact ⟨holds, further⟩

theorem keeps_store {request : Request}
    {post : Except StoreError request.Answer → List Exchange → Backend → Prop}
    (shows : backend.Shows catalog)
    (failed : ∀ error, inv (told ++ [⟨.store request, .error error⟩]) backend ∧
      post (.error error) (told ++ [⟨.store request, .error error⟩]) backend)
    (done : ∀ value after, Backend.keeper request backend = (.ok value, after) →
      inv (told ++ [⟨.store request, .ok value⟩]) after ∧
        post (.ok value) (told ++ [⟨.store request, .ok value⟩]) after) :
    Keeps inv post (Program.store request) told backend := by
  intro answer after gives
  rcases shows.given gives with ⟨error, rfl, rfl⟩ | ⟨value, rfl, carried⟩
  · exact failed error
  · exact done value after carried

/-- A walk through the program covers every moment of its courses. -/
theorem Course.kept {program rest : Program α} {post : α → List Exchange → Backend → Prop}
    {start : Backend} (course : Course program start told rest backend) (first : inv [] start)
    (keeps : Keeps inv post program [] start) :
    inv told backend ∧ Keeps inv post rest told backend := by
  induction course with
  | start => exact ⟨first, keeps⟩
  | next previous gives ih => exact ih.2 _ _ gives

theorem Course.reached {program rest : Program α} {start : Backend} (reached : start.Reached)
    (course : Course program start told rest backend) : backend.Reached := by
  induction course with
  | start => exact reached
  | next previous gives ih => exact ih.gives gives

theorem Gives.shown {told : List Exchange} {effect : Effect} {answer : effect.Answer}
    (gives : backend.Gives effect answer after) (shows : backend.Shows catalog)
    (plain : effect.Plain) : ∃ catalog', after.Shows catalog' ∧
      Surroundings.wild.Gives told catalog effect answer catalog' := by
  cases effect with
  | store request =>
    rcases shows.given gives with ⟨error, rfl, rfl⟩ | ⟨value, rfl, carried⟩
    · exact ⟨catalog, shows, .refused trivial⟩
    · obtain ⟨kept, answered⟩ := shows.keep request
      rw [carried] at kept answered
      have same := answered fun subject version isRead => plain subject version (by rw [isRead])
      obtain rfl := Except.ok.inj same
      exact ⟨_, kept, .accepted trivial⟩
  | query limit call =>
    cases gives
    exact ⟨catalog, shows, .replied trivial⟩
  | pause span =>
    cases gives
    exact ⟨catalog, shows, .paused⟩
  | report event =>
    cases gives
    exact ⟨catalog, shows, .reported⟩

/-- A program goes on a backend as it goes on the catalog that this shows. -/
theorem Course.shown {program rest : Program α} {start : Backend}
    (course : Course program start told rest backend) (shows : start.Shows catalog)
    (plain : program.Only Effect.Plain) : ∃ catalog', backend.Shows catalog' ∧
      Program.Course .wild program catalog told rest catalog' := by
  induction course with
  | start => exact ⟨catalog, shows, .start⟩
  | next previous gives ih =>
    obtain ⟨between, showsBetween, earlier⟩ := ih
    obtain ⟨catalog', showsAfter, given⟩ := gives.shown showsBetween (earlier.only plain).1
    exact ⟨catalog', showsAfter, earlier.next given⟩

/-- A program that only reads leaves the backend as it is. -/
theorem Course.unchanged {program rest : Program α} {start : Backend} (reached : start.Reached)
    (course : Course program start told rest backend) (reads : ∀ x ∈ told, x.Reads) :
    backend = start := by
  induction course with
  | start => rfl
  | @next told effect rest backend answer after previous gives ih =>
    obtain ⟨before, now⟩ := List.forall_mem_append.1 reads
    obtain rfl := ih before
    obtain ⟨catalog, shows⟩ := reached.shows
    cases effect with
    | store request =>
      exact shows.unchanged gives (List.forall_mem_singleton.1 now request rfl)
    | query | pause | report =>
      cases gives
      rfl

/-- A program that is carried out with nothing failing runs one of its courses. -/
theorem Course.run {program rest : Program α} {start : Backend}
    (ask : (query : Query) → Attempt query.Reply) (now : Nat)
    (course : Course program start told rest backend) : ∃ told',
      Course program start told' (.done (rest.run (Backend.host ask) now backend).1)
        (rest.run (Backend.host ask) now backend).2.2 := by
  induction rest generalizing told now backend with
  | done value => exact ⟨told, course⟩
  | perform effect next ih =>
    cases effect with
    | query limit call => exact ih _ _ (course.next (.replied (ask call)))
    | store request => exact ih _ _ (course.next (.kept request))
    | pause span => exact ih _ _ (course.next .paused)
    | report event => exact ih _ _ (course.next .reported)

end Backend

end SchemaLedger
