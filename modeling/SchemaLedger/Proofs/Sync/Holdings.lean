import SchemaLedger.Proofs.Sync.History
import SchemaLedger.Proofs.Sync.Steady

namespace SchemaLedger

/-- What a registry holds: the versions of every subject. A subject that is listed has at least one,
versions are numbered from one on, and the latest one is reported under its own number. -/
structure Holdings where
  subjects : Table String (Table UInt32 Registered)
  filled : ∀ subject versions, subjects.find? subject = some versions → versions.entries ≠ []
  positive : ∀ subject versions version registered, subjects.find? subject = some versions →
    versions.find? version = some registered → 1 ≤ version
  numbered : ∀ subject versions version registered, subjects.find? subject = some versions →
    versions.entries.getLast? = some (version, registered) → registered.version = version

/-- The call was not answered, and not for want of what was asked for. -/
def Attempt.IsFault {α : Type} : Attempt α → Prop
  | .answered _ => False
  | .failed (.notFound _) => False
  | .failed _ => True
  | .timedOut => True

namespace Holdings

variable {held : Holdings} {subject : String} {version : UInt32} {registered : Registered}

/-- The conditions on holdings, as a check of their table. -/
def check (subjects : Table String (Table UInt32 Registered)) : Bool :=
  subjects.entries.all fun (_, versions) =>
    versions.entries ≠ [] && versions.entries.all (1 ≤ ·.1) &&
      versions.entries.getLast?.all fun e => e.2.version = e.1

def ofTable (subjects : Table String (Table UInt32 Registered)) (checked : check subjects = true) :
    Holdings where
  subjects := subjects
  filled subject versions found := by
    have sound := List.all_eq_true.1 checked _ (Table.find?_eq_some_iff.1 found)
    simp only [Bool.and_eq_true, decide_eq_true_eq] at sound
    exact sound.1.1
  positive subject versions version registered found stored := by
    have sound := List.all_eq_true.1 checked _ (Table.find?_eq_some_iff.1 found)
    simp only [Bool.and_eq_true, List.all_eq_true, decide_eq_true_eq] at sound
    exact sound.1.2 _ (Table.find?_eq_some_iff.1 stored)
  numbered subject versions version registered found last := by
    have sound := List.all_eq_true.1 checked _ (Table.find?_eq_some_iff.1 found)
    simp only [last, Bool.and_eq_true, Option.all_some, decide_eq_true_eq] at sound
    exact sound.2

/-- A registry of no subjects. -/
def blank : Holdings := ⟨.empty, nofun, nofun, nofun⟩

def Lists (held : Holdings) (subject : String) : Prop := (held.subjects.find? subject).isSome

def find? (held : Holdings) (subject : String) (version : UInt32) : Option Registered :=
  (held.subjects.find? subject).bind (·.find? version)

def latest? (held : Holdings) (subject : String) : Option (UInt32 × Registered) :=
  (held.subjects.find? subject).bind (·.entries.getLast?)

/-- The row that a catalog is to keep of a version. -/
def row? (held : Holdings) (subject : String) (version : UInt32) : Option Snapshot :=
  (held.find? subject version).bind (Snapshot.ofRegistered? subject version)

/-- The ends of a call to a registry that has no faults. Settings may be anything. -/
def Answers (held : Holdings) : (call : Query) → Attempt call.Reply → Prop
  | .subjects, attempt => ∃ subjects, attempt = .answered subjects ∧
    ∀ subject, subject ∈ subjects ↔ held.Lists subject
  | .latest subject, attempt => match held.latest? subject with
    | some (_, registered) => attempt = .answered registered
    | .none => ∃ detail, attempt = .failed (.notFound detail)
  | .version subject number, attempt => match held.find? subject number with
    | some registered => attempt = .answered registered
    | .none => ∃ detail, attempt = .failed (.notFound detail)
  | .config _, _ => True
  | .mode _, _ => True

theorem lists_of_find? (found : held.find? subject version = some registered) :
    held.Lists subject := by
  obtain ⟨versions, listed, -⟩ := Option.bind_eq_some_iff.1 found
  exact Option.isSome_iff_exists.2 ⟨versions, listed⟩

theorem positive_of_find? (found : held.find? subject version = some registered) : 1 ≤ version := by
  obtain ⟨versions, listed, found⟩ := Option.bind_eq_some_iff.1 found
  exact held.positive subject versions version registered listed found

theorem latest?_isSome (listed : held.Lists subject) : (held.latest? subject).isSome := by
  obtain ⟨versions, atSubject⟩ := Option.isSome_iff_exists.1 listed
  simp only [latest?, atSubject, Option.bind_some]
  exact List.getLast?_isSome.2 (held.filled subject versions atSubject)

/-- The latest version is held under the number that it reports, and no version lies above it. -/
theorem find?_of_latest? (last : held.latest? subject = some (version, registered)) :
    registered.version = version ∧ held.find? subject version = some registered ∧
      ∀ other, (held.find? subject other).isSome → other ≤ version := by
  obtain ⟨versions, atSubject, last⟩ := Option.bind_eq_some_iff.1 last
  obtain ⟨found, greatest⟩ := Table.find?_of_getLast? last
  have lookUp (number : UInt32) : held.find? subject number = versions.find? number := by
    rw [find?, atSubject, Option.bind_some]
  refine ⟨held.numbered subject versions version registered atSubject last, ?_, ?_⟩
  · rw [lookUp, found]
  · intro other present
    rw [lookUp] at present
    rcases greatest other present with rfl | below
    · exact UInt32.le_refl _
    · exact UInt32.le_of_lt below

/-- Whatever was heard is so, or is a fault. -/
def Vouches (held : Holdings) (told : List Exchange) : Prop :=
  ∀ call attempt, Heard told call attempt → held.Answers call attempt ∨ attempt.IsFault

variable {told : List Exchange}

theorem Vouches.find? (vouches : held.Vouches told)
    (obtained : Obtained subject told version registered) :
    held.find? subject version = some registered := by
  rcases obtained with asked | ⟨asLatest, rfl⟩
  · rcases vouches _ _ asked with truth | fault
    · rw [Answers] at truth
      split at truth
      · rename_i found
        cases truth
        exact found
      · obtain ⟨_, same⟩ := truth
        cases same
    · exact fault.elim
  · rcases vouches _ _ asLatest with truth | fault
    · rw [Answers] at truth
      split at truth
      · rename_i last
        cases truth
        obtain ⟨number, found, -⟩ := find?_of_latest? last
        rw [number, found]
      · obtain ⟨_, same⟩ := truth
        cases same
    · exact fault.elim

theorem Vouches.latest? (vouches : held.Vouches told)
    (heard : Heard told (.latest subject) (.answered registered)) :
    held.latest? subject = some (registered.version, registered) := by
  rcases vouches _ _ heard with truth | fault
  · rw [Answers] at truth
    split at truth
    · rename_i last
      cases truth
      rw [(find?_of_latest? last).1, last]
    · obtain ⟨_, same⟩ := truth
      cases same
  · exact fault.elim

theorem Vouches.absent (vouches : held.Vouches told) {detail : String}
    (heard : Heard told (.version subject version) (.failed (.notFound detail))) :
    held.find? subject version = .none := by
  rcases vouches _ _ heard with truth | fault
  · rw [Answers] at truth
    split at truth
    · cases truth
    · assumption
  · exact fault.elim

theorem Vouches.unlisted (vouches : held.Vouches told) {detail : String}
    (heard : Heard told (.latest subject) (.failed (.notFound detail))) : ¬held.Lists subject := by
  intro listed
  obtain ⟨last, atLast⟩ := Option.isSome_iff_exists.1 (latest?_isSome listed)
  rcases vouches _ _ heard with truth | fault
  · rw [Answers, atLast] at truth
    cases truth
  · exact fault.elim

theorem lists_of_row? {row : Snapshot} (found : held.row? subject version = some row) :
    held.Lists subject := by
  obtain ⟨registered, atVersion, -⟩ := Option.bind_eq_some_iff.1 found
  exact lists_of_find? atVersion

theorem positive_of_row? {row : Snapshot} (found : held.row? subject version = some row) :
    1 ≤ version.toNat := by
  obtain ⟨registered, atVersion, -⟩ := Option.bind_eq_some_iff.1 found
  exact UInt32.le_iff_toNat_le.1 (positive_of_find? atVersion)

theorem row?_le_latest {latest : UInt32} {registered : Registered} {row : Snapshot}
    (last : held.latest? subject = some (latest, registered))
    (found : held.row? subject version = some row) : version ≤ latest := by
  obtain ⟨_, atVersion, -⟩ := Option.bind_eq_some_iff.1 found
  exact (find?_of_latest? last).2.2 version (by rw [atVersion]; rfl)

/-- What became of a version behind a sweep, in terms of what is held: there is nothing to keep, or
the row was refused, or it is kept. -/
theorem Vouches.handled (vouches : held.Vouches told) {old new : Option Snapshot}
    (handled : Handled subject told version old new) :
    (new = old ∧ held.row? subject version = .none) ∨
      ∃ row, held.row? subject version = some row ∧
        ((new = old ∧ ∃ error, Answered told (.put row) (.error error)) ∨
          new = some (old.getD row)) := by
  cases handled with
  | absent heard same => exact .inl ⟨same, by rw [row?, vouches.absent heard]; rfl⟩
  | bodyless obtained bodyless same =>
    exact .inl ⟨same, by rw [row?, vouches.find? obtained]; exact bodyless⟩
  | @refused registered row error obtained built answered same =>
    exact .inr ⟨row, by rw [row?, vouches.find? obtained]; exact built, .inl ⟨same, error, answered⟩⟩
  | @kept registered row outcome obtained built answered same =>
    exact .inr ⟨row, by rw [row?, vouches.find? obtained]; exact built, .inr same⟩

/-- Nothing goes wrong. -/
def calm (held : Holdings) : Surroundings :=
  ⟨fun _ call attempt => held.Answers call attempt, fun _ _ => True, fun _ _ _ => False⟩

/-- Any call and any request may fail at any time. -/
def stormy (held : Holdings) : Surroundings :=
  ⟨fun _ call attempt => held.Answers call attempt ∨ attempt.IsFault, fun _ _ => True,
    fun _ _ _ => True⟩

theorem vouches_of_course {α : Type} {around : Surroundings} {program rest : Program α}
    {start catalog : Catalog}
    (truthful : ∀ earlier call attempt, around.replies earlier call attempt →
      held.Answers call attempt ∨ attempt.IsFault)
    (course : Program.Course around program start told rest catalog) : held.Vouches told := by
  intro call attempt heard
  obtain ⟨earlier, reply⟩ := course.heard_allowed heard
  exact truthful earlier call attempt reply

theorem calm_truthful (held : Holdings) (earlier : List Exchange) (call : Query)
    (attempt : Attempt call.Reply) (reply : held.calm.replies earlier call attempt) :
    held.Answers call attempt ∨ attempt.IsFault := .inl reply

/-- Where nothing goes wrong, the work on a listed subject reaches its latest version or finds the
mark there already. -/
theorem concluded_calm {policy : RetryPolicy} {start catalog : Catalog} {worked : Worked}
    (listed : held.Lists subject)
    (course : Program.Course held.calm (Program.catchUp policy subject) start told (.done worked)
      catalog) :
    ∃ latest, held.latest? subject = some (latest.version, latest) ∧
      (Swept subject start latest (latest.version.toNat + 1) told catalog ∨
        Unmoved subject start told catalog ∧
          ∃ mark, start.mark subject = some mark ∧ latest.version ≤ mark) := by
  have vouches : held.Vouches told := vouches_of_course held.calm_truthful course
  have heardRight {call : Query} {attempt : Attempt call.Reply} (heard : Heard told call attempt) :
      held.Answers call attempt := by
    obtain ⟨earlier, reply⟩ := course.heard_allowed heard
    exact reply
  have concluded := course.concluded
  obtain ⟨outcome, tally⟩ := worked
  match outcome with
  | .synced _ _ =>
    obtain ⟨latest, swept⟩ := concluded
    exact ⟨latest, vouches.latest? swept.heard, .inl swept⟩
  | .skipped .upToDate =>
    obtain ⟨unmoved, latest, mark, only, atMark, current⟩ := concluded
    exact ⟨latest, vouches.latest? ((only latest).2 rfl), .inr ⟨unmoved, mark, atMark, current⟩⟩
  | .interrupted _ _ missing =>
    obtain ⟨latest, swept, below, attempt, heard, unavailable⟩ := concluded
    have answers := heardRight heard
    rw [Answers] at answers
    split at answers
    · cases answers
      cases unavailable
    · obtain ⟨detail, rfl⟩ := answers
      cases unavailable
  | .skipped .notInRegistry =>
    obtain ⟨-, -, detail, heard⟩ := concluded
    exact absurd listed (vouches.unlisted heard)
  | .failed (.markUnread error) =>
    obtain ⟨earlier, refused⟩ := course.refusal_allowed concluded.2.2
    exact refused.elim
  | .failed .latestUnavailable =>
    obtain ⟨-, unanswered, attempt, heard⟩ := concluded
    obtain ⟨last, atLast⟩ := Option.isSome_iff_exists.1 (latest?_isSome listed)
    have answers := heardRight heard
    rw [Answers, atLast] at answers
    cases answers
    exact absurd heard (unanswered _)

/-- Where nothing goes wrong, the rows behind a sweep are those that are held. -/
theorem handled_calm {policy : RetryPolicy} {start catalog : Catalog} {rest : Program Worked}
    {old new : Option Snapshot}
    (course : Program.Course held.calm (Program.catchUp policy subject) start told rest catalog)
    (handled : Handled subject told version old new) (fresh : old = .none) :
    new = held.row? subject version := by
  subst fresh
  rcases (vouches_of_course held.calm_truthful course).handled handled with
    ⟨same, absent⟩ | ⟨row, built, ⟨-, error, answered⟩ | stored⟩
  · rw [same, absent]
  · obtain ⟨earlier, refused⟩ := course.refusal_allowed answered
    exact refused.elim
  · rw [stored, built]
    rfl

/-- The registry itself, with no settings to tell of. -/
def replies (held : Holdings) : Replies
  | .subjects => .answered held.subjects.keys
  | .latest subject => match held.latest? subject with
    | some (_, registered) => .answered registered
    | .none => .failed (.notFound subject)
  | .version subject number => match held.find? subject number with
    | some registered => .answered registered
    | .none => .failed (.notFound subject)
  | .config _ => .answered .none
  | .mode _ => .failed (.unsupported "mode")

theorem answers_replies (held : Holdings) (call : Query) : held.Answers call (held.replies call) := by
  cases call with
  | subjects => exact ⟨_, rfl, fun subject => Table.mem_keys_iff⟩
  | latest subject =>
    simp only [Answers, replies]
    cases held.latest? subject with
    | none => exact ⟨subject, rfl⟩
    | some => rfl
  | version subject number =>
    simp only [Answers, replies]
    cases held.find? subject number with
    | none => exact ⟨subject, rfl⟩
    | some => rfl
  | config | mode => trivial

/-- A pass over the registry, run to its end. -/
theorem reach_replies (held : Holdings) (policy : RunPolicy) (catalog : Catalog) : ∃ pass,
    Pass.Reach held.calm policy catalog pass (steadyPass held.replies .none policy catalog) ∧
      pass.Finished := by
  refine reach_steadyPass (steadyHost_within ?_ ?_ ?_) policy catalog
  · exact fun _ call => held.answers_replies call
  · exact fun _ _ _ => trivial
  · exact fun _ _ _ refused => absurd refused Refusals.none_ne

end Holdings

end SchemaLedger
