import SchemaLedger.Proofs.Sync.History
import SchemaLedger.Proofs.Sync.Steady

namespace SchemaLedger

/-- The registry showed that it has no schema text for a version: it denied the version, or gave it
without one. -/
def Textless (subject : String) (told : List Exchange) (version : UInt32) : Prop :=
  (∃ detail, Heard told (.version subject version) (.failed (.notFound detail))) ∨
    ∃ registered, Obtained subject told version registered ∧
      (registered.schema.text = none ∨ registered.schema.text = some "")

/-- Work on a subject that found the mark below a version, learned that there is nothing to keep of
it and wrote a higher one. -/
structure PassedOver (subject : String) (told : List Exchange) (version : UInt32) : Prop where
  below : ∃ mark, Answered told (.mark subject) (.ok mark) ∧ ∀ number, mark = some number →
    number < version
  textless : Textless subject told version
  above : ∃ row outcome, Answered told (.put row) (.ok outcome) ∧ row.subject = subject ∧
    version < row.version

/-- A version was passed over in one of the passes, and the subject was not removed in a later
one. -/
def PassedIn (passes : List Pass) (subject : String) (version : UInt32) : Prop :=
  ∃ earlier pass later task, passes = earlier ++ pass :: later ∧ task ∈ pass.tasks ∧
    task.subject = subject ∧ PassedOver subject task.told version ∧
    ∀ other ∈ later, ¬Removed subject other.told

theorem PassedIn.append {passes : List Pass} {subject : String} {version : UInt32} {pass : Pass}
    (passed : PassedIn passes subject version) (standing : ¬Removed subject pass.told) :
    PassedIn (passes ++ [pass]) subject version := by
  obtain ⟨earlier, old, later, task, rfl, member, own, skipped, kept⟩ := passed
  refine ⟨earlier, old, later ++ [pass], task, by simp, member, own, skipped, ?_⟩
  intro other inLater
  rcases List.mem_append.1 inLater with before | last
  · exact kept other before
  · cases List.mem_singleton.1 last
    exact standing

theorem Snapshot.ofRegistered?_eq_none {subject : String} {version : UInt32}
    {registered : Registered} :
    Snapshot.ofRegistered? subject version registered = none ↔
      registered.schema.text = none ∨ registered.schema.text = some "" := by
  cases text : registered.schema.text with
  | none => simp [Snapshot.ofRegistered?, text]
  | some body => by_cases empty : body = "" <;> simp [Snapshot.ofRegistered?, text, empty]

section Work

variable {around : Surroundings} {policy : RetryPolicy} {subject : String} {start catalog : Catalog}
  {told : List Exchange} {latest : Registered} {next : Nat}

/-- Behind a sweep without refused rows, a version up to the mark is kept or was passed over. -/
theorem Swept.accounted (swept : Swept subject start latest next told catalog)
    (written : ∀ row error, ¬Answered told (.put row) (.error error)) (sound : catalog.Sound)
    {mark version : UInt32} (atMark : catalog.mark subject = some mark) (positive : 1 ≤ version)
    (within : version ≤ mark) (above : ∀ old, start.mark subject = some old → old < version) :
    (catalog.row? subject version).isSome ∨ PassedOver subject told version := by
  rcases UInt32.lt_or_eq_of_le within with lower | same
  · have behind := swept.mark_lt_next atMark
    have low := swept.lowest_le version (UInt32.le_iff_toNat_le.1 positive)
      fun old atOld => UInt32.lt_iff_toNat_lt.1 (above old atOld)
    have high : version.toNat < next := Nat.lt_trans (UInt32.lt_iff_toNat_lt.1 lower) behind
    -- The mark has moved, since it lies above the version and the old one below.
    obtain ⟨row, outcome, answered, moved⟩ : ∃ row outcome,
        Answered told (.put row) (.ok outcome) ∧ catalog.mark subject = some row.version := by
      rcases swept.mark with unchanged | moved
      · have old := above mark (unchanged.symm.trans atMark)
        exact absurd (UInt32.lt_trans old lower) (UInt32.lt_irrefl _)
      · exact moved
    have passed (textless : Textless subject told version) : PassedOver subject told version := by
      refine ⟨⟨_, swept.read, above⟩, textless, row, outcome, answered,
        (swept.attempts row _ answered).1, ?_⟩
      cases Option.some.inj (moved.symm.trans atMark)
      exact lower
    cases swept.handled version low high with
    | absent heard => exact .inr (passed (.inl ⟨_, heard⟩))
    | bodyless obtained bodyless =>
      exact .inr (passed (.inr ⟨_, obtained, Snapshot.ofRegistered?_eq_none.1 bodyless⟩))
    | refused _ _ answered => exact absurd answered (written _ _)
    | kept _ _ _ stored => exact .inl (by rw [stored]; rfl)
  · obtain ⟨entry, atEntry, isMark⟩ := Option.bind_eq_some_iff.1 atMark
    obtain ⟨number, isNumber, stored⟩ := (sound.shelves subject).reached entry atEntry
    cases Option.some.inj (isMark.symm.trans isNumber)
    exact .inl (same ▸ stored)

/-- Work that stops at a version it could not have leaves the mark below. -/
theorem Concluded.below_gap {versions : Nat} {created : Bool} {gap : UInt32}
    (concluded : Concluded subject start (.interrupted versions created gap) told catalog)
    {mark : UInt32} (atMark : catalog.mark subject = some mark) : mark < gap := by
  obtain ⟨latest, swept, -⟩ := concluded
  exact UInt32.lt_iff_toNat_lt.2 (swept.mark_lt_next atMark)

theorem Concluded.gap_positive {versions : Nat} {created : Bool} {gap : UInt32}
    (concluded : Concluded subject start (.interrupted versions created gap) told catalog) :
    1 ≤ gap.toNat := by
  obtain ⟨latest, swept, below, -⟩ := concluded
  have lowest := swept.lowest
  have first : 1 ≤ (Program.firstAbove (start.mark subject)).toNat := by
    cases atMark : start.mark subject with
    | none => exact Nat.le_refl 1
    | some mark =>
      rw [firstAbove_toNat_of_lt (swept.ahead mark atMark)]
      omega
  rw [lowestSwept] at lowest
  omega

/-- Work keeps the mark below a version as long as it hears of no latest version from there on. -/
theorem Underway.stays_below (underway : Underway subject start told catalog) {bound : UInt32}
    (before : ∀ mark, start.mark subject = some mark → mark < bound)
    (unheard : ∀ registered, Heard told (.latest subject) (.answered registered) →
      registered.version < bound)
    {mark : UInt32} (atMark : catalog.mark subject = some mark) : mark < bound := by
  rcases underway with unmoved | ⟨latest, next, swept, within⟩
  · exact before mark (unmoved.mark.symm.trans atMark)
  · have short := UInt32.lt_iff_toNat_lt.1 (unheard latest swept.heard)
    have behind := swept.mark_lt_next atMark
    exact UInt32.lt_iff_toNat_lt.2 (by omega)

/-- Work that starts below a version and hears of a latest version from there on asks for the
version or is given it as the latest one, unless it stops earlier. -/
theorem Concluded.seeks {outcome : Outcome} (concluded : Concluded subject start outcome told catalog)
    {bound : UInt32} (positive : 1 ≤ bound.toNat)
    (before : ∀ mark, start.mark subject = some mark → mark < bound) {registered : Registered}
    (heard : Heard told (.latest subject) (.answered registered))
    (reaches : bound ≤ registered.version) :
    (∃ attempt, Heard told (.version subject bound) attempt) ∨ registered.version = bound ∨
      ∃ versions created earlier, outcome = .interrupted versions created earlier ∧
        earlier < bound := by
  have sought {latest : Registered} {next : Nat}
      (swept : Swept subject start latest next told catalog) (behind : bound.toNat < next) :
      (∃ attempt, Heard told (.version subject bound) attempt) ∨ registered.version = bound := by
    have low := swept.lowest_le bound positive fun mark atMark =>
      UInt32.lt_iff_toNat_lt.1 (before mark atMark)
    have given {other : Registered} (obtained : Obtained subject told bound other) :
        (∃ attempt, Heard told (.version subject bound) attempt) ∨
          registered.version = bound := by
      rcases obtained with asked | ⟨asLatest, same⟩
      · exact .inl ⟨_, asked⟩
      · rw [swept.only registered heard, ← swept.only other asLatest]
        exact .inr same
    cases swept.handled bound low behind with
    | absent asked => exact .inl ⟨_, asked⟩
    | bodyless obtained => exact given obtained
    | refused obtained => exact given obtained
    | kept obtained => exact given obtained
  have reached := UInt32.le_iff_toNat_le.1 reaches
  match outcome with
  | .synced _ _ =>
    obtain ⟨latest, swept⟩ := concluded
    have behind : bound.toNat < latest.version.toNat + 1 := by
      rw [← swept.only registered heard]
      omega
    exact (sought swept behind).imp_right .inl
  | .interrupted versions created gap =>
    obtain ⟨latest, swept, -, attempt, asked, -⟩ := concluded
    rcases Nat.lt_trichotomy gap.toNat bound.toNat with earlier | here | later
    · exact .inr (.inr ⟨versions, created, gap, rfl, UInt32.lt_iff_toNat_lt.2 earlier⟩)
    · cases UInt32.toNat_inj.1 here
      exact .inl ⟨attempt, asked⟩
    · exact (sought swept later).imp_right .inl
  | .skipped .upToDate =>
    obtain ⟨-, latest, mark, only, atMark, current⟩ := concluded
    have low := UInt32.lt_iff_toNat_lt.1 (before mark atMark)
    have high := UInt32.le_iff_toNat_le.1 current
    rw [(only registered).1 heard] at reached
    omega
  | .skipped .notInRegistry => exact absurd heard (concluded.2.1 registered)
  | .failed (.markUnread _) => exact absurd heard (concluded.2.1 registered)
  | .failed .latestUnavailable => exact absurd heard (concluded.2.1 registered)

end Work

section Passes

variable {around : Surroundings} {policy : RunPolicy} {start catalog : Catalog} {pass : Pass}
  {passes : List Pass}

/-- Every version up to a mark is kept or was passed over in one of the passes. -/
def Accounted (passes : List Pass) (catalog : Catalog) : Prop :=
  ∀ subject mark version, catalog.mark subject = some mark → 1 ≤ version → version ≤ mark →
    (catalog.row? subject version).isSome ∨ PassedIn passes subject version

/-- What was accounted for before a pass stays so, and what the pass moves a mark past is accounted
for by it. -/
theorem Pass.Reach.accounted (reach : Reach around policy start pass catalog)
    (writes : ∀ told request error, around.refuses told request error → request.reads = true)
    (sound : start.Sound) (before : Accounted passes start) :
    Accounted (passes ++ [pass]) catalog := by
  intro subject mark version atMark positive within
  cases reach.treats subject with
  | spared unbegun standing same =>
    rw [Catalog.mark_eq, same] at atMark
    rw [Catalog.row?, same]
    exact (before subject mark version atMark positive within).imp_right (·.append standing)
  | removed unbegun removed same =>
    rw [Catalog.mark_eq, same] at atMark
    cases atMark
  | @worked told rest opened own member standing course beforeShelf afterShelf =>
    have old (number : UInt32) (atStart : start.mark subject = some number)
        (low : version ≤ number) (kept : ∀ row, start.row? subject version = some row →
          catalog.row? subject version = some row) :
        (catalog.row? subject version).isSome ∨ PassedIn (passes ++ [pass]) subject version := by
      rcases before subject number version atStart positive low with stored | passed
      · obtain ⟨row, found⟩ := Option.isSome_iff_exists.1 stored
        exact .inl (by rw [kept row found]; rfl)
      · exact .inr (passed.append standing)
    rcases course.underway.congr beforeShelf afterShelf with unmoved | ⟨latest, next, swept, -⟩
    · refine old mark (unmoved.mark.symm.trans atMark) within fun row found => ?_
      rw [unmoved.rows, found]
    · by_cases above : ∀ number, start.mark subject = some number → number < version
      · have written (row : Snapshot) (error : StoreError) :
            ¬Answered told (.put row) (.error error) := by
          intro answered
          obtain ⟨earlier, refusal⟩ := course.refusal_allowed answered
          cases writes earlier (.put row) error refusal
        refine (swept.accounted written (reach.sound sound) atMark positive within above).imp_right
          fun skipped => ?_
        exact ⟨passes, pass, [], _, rfl, member, rfl, skipped, by simp⟩
      · push Not at above
        obtain ⟨number, atStart, low⟩ := above
        exact old number atStart (UInt32.not_lt.1 low) fun row => swept.row?_of_some

theorem Passes.accounted (history : Passes around .empty passes catalog)
    (writes : ∀ told request error, around.refuses told request error → request.reads = true) :
    Accounted passes catalog := by
  induction history with
  | start =>
    intro subject mark version atMark
    cases atMark
  | next previous reach ih =>
    exact reach.accounted writes (previous.sound Catalog.sound_empty) ih

/-- Through a pass in which no work on the subject hears of a latest version from a bound on, its
mark stays below the bound. -/
theorem Pass.Reach.stays_below (reach : Reach around policy start pass catalog) {subject : String}
    {bound : UInt32} (before : ∀ mark, start.mark subject = some mark → mark < bound)
    (unheard : ∀ task ∈ pass.tasks, task.subject = subject → ∀ registered,
      Heard task.told (.latest subject) (.answered registered) → registered.version < bound) :
    ∀ mark, catalog.mark subject = some mark → mark < bound := by
  intro mark atMark
  cases reach.treats subject with
  | spared unbegun standing same =>
    rw [Catalog.mark_eq, same] at atMark
    exact before mark atMark
  | removed unbegun removed same =>
    rw [Catalog.mark_eq, same] at atMark
    cases atMark
  | worked member standing course beforeShelf afterShelf =>
    exact (course.underway.congr beforeShelf afterShelf).stays_below before
      (unheard _ member rfl) atMark

theorem Passes.stays_below (history : Passes around start passes catalog) {subject : String}
    {bound : UInt32} (before : ∀ mark, start.mark subject = some mark → mark < bound)
    (unheard : ∀ pass ∈ passes, ∀ task ∈ pass.tasks, task.subject = subject → ∀ registered,
      Heard task.told (.latest subject) (.answered registered) → registered.version < bound) :
    ∀ mark, catalog.mark subject = some mark → mark < bound := by
  induction history with
  | start => exact before
  | next previous reach ih =>
    refine reach.stays_below (ih fun pass member => unheard pass (List.mem_append_left _ member)) ?_
    exact unheard _ (List.mem_append_right _ List.mem_cons_self)

/-- Over all histories in which every write is carried out, and at every moment of them: versions up
to a mark are accounted for; work that stops at a gap leaves the mark and all rows below it; and the
next work that hears of a latest version from the gap on seeks the gap again, unless it stops at
an earlier one. -/
theorem marks_leave_no_gap
    (writes : ∀ told request error, around.refuses told request error → request.reads = true)
    (history : Passes around .empty passes catalog) :
    Accounted passes catalog ∧
    (∀ past pass task versions created gap tally, passes = past ++ [pass] → task ∈ pass.tasks →
      task.rest = .done ⟨.interrupted versions created gap, tally⟩ →
      (∀ mark, catalog.mark task.subject = some mark → mark < gap) ∧
      ∀ version, gap ≤ version → catalog.row? task.subject version = none) ∧
    ∀ past pass between last task again versions created gap tally worked registered,
      passes = past ++ pass :: (between ++ [last]) → task ∈ pass.tasks →
      task.rest = .done ⟨.interrupted versions created gap, tally⟩ →
      (∀ other ∈ between, ∀ work ∈ other.tasks, work.subject = task.subject → ∀ found,
        Heard work.told (.latest task.subject) (.answered found) → found.version < gap) →
      again ∈ last.tasks → again.subject = task.subject → again.rest = .done worked →
      Heard again.told (.latest task.subject) (.answered registered) → gap ≤ registered.version →
      (∃ attempt, Heard again.told (.version task.subject gap) attempt) ∨
        registered.version = gap ∨ ∃ versions created earlier,
          worked.outcome = .interrupted versions created earlier ∧ earlier < gap := by
  refine ⟨history.accounted writes, ?_, ?_⟩
  · rintro past pass task versions created gap tally rfl member done
    obtain ⟨before, policy, previous, reach⟩ := history.last
    have concluded := reach.concluded member done
    have below (mark : UInt32) (atMark : catalog.mark task.subject = some mark) : mark < gap :=
      concluded.below_gap atMark
    refine ⟨below, fun version high => ?_⟩
    cases stored : catalog.row? task.subject version with
    | none => rfl
    | some row =>
      have sound := (history.sound Catalog.sound_empty).shelves task.subject
      obtain ⟨mark, atMark, reaches⟩ := sound.marked version row stored
      have low := below mark atMark
      exact absurd (UInt32.le_trans high reaches) (UInt32.not_le.2 low)
  · rintro past pass between last task again versions created gap tally worked registered rfl member
      done unheard againMember own againDone heard reaches
    have regrouped : past ++ pass :: (between ++ [last]) = (past ++ [pass]) ++ (between ++ [last]) :=
      by simp
    rw [regrouped] at history
    obtain ⟨middle, early, late⟩ := history.split
    obtain ⟨before, _, _, reach⟩ := early.last
    obtain ⟨lastStart, _, lastEarly, lastReach⟩ := late.last
    have concluded := reach.concluded member done
    have stillBelow := lastEarly.stays_below (fun mark => concluded.below_gap) unheard
    rw [← own] at heard stillBelow ⊢
    exact (lastReach.concluded againMember againDone).seeks concluded.gap_positive stillBelow heard
      reaches

end Passes

/-- Three versions, of which the second is late or else not there. -/
def repliesWithHole (late : Bool) : Replies
  | .subjects => .answered ["orders"]
  | .latest subject => .answered ⟨subject, 3, ⟨some "{}", .avro, none⟩, none, none, none⟩
  | .version subject number =>
    if number = 2 then (if late then .timedOut else .failed (.notFound subject))
    else .answered ⟨subject, number, ⟨some "{}", .avro, none⟩, none, none, none⟩
  | .config _ => .answered none
  | .mode _ => .timedOut

/-- The mark waits for a version that is late, and passes it once the registry has denied it. -/
theorem marks_leave_no_gap_over_hole :
    ∃ passes catalog, Passes .moody .empty passes catalog ∧ catalog.mark "orders" = some 3 ∧
      ¬(catalog.row? "orders" 2).isSome ∧ PassedIn passes "orders" 2 := by
  have within (late : Bool) :
      (steadyHost (repliesWithHole late) .none).Within id .moody :=
    steadyHost_within (fun _ _ => trivial) (fun _ _ _ => trivial)
      fun _ _ _ refused => absurd refused Refusals.none_ne
  have atMark : (steadyPass (repliesWithHole false) .none .standard
      (steadyPass (repliesWithHole true) .none .standard .empty)).mark "orders" = some 3 := by
    decide +kernel
  have missing : ¬((steadyPass (repliesWithHole false) .none .standard
      (steadyPass (repliesWithHole true) .none .standard .empty)).row? "orders" 2).isSome := by
    decide +kernel
  obtain ⟨first, early, -⟩ := reach_steadyPass (within true) .standard .empty
  generalize steadyPass (repliesWithHole true) .none .standard .empty = middle at atMark missing early
  obtain ⟨second, late, -⟩ := reach_steadyPass (within false) .standard middle
  generalize steadyPass (repliesWithHole false) .none .standard middle = catalog at *
  have history := Passes.next (Passes.next .start early) late
  have accounted := (marks_leave_no_gap (fun _ _ _ => False.elim) history).1
  refine ⟨_, catalog, history, atMark, missing, ?_⟩
  exact (accounted "orders" 3 2 atMark (by decide) (by decide)).resolve_left missing

end SchemaLedger
