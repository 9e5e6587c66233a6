import SchemaLedger.Proofs.Sync.Holdings

namespace SchemaLedger

/-- The row of a version was refused in one of the passes, and a higher version of the subject was
written by the same task. -/
def Overtaken (passes : List Pass) (subject : String) (version : UInt32) : Prop :=
  ∃ pass ∈ passes, ∃ task ∈ pass.tasks, task.subject = subject ∧
    (∃ row error, row.version = version ∧ Answered task.told (.put row) (.error error)) ∧
    ∃ row outcome, version < row.version ∧ Answered task.told (.put row) (.ok outcome)

theorem Overtaken.append {passes : List Pass} {subject : String} {version : UInt32}
    (overtaken : Overtaken passes subject version) (later : List Pass) :
    Overtaken (passes ++ later) subject version := by
  obtain ⟨pass, member, rest⟩ := overtaken
  exact ⟨pass, List.mem_append_left later member, rest⟩

namespace Holdings

/-- The catalog after passes over a registry that held the same all the time: of the versions that
are held up to a mark it lacks those that were overtaken and no others. -/
structure Weathered (held : Holdings) (passes : List Pass) (catalog : Catalog) : Prop where
  sound : catalog.Sound
  stored : ∀ subject version row mark, held.row? subject version = some row →
    catalog.mark subject = some mark → version ≤ mark →
    catalog.row? subject version = some row ∨ Overtaken passes subject version
  overtaken : ∀ subject version row, held.row? subject version = some row →
    Overtaken passes subject version → catalog.row? subject version = .none ∧
      ∃ mark, catalog.mark subject = some mark ∧ version < mark

variable {held : Holdings} {policy : RunPolicy} {start catalog : Catalog} {pass : Pass}
  {passes : List Pass}

theorem stormy_truthful (held : Holdings) (earlier : List Exchange) (call : Query)
    (attempt : Attempt call.Reply) (reply : held.stormy.replies earlier call attempt) :
    held.Answers call attempt ∨ attempt.IsFault := reply

/-- A subject that is held is never removed. -/
theorem not_removed (reach : Pass.Reach held.stormy policy start pass catalog) {subject : String}
    (listed : held.Lists subject) : ¬Removed subject pass.told := by
  intro removed
  obtain ⟨earlier, subjects, reply, unlisted⟩ := reach.removed_unlisted removed
  rcases reply with ⟨others, same, lists⟩ | fault
  · cases same
    exact unlisted ((lists subject).2 listed)
  · exact fault.elim

/-- Being overtaken in the last of the passes. -/
theorem overtaken_last {subject : String} {version : UInt32}
    (overtaken : Overtaken (passes ++ [pass]) subject version) :
    Overtaken passes subject version ∨ Overtaken [pass] subject version := by
  obtain ⟨other, member, rest⟩ := overtaken
  exact (List.mem_append.1 member).imp (⟨other, ·, rest⟩) (⟨other, ·, rest⟩)

/-- A sweep keeps every version up to the mark that it comes by, unless it is overtaken in it. -/
theorem Vouches.swept {told : List Exchange} (vouches : held.Vouches told) {subject : String}
    {latest : Registered} {next : Nat} (swept : Swept subject start latest next told catalog)
    (before : start.Sound) (after : catalog.Sound) {version mark : UInt32} {row : Snapshot}
    (found : held.row? subject version = some row) (atMark : catalog.mark subject = some mark)
    (low : version ≤ mark) (above : ∀ old, start.mark subject = some old → old < version) :
    catalog.row? subject version = some row ∨
      (∃ row error, row.version = version ∧ Answered told (.put row) (.error error)) ∧
        ∃ row outcome, version < row.version ∧ Answered told (.put row) (.ok outcome) := by
  have fresh := Catalog.row?_above (before.shelves subject) above
  have lowest := swept.lowest_le version (positive_of_row? found)
    fun old atOld => UInt32.lt_iff_toNat_lt.1 (above old atOld)
  have behind := swept.mark_lt_next atMark
  have reached := UInt32.le_iff_toNat_le.1 low
  rcases vouches.handled (swept.handled version lowest (by omega)) with
    ⟨-, nothing⟩ | ⟨other, built, ⟨same, error, answered⟩ | kept⟩
  · cases nothing.symm.trans found
  · -- The mark has moved, and not to the refused version itself.
    right
    cases Option.some.inj (built.symm.trans found)
    have number : row.version = version := by
      obtain ⟨registered, -, isRow⟩ := Option.bind_eq_some_iff.1 found
      exact (Snapshot.ofRegistered?_subject isRow).2
    refine ⟨⟨row, error, number, answered⟩, ?_⟩
    rcases swept.mark with unmoved | ⟨higher, outcome, written, moved⟩
    · have old := above mark (unmoved.symm.trans atMark)
      exact absurd low (UInt32.not_le.2 old)
    · cases Option.some.inj (atMark.symm.trans moved)
      refine ⟨higher, outcome, UInt32.lt_of_le_of_ne low ?_, written⟩
      rintro rfl
      obtain ⟨stored, atVersion⟩ := Catalog.row?_mark (after.shelves subject) atMark
      rw [same, fresh] at atVersion
      cases atVersion
  · left
    cases Option.some.inj (built.symm.trans found)
    rw [kept, fresh]
    rfl

/-- A version that is overtaken in a sweep is not kept and lies below the mark. -/
theorem overtaken_of_swept {told : List Exchange} {subject : String} {latest : Registered}
    {next : Nat} (swept : Swept subject start latest next told catalog) (before : start.Sound)
    {version : UInt32}
    (refused : ∃ row error, row.version = version ∧ Answered told (.put row) (.error error))
    (higher : ∃ row outcome, version < row.version ∧ Answered told (.put row) (.ok outcome)) :
    catalog.row? subject version = .none ∧
      ∃ mark, catalog.mark subject = some mark ∧ version < mark := by
  obtain ⟨row, error, rfl, answered⟩ := refused
  obtain ⟨other, outcome, above, written⟩ := higher
  have low := (swept.attempts row _ answered).2.1
  obtain ⟨mark, atMark, reaches⟩ := swept.written other outcome written
  refine ⟨?_, mark, atMark, UInt32.lt_of_lt_of_le above (UInt32.le_iff_toNat_le.2 reaches)⟩
  rw [swept.refused row error answered]
  refine Catalog.row?_above (before.shelves subject) fun old atOld => UInt32.lt_iff_toNat_lt.2 ?_
  have below := swept.mark_lt_lowest atOld
  omega

/-- A version that is missing below the mark is out of reach for a sweep. -/
theorem stays_missing {subject : String} {told : List Exchange}
    (underway : Underway subject start told catalog) {version mark : UInt32}
    (missing : start.row? subject version = .none) (atMark : start.mark subject = some mark)
    (below : version < mark) : catalog.row? subject version = .none ∧
      ∃ now, catalog.mark subject = some now ∧ version < now := by
  rcases underway with unmoved | ⟨latest, next, swept, -⟩
  · rw [unmoved.rows, unmoved.mark]
    exact ⟨missing, mark, atMark, below⟩
  · obtain ⟨now, atNow, raised⟩ := swept.mark_le atMark
    have lowest := swept.mark_lt_lowest atMark
    have low := UInt32.lt_iff_toNat_lt.1 below
    rw [swept.others version (.inl (by omega))]
    exact ⟨missing, now, atNow, UInt32.lt_of_lt_of_le below (UInt32.le_iff_toNat_le.2 raised)⟩

theorem Weathered.stored_next (weathered : held.Weathered passes start)
    (reach : Pass.Reach held.stormy policy start pass catalog) {subject : String}
    {version mark : UInt32} {row : Snapshot} (found : held.row? subject version = some row)
    (atMark : catalog.mark subject = some mark) (low : version ≤ mark) :
    catalog.row? subject version = some row ∨ Overtaken (passes ++ [pass]) subject version := by
  cases reach.treats subject with
  | spared unbegun standing same =>
    rw [Catalog.mark_eq, same] at atMark
    rw [Catalog.row?, same]
    exact (weathered.stored subject version row mark found atMark low).imp_right (·.append _)
  | removed unbegun removed => exact absurd removed (not_removed reach (lists_of_row? found))
  | @worked told rest opened own member standing course beforeShelf afterShelf =>
    have vouches := vouches_of_course held.stormy_truthful course
    rcases course.underway.congr beforeShelf afterShelf with unmoved | ⟨latest, next, swept, -⟩
    · rw [unmoved.rows]
      rw [unmoved.mark] at atMark
      exact (weathered.stored subject version row mark found atMark low).imp_right (·.append _)
    · by_cases above : ∀ old, start.mark subject = some old → old < version
      · have sound := reach.sound weathered.sound
        refine (vouches.swept swept weathered.sound sound found atMark low above).imp_right ?_
        intro overtaken
        exact ⟨pass, List.mem_append_right _ List.mem_cons_self, _, member, rfl, overtaken⟩
      · push Not at above
        obtain ⟨old, atOld, below⟩ := above
        exact (weathered.stored subject version row old found atOld (UInt32.not_lt.1 below)).imp
          swept.row?_of_some (·.append _)

theorem Weathered.overtaken_next (weathered : held.Weathered passes start)
    (reach : Pass.Reach held.stormy policy start pass catalog) {subject : String}
    {version : UInt32} {row : Snapshot} (found : held.row? subject version = some row)
    (overtaken : Overtaken (passes ++ [pass]) subject version) :
    catalog.row? subject version = .none ∧
      ∃ mark, catalog.mark subject = some mark ∧ version < mark := by
  cases reach.treats subject with
  | spared unbegun standing same =>
    rw [Catalog.row?, Catalog.mark_eq, same]
    rcases overtaken_last overtaken with old | ⟨other, isPass, task, member, own, -⟩
    · exact weathered.overtaken subject version row found old
    · cases List.mem_singleton.1 isPass
      exact absurd own (unbegun task member)
  | removed unbegun removed => exact absurd removed (not_removed reach (lists_of_row? found))
  | @worked told rest opened own member standing course beforeShelf afterShelf =>
    have underway := course.underway.congr beforeShelf afterShelf
    rcases overtaken_last overtaken with old | ⟨other, isPass, task, isTask, same, refused, higher⟩
    · obtain ⟨missing, mark, atMark, below⟩ := weathered.overtaken subject version row found old
      exact stays_missing underway missing atMark below
    · cases List.mem_singleton.1 isPass
      cases reach.task_unique isTask member same
      rcases underway with unmoved | ⟨latest, next, swept, -⟩
      · obtain ⟨row, error, -, answered⟩ := refused
        exact absurd answered (unmoved.attempts row _)
      · exact overtaken_of_swept swept weathered.sound refused higher

theorem Weathered.next (weathered : held.Weathered passes start)
    (reach : Pass.Reach held.stormy policy start pass catalog) :
    held.Weathered (passes ++ [pass]) catalog where
  sound := reach.sound weathered.sound
  stored _ _ _ _ := weathered.stored_next reach
  overtaken _ _ _ := weathered.overtaken_next reach

theorem weathered (history : Passes held.stormy .empty passes catalog) :
    held.Weathered passes catalog := by
  induction history with
  | start =>
    refine ⟨Catalog.sound_empty, fun _ _ _ _ _ none => (nomatch none), ?_⟩
    rintro subject version row - ⟨pass, member, -⟩
    cases member
  | next previous reach ih => exact ih.next reach

/-- Nothing goes wrong but that writes of rows may fail. -/
def leaky (held : Holdings) : Surroundings :=
  { held.calm with refuses := fun _ request _ => ∃ row, request = .put row }

theorem calm_within_stormy (held : Holdings) : held.calm.Within held.stormy :=
  ⟨fun _ _ _ => .inl, fun _ _ => id, fun _ _ _ => False.elim⟩

theorem leaky_within_stormy (held : Holdings) : held.leaky.Within held.stormy :=
  ⟨fun _ _ _ => .inl, fun _ _ => id, fun _ _ _ _ => trivial⟩

end Holdings

section Passes
open Holdings

variable {held : Holdings} {passes : List Pass} {policy : RunPolicy} {start catalog : Catalog}
  {pass : Pass}

/-- Nothing is overtaken where no request fails. -/
theorem not_overtaken_calm (reach : Pass.Reach held.calm policy start pass catalog)
    {subject : String} {version : UInt32} : ¬Overtaken [pass] subject version := by
  rintro ⟨other, isPass, task, member, -, ⟨row, error, -, answered⟩, -⟩
  cases List.mem_singleton.1 isPass
  obtain ⟨-, _, _, course, -⟩ := reach.course member
  obtain ⟨earlier, refused⟩ := course.refusal_allowed answered
  exact refused

/-- A calm pass brings the mark to every version of which the registry has a text. -/
theorem calm_pass_reaches (reach : Pass.Reach held.calm policy start pass catalog)
    (finished : pass.Finished) (sound : start.Sound) {subject : String} {version : UInt32}
    {row : Snapshot} (found : held.row? subject version = some row) :
    ∃ mark, catalog.mark subject = some mark ∧ version ≤ mark := by
  have listed := lists_of_row? found
  rcases reach.finished finished with ⟨_, attempt, ⟨subjects, same, -⟩, unanswered⟩ |
    ⟨_, subjects, ⟨_, same, lists⟩, worked, -⟩
  · exact absurd same (unanswered subjects)
  · cases same
    obtain ⟨task, member, rfl, worked, done⟩ := worked subject ((lists subject).2 listed)
    obtain ⟨-, opened, own, course, before, after⟩ := reach.course member
    rw [done] at course
    obtain ⟨latest, last, swept | ⟨unmoved, mark, atMark, current⟩⟩ := concluded_calm listed course
    · have within := UInt32.le_iff_toNat_le.1 (row?_le_latest last found)
      replace swept := swept.congr before after
      by_cases above : ∀ old, start.mark task.subject = some old → old < version
      · have fresh := Catalog.row?_above (sound.shelves task.subject) above
        have lowest := swept.lowest_le version (positive_of_row? found)
          fun old atOld => UInt32.lt_iff_toNat_lt.1 (above old atOld)
        have kept := handled_calm course (swept.handled version lowest (by omega)) fresh
        exact Catalog.le_mark_of_row? ((reach.sound sound).shelves _) (kept.trans found)
      · push Not at above
        obtain ⟨old, atOld, low⟩ := above
        obtain ⟨mark, atMark, raised⟩ := swept.mark_le atOld
        refine ⟨mark, atMark, UInt32.le_iff_toNat_le.2 ?_⟩
        exact Nat.le_trans (UInt32.le_iff_toNat_le.1 (UInt32.not_lt.1 low)) raised
    · refine ⟨mark, ?_, UInt32.le_trans (row?_le_latest last found) current⟩
      exact (unmoved.congr before after).mark.trans (by rw [Catalog.mark_eq, ← before]; exact atMark)

/-- After any passes over a registry that holds the same all the time, in which calls and requests
may have failed, and one more without faults: every version of which the registry has a text is in
the catalog, except those whose row was refused in work that went on to write a higher version.
Those are not in the catalog, and the mark of their subject has passed them. -/
theorem failed_writes_are_retried_unless_overtaken
    (history : Passes held.stormy .empty passes start)
    (reach : Pass.Reach held.calm policy start pass catalog) (finished : pass.Finished)
    {subject : String} {version : UInt32} {row : Snapshot}
    (found : held.row? subject version = some row) :
    (¬Overtaken passes subject version → catalog.row? subject version = some row) ∧
      (Overtaken passes subject version → catalog.row? subject version = none ∧
        ∃ mark, catalog.mark subject = some mark ∧ version < mark) := by
  have before := weathered history
  have after := before.next (reach.widen held.calm_within_stormy)
  constructor
  · intro standing
    obtain ⟨mark, atMark, low⟩ := calm_pass_reaches reach finished before.sound found
    refine (after.stored subject version row mark found atMark low).resolve_right fun overtaken => ?_
    exact (overtaken_last overtaken).elim standing (not_overtaken_calm reach)
  · intro overtaken
    exact after.overtaken subject version row found (overtaken.append _)

end Passes

/-- A registry of one subject with two versions. -/
def twoVersions : Holdings :=
  .ofTable
    (.ofList [("orders", .ofList [
      (1, ⟨"orders", 1, ⟨some "{}", .avro, none⟩, none, none, none⟩),
      (2, ⟨"orders", 2, ⟨some "[]", .avro, none⟩, none, none, none⟩)])])
    (by decide)

/-- The first version is refused, the second is not. -/
def refuseFirst : Refusals
  | .put row => if row.version = 1 then some (.store "refused") else none
  | _ => none

/-- The first version fails to be written once, and a pass without faults does not bring it. -/
theorem twoVersions_overtaken :
    ∃ passes start pass catalog, Passes twoVersions.leaky .empty passes start ∧
      Pass.Reach twoVersions.calm .standard start pass catalog ∧ pass.Finished ∧
      (twoVersions.row? "orders" 1).isSome ∧ catalog.row? "orders" 1 = none := by
  have within : (steadyHost twoVersions.replies refuseFirst).Within id twoVersions.leaky := by
    refine steadyHost_within (fun _ => twoVersions.answers_replies) (fun _ _ _ => trivial) ?_
    intro _ request error refused
    cases request with
    | put row => exact ⟨row, rfl⟩
    | _ => cases refused
  have missing : ¬((steadyPass twoVersions.replies .none .standard
      (steadyPass twoVersions.replies refuseFirst .standard .empty)).row? "orders" 1).isSome := by
    decide +kernel
  obtain ⟨first, early, -⟩ := reach_steadyPass within .standard .empty
  obtain ⟨second, late, finished⟩ := twoVersions.reach_replies .standard
    (steadyPass twoVersions.replies refuseFirst .standard .empty)
  exact ⟨_, _, second, _, .next .start early, late, finished, by decide,
    Option.not_isSome_iff_eq_none.1 missing⟩

/-- So versions do get lost to writes that fail. -/
theorem not_every_version_survives :
    ¬∀ (held : Holdings) (passes : List Pass) (start : Catalog) (policy : RunPolicy) (pass : Pass)
      (catalog : Catalog), Passes held.leaky .empty passes start →
      Pass.Reach held.calm policy start pass catalog → pass.Finished →
      ∀ subject version row, held.row? subject version = some row →
        (catalog.row? subject version).isSome := by
  intro every
  obtain ⟨passes, start, pass, catalog, history, reach, finished, present, missing⟩ :=
    twoVersions_overtaken
  obtain ⟨row, found⟩ := Option.isSome_iff_exists.1 present
  have kept := every twoVersions passes start .standard pass catalog history reach finished
    "orders" 1 row found
  rw [missing] at kept
  cases kept

/-- The version that is missing was overtaken, and the mark has passed it. -/
theorem failed_writes_are_retried_of_twoVersions :
    ∃ passes start pass catalog, Passes twoVersions.stormy .empty passes start ∧
      Pass.Reach twoVersions.calm .standard start pass catalog ∧ pass.Finished ∧
      Overtaken passes "orders" 1 ∧ catalog.row? "orders" 1 = none ∧
      ∃ mark, catalog.mark "orders" = some mark ∧ 1 < mark := by
  obtain ⟨passes, start, pass, catalog, history, reach, finished, present, missing⟩ :=
    twoVersions_overtaken
  obtain ⟨row, found⟩ := Option.isSome_iff_exists.1 present
  have wide := history.widen twoVersions.leaky_within_stormy
  obtain ⟨retried, passedOver⟩ :=
    failed_writes_are_retried_unless_overtaken wide reach finished found
  have overtaken : Overtaken passes "orders" 1 := Classical.byContradiction fun standing => by
    cases (retried standing).symm.trans missing
  exact ⟨passes, start, pass, catalog, wide, reach, finished, overtaken, passedOver overtaken⟩

end SchemaLedger
