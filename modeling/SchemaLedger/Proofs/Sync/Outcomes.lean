import SchemaLedger.Proofs.Sync.Backed
import SchemaLedger.Proofs.Sync.History
import SchemaLedger.Proofs.Sync.Recount

namespace SchemaLedger

/-- The row is that of a version. -/
def Row.IsVersion (subject : String) (version : UInt32) : Row → Prop
  | snapshot row => row.subject = subject ∧ row.version = version
  | versionCells row => row.subject = .text subject ∧ row.version = .ofWord version
  | _ => False

theorem Backend.isVersion_spell (backend : Backend) (row : Snapshot) :
    (backend.spell (.snapshot row)).IsVersion row.subject row.version := by
  cases backend <;> exact ⟨rfl, rfl⟩

namespace Shelf

variable {old new : Shelf} {subject : String} {count : Nat}

/-- The rows of versions, version by version. -/
theorem rows_versions (shelf : Shelf) : shelf.rows .versions =
    shelf.versions.keys.filterMap fun version => (shelf.versions.find? version).map .snapshot := by
  rw [Shelf.rows, Table.keys, List.filterMap_map, ← List.filterMap_eq_map]
  refine List.filterMap_congr fun e isEntry => ?_
  rw [Function.comp_apply, Function.comp_apply, Table.find?_eq_some_iff.2 isEntry, Option.map_some]

/-- A shelf that had no entry gets one with its first version. -/
theorem Fills.creates (fills : old.Fills new count) (before : old.Sound subject)
    (after : new.Sound subject) :
    (old.mark.isNone && decide (0 < count)) = true ↔ ¬old.Has .entries ∧ new.Has .entries := by
  obtain ⟨come, shuffled, length⟩ := fills.versions
  have size := shuffled.length_eq
  rw [List.length_append, length] at size
  have marked : old.mark.isNone = true ↔ ¬old.Has .entries := by
    rw [Has, ← before.mark_isSome, Option.not_isSome_iff_eq_none, Option.isNone_iff_eq_none]
  have entered : old.Has .entries ↔ 0 < old.versions.keys.length :=
    before.entry_isSome_iff.trans List.length_pos_iff.symm
  have entered' : new.Has .entries ↔ 0 < new.versions.keys.length :=
    after.entry_isSome_iff.trans List.length_pos_iff.symm
  rw [Bool.and_eq_true, decide_eq_true_eq, marked, entered, entered']
  omega

/-- On a shelf that loses no row, the rows that came are those of the versions that came. -/
theorem Fills.rows (fills : old.Fills new count) (sound : new.Sound subject)
    (kept : ∀ version row, old.versions.find? version = some row →
      new.versions.find? version = some row) :
    ∃ come : List Row, (new.rows .versions).Perm (old.rows .versions ++ come) ∧
      come.length = count ∧ ∀ row ∈ come, ∃ snapshot : Snapshot, row = .snapshot snapshot ∧
        snapshot.subject = subject ∧ new.versions.find? snapshot.version = some snapshot ∧
        old.versions.find? snapshot.version = none := by
  obtain ⟨numbers, shuffled, length⟩ := fills.versions
  let row? (version : UInt32) : Option Row := (new.versions.find? version).map .snapshot
  have fresh : ∀ version ∈ numbers, version ∈ new.versions.keys ∧ version ∉ old.versions.keys := by
    have distinct := shuffled.nodup_iff.1 (Table.keys_nodup new.versions)
    intro version isNew
    refine ⟨shuffled.mem_iff.2 (List.mem_append_right _ isNew), fun isOld => ?_⟩
    exact (List.nodup_append'.1 distinct).2.2 isOld isNew
  have before : old.rows .versions = old.versions.keys.filterMap row? := by
    rw [rows_versions]
    refine List.filterMap_congr fun version isKey => ?_
    obtain ⟨row, found⟩ := Option.isSome_iff_exists.1 (Table.mem_keys_iff.1 isKey)
    simp only [row?, found, kept version row found]
  refine ⟨numbers.filterMap row?, ?_, ?_, fun row isRow => ?_⟩
  · rw [before, rows_versions, ← List.filterMap_append]
    exact shuffled.filterMap row?
  · rw [← length]
    refine List.filterMap_length_eq_length.2 fun version isNew => ?_
    have found := Table.mem_keys_iff.1 (fresh version isNew).1
    simpa only [row?, Option.isSome_map] using found
  · obtain ⟨version, isNew, isRow⟩ := List.mem_filterMap.1 isRow
    obtain ⟨snapshot, found, rfl⟩ := Option.map_eq_some_iff.1 isRow
    obtain ⟨own, rfl⟩ := sound.placed version snapshot found
    refine ⟨snapshot, rfl, own, found, ?_⟩
    have missing := fun isKey => (fresh _ isNew).2 (Table.mem_keys_iff.2 isKey)
    exact Option.not_isSome_iff_eq_none.1 missing

end Shelf

namespace Backend

/-- Nothing has become of the rows of other subjects, and of this one nothing but its entry has
changed and nothing but versions has come. -/
structure Spares (subject : String) (start after : Backend) : Prop where
  others : ∀ table, ((after.rows table).filter fun row => !decide (row.subject = .text subject)).Perm
    ((start.rows table).filter fun row => !decide (row.subject = .text subject))
  versions : ∀ row ∈ start.rows .versions, row ∈ after.rows .versions
  artifacts : (after.rows .artifacts).Perm (start.rows .artifacts)
  remarks : (after.rows .remarks).Perm (start.rows .remarks)

/-- So many rows came of versions within bounds. -/
def Gains (subject : String) (start after : Backend) (count : Nat) (within : UInt32 → Prop) :
    Prop :=
  ∃ come, (after.rows .versions).Perm (start.rows .versions ++ come) ∧ come.length = count ∧
    ∀ row ∈ come, ∃ version, row.IsVersion subject version ∧ within version

variable {start after : Backend} {catalog catalog' : Catalog} {subject : String}

theorem Spares.refl (subject : String) (backend : Backend) : backend.Spares subject backend :=
  ⟨fun _ => .refl _, fun _ isRow => isRow, .refl _, .refl _⟩

theorem Gives.spell {effect : Effect} {answer : effect.Answer}
    (gives : start.Gives effect answer after) : after.spell = start.spell := by
  cases gives with
  | kept request => cases start <;> rfl
  | faulted | replied | refused | paused | reported => rfl

theorem Course.spell {α : Type} {program rest : Program α} {told : List Exchange}
    (course : Course program start told rest after) : after.spell = start.spell := by
  induction course with
  | start => rfl
  | next previous gives ih => exact gives.spell.trans ih

namespace Shows

/-- What comes to the shelf of one subject comes to the rows. -/
theorem rows_grown (shows : start.Shows catalog) (shows' : after.Shows catalog')
    (spelled : after.spell = start.spell)
    (others : ∀ other, other ≠ subject → catalog'.shelf other = catalog.shelf other)
    {table : SubjectTable} {come : List Row}
    (onShelf : ((catalog'.shelf subject).rows table).Perm
      ((catalog.shelf subject).rows table ++ come)) :
    (after.rows table).Perm (start.rows table ++ come.map start.spell) := by
  have grown : (rows (.memory catalog') table).Perm (rows (.memory catalog) table ++ come) :=
    (Drawer.records table).all_grown shows.sound shows'.sound others onShelf
  refine (shows'.rows_perm table).trans ?_
  rw [spelled]
  refine (grown.map start.spell).trans ?_
  rw [List.map_append]
  exact (shows.rows_perm table).symm.append_right _

theorem rows_others (shows : start.Shows catalog) (shows' : after.Shows catalog')
    (spelled : after.spell = start.spell)
    (others : ∀ other, other ≠ subject → catalog'.shelf other = catalog.shelf other)
    (table : SubjectTable) :
    ((after.rows table).filter fun row => !decide (row.subject = .text subject)).Perm
      ((start.rows table).filter fun row => !decide (row.subject = .text subject)) := by
  have chosen (backend : Backend) (rows : List Row) :
      (rows.map backend.spell).filter (fun row => !decide (row.subject = .text subject)) =
        (rows.filter fun row => !decide (row.subject = .text subject)).map backend.spell := by
    rw [List.filter_map]
    refine congrArg (List.map _) (List.filter_congr fun row _ => ?_)
    rw [Function.comp_apply, subject_spell]
  have same := (Drawer.records table).all_others shows.sound shows'.sound others
  have first := (shows.rows_perm table).filter fun row => !decide (row.subject = .text subject)
  have last := (shows'.rows_perm table).filter fun row => !decide (row.subject = .text subject)
  rw [chosen] at first last
  rw [spelled] at last
  exact last.trans ((List.Perm.of_eq (congrArg (List.map start.spell) same)).trans first.symm)

/-- What a sweep has brought to the shelf of its subject are rows of versions behind it. -/
theorem gains (shows : start.Shows catalog) (shows' : after.Shows catalog')
    (spelled : after.spell = start.spell)
    (others : ∀ other, other ≠ subject → catalog'.shelf other = catalog.shelf other)
    {latest : Registered} {next count : Nat} {told : List Exchange}
    (swept : Swept subject catalog latest next told catalog')
    (fills : (catalog.shelf subject).Fills (catalog'.shelf subject) count)
    {within : UInt32 → Prop} (bounds : ∀ version, (∀ old, catalog.mark subject = some old →
      old < version) → version.toNat < next → within version) :
    start.Gains subject after count within := by
  obtain ⟨come, onShelf, length, each⟩ :=
    fills.rows (shows'.sound.shelves subject) fun version row => swept.row?_of_some
  refine ⟨come.map start.spell, shows.rows_grown shows' spelled others onShelf, ?_, ?_⟩
  · rw [List.length_map, length]
  · refine List.forall_mem_map.2 fun row isRow => ?_
    obtain ⟨snapshot, rfl, rfl, found, missing⟩ := each row isRow
    have moved : catalog'.row? snapshot.subject snapshot.version ≠
        catalog.row? snapshot.subject snapshot.version := by
      rw [Catalog.row?, Catalog.row?, found, missing]
      exact Option.some_ne_none snapshot
    have swept' : lowestSwept (catalog.mark snapshot.subject) latest.version ≤
        snapshot.version.toNat ∧ snapshot.version.toNat < next := by
      by_contra outside
      exact moved (swept.others snapshot.version (by omega))
    refine ⟨snapshot.version, start.isVersion_spell snapshot, bounds _ (fun old atOld => ?_)
      swept'.2⟩
    have low := swept.mark_lt_lowest atOld
    exact UInt32.lt_iff_toNat_lt.2 (by omega)

end Shows

theorem Gains.versions {count : Nat} {within : UInt32 → Prop}
    (gains : start.Gains subject after count within) :
    ∀ row ∈ start.rows .versions, row ∈ after.rows .versions := by
  obtain ⟨come, shuffled, -⟩ := gains
  exact fun row isRow => shuffled.mem_iff.2 (List.mem_append_left come isRow)

end Backend

/-- What an outcome tells of the rows before and after the work and of the calls on the way. -/
def Outcome.TellsOf (subject : String) (mark : Option UInt32) (told : List Exchange)
    (start after : Backend) (outcome : Outcome) : Prop :=
  let first := mark.elim 1 (·.toNat + 1)
  let creates (created : Bool) := created = true ↔
    ¬start.Has subject .entries ∧ after.Has subject .entries
  match outcome with
  | .skipped _ | .failed _ => after = start
  | .synced new created => ∃ latest : Registered,
      (∀ registered, Heard told (.latest subject) (.answered registered) ↔ registered = latest) ∧
      told.filterMap Exchange.version? =
        versionsFrom subject first (latest.version.toNat - first) ∧
      start.Gains subject after new (fun version =>
        (∀ old, mark = some old → old < version) ∧ version ≤ latest.version) ∧
      creates created
  | .interrupted new created missing => ∃ latest : Registered,
      (∀ registered, Heard told (.latest subject) (.answered registered) ↔ registered = latest) ∧
      first ≤ missing.toNat ∧ missing < latest.version ∧
      told.filterMap Exchange.version? =
        versionsFrom subject first (missing.toNat - first + 1) ∧
      start.Gains subject after new (fun version =>
        (∀ old, mark = some old → old < version) ∧ version < missing) ∧
      creates created

namespace Program

variable {policy : RetryPolicy} {subject : String}

theorem plain_catchUp : (catchUp policy subject).Only Effect.Plain :=
  only_catchUp (fun _ _ fetches => by cases fetches <;> nofun)
    (fun _ settles => by cases settles <;> nofun) nofun

/-- Below a latest version there is room above the mark. -/
theorem firstAbove_toNat {mark : Option UInt32} {target : UInt32}
    (ahead : ∀ old, mark = some old → old.toNat < target.toNat) :
    (firstAbove mark).toNat = mark.elim 1 (·.toNat + 1) := by
  cases mark with
  | none => rfl
  | some old => exact firstAbove_toNat_of_lt (ahead old rfl)

end Program

/-- The work on a subject with nobody else at it, on any catalog that requests may lead to, in
memory or in a database, whatever the registry answers and whichever requests fail: rows of other
subjects and rows of versions stay as they are, and the outcome tells what else has become of the
rows and which versions were called for. -/
theorem outcomes_tell_the_truth {start after : Backend} {policy : RetryPolicy} {subject : String}
    {told : List Exchange} {worked : Worked} (reached : start.Reached)
    (course : Backend.Course (Program.catchUp policy subject) start told (.done worked) after) :
    start.Spares subject after ∧ ∃ mark, (Backend.keeper (.mark subject) start).1 = .ok mark ∧
      worked.outcome.TellsOf subject mark told start after := by
  obtain ⟨catalog, shows⟩ := reached.shows
  obtain ⟨catalog', shows', shown⟩ := course.shown shows Program.plain_catchUp
  have spelled := course.spell
  have others := (shown.local Program.about_catchUp rfl).1
  have fills := shown.fills Program.about_catchUp
  have recounts := shown.recounts
  have concluded := shown.concluded
  have marked : (Backend.keeper (.mark subject) start).1 = .ok (catalog.mark subject) :=
    (shows.keep (.mark subject)).2 fun _ _ same => by cases same
  have creates := fills.creates (shows.sound.shelves subject) (shows'.sound.shelves subject)
  rw [← shows.has_iff, ← shows'.has_iff, ← Catalog.mark_eq] at creates
  have spares (kept : ∀ row ∈ start.rows .versions, row ∈ after.rows .versions) :
      start.Spares subject after := by
    have artifacts : ((catalog'.shelf subject).rows .artifacts).Perm
        ((catalog.shelf subject).rows .artifacts ++ []) := by
      rw [Shelf.rows, Shelf.rows, fills.artifacts, List.append_nil]
    have remarks : ((catalog'.shelf subject).rows .remarks).Perm
        ((catalog.shelf subject).rows .remarks ++ []) := by
      rw [Shelf.rows, Shelf.rows, fills.remarks, List.append_nil]
    refine ⟨shows.rows_others shows' spelled others, kept, ?_, ?_⟩
    · simpa using shows.rows_grown shows' spelled others artifacts
    · simpa using shows.rows_grown shows' spelled others remarks
  cases ended : worked.outcome with
  | skipped | failed =>
    rw [ended] at recounts
    obtain rfl := course.unchanged reached recounts
    exact ⟨.refl subject after, _, marked, rfl⟩
  | synced new created =>
    rw [ended] at recounts concluded
    obtain ⟨latest, swept⟩ := concluded
    obtain ⟨heardLatest, heard, brought, rfl⟩ := recounts
    obtain rfl := swept.only _ heard
    have first := Program.firstAbove_toNat swept.ahead
    rw [brought.new] at fills creates
    have gains : start.Gains subject after new fun version =>
        (∀ old, catalog.mark subject = some old → old < version) ∧
          version ≤ heardLatest.version :=
      shows.gains shows' spelled others swept fills fun version above below =>
        ⟨above, UInt32.le_iff_toNat_le.2 (Nat.le_of_lt_succ below)⟩
    refine ⟨spares gains.versions, _, marked, heardLatest, fun registered =>
      ⟨swept.only registered, fun same => same ▸ heard⟩, ?_, gains, creates⟩
    rw [brought.asked, first]
  | interrupted new created missing =>
    rw [ended] at recounts concluded
    obtain ⟨latest, swept, -⟩ := concluded
    obtain ⟨heardLatest, heard, low, high, brought, rfl⟩ := recounts
    obtain rfl := swept.only _ heard
    have first := Program.firstAbove_toNat swept.ahead
    rw [brought.new] at fills creates
    have gains : start.Gains subject after new fun version =>
        (∀ old, catalog.mark subject = some old → old < version) ∧ version < missing :=
      shows.gains shows' spelled others swept fills fun version above below =>
        ⟨above, UInt32.lt_iff_toNat_lt.2 below⟩
    refine ⟨spares gains.versions, _, marked, heardLatest, fun registered =>
      ⟨swept.only registered, fun same => same ▸ heard⟩, ?_, high, ?_, gains, creates⟩
    · rw [← first]
      exact UInt32.le_iff_toNat_le.1 low
    · rw [brought.asked, first]

/-- Four versions, of which the second is not there and the third is late. -/
def repliesWithGap : Replies
  | .subjects => .answered ["orders"]
  | .latest subject => .answered ⟨subject, 4, ⟨some "{}", .avro, none⟩, none, none, none⟩
  | .version subject number =>
    if number = 2 then .failed (.notFound subject)
    else if number = 3 then .timedOut
    else .answered ⟨subject, number, ⟨some "{}", .avro, none⟩, none, none, none⟩
  | .config _ => .answered none
  | .mode _ => .timedOut

/-- In a new database the first version is written, and the work ends at the third one. -/
theorem outcomes_tell_the_truth_of_gap : ∃ told worked after,
    Backend.Course (Program.catchUp .standard "orders") (.durable .fresh) told (.done worked) after ∧
      worked.outcome = .interrupted 1 true 3 ∧ worked.outcome.TellsOf "orders" none told
        (.durable .fresh) after ∧
      told.filterMap Exchange.version? = [("orders", 1), ("orders", 2), ("orders", 3)] := by
  obtain ⟨told, course⟩ := Backend.Course.run repliesWithGap 0
    (@Backend.Course.start _ (Program.catchUp .standard "orders") (.durable .fresh))
  have outcome : ((Program.catchUp .standard "orders").run (Backend.host repliesWithGap) 0
      (.durable .fresh)).1.outcome = .interrupted 1 true 3 := by decide +kernel
  have mark : (Backend.keeper (.mark "orders") (.durable .fresh)).1 = .ok none := by decide +kernel
  obtain ⟨-, other, isMark, tells⟩ := outcomes_tell_the_truth Backend.reached_fresh course
  cases Except.ok.inj (mark.symm.trans isMark)
  refine ⟨told, _, _, course, outcome, tells, ?_⟩
  rw [outcome] at tells
  obtain ⟨latest, -, -, -, called, -⟩ := tells
  exact called

end SchemaLedger
