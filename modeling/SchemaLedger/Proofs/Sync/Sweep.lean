import SchemaLedger.Proofs.Schema.Snapshot
import SchemaLedger.Proofs.Sync.Lookup
import SchemaLedger.Sync.CatchUp

namespace SchemaLedger

/-- The registry gave this as the version, either under its number or as the latest one. -/
def Obtained (subject : String) (told : List Exchange) (version : UInt32)
    (registered : Registered) : Prop :=
  Heard told (.version subject version) (.answered registered) ∨
    Heard told (.latest subject) (.answered registered) ∧ registered.version = version

/-- What became of a version behind the sweep, and of its row. Either the registry affirmed that it
has no such version, or its answer holds no schema text, or the row was refused, or it is kept; in
the first three cases the row is what it was. -/
inductive Handled (subject : String) (told : List Exchange) (version : UInt32)
    (old new : Option Snapshot) : Prop
  | absent {detail} : Heard told (.version subject version) (.failed (.notFound detail)) →
      new = old → Handled subject told version old new
  | bodyless {registered} : Obtained subject told version registered →
      Snapshot.ofRegistered? subject version registered = none → new = old →
      Handled subject told version old new
  | refused {registered row error} : Obtained subject told version registered →
      Snapshot.ofRegistered? subject version registered = some row →
      Answered told (.put row) (.error error) → new = old → Handled subject told version old new
  | kept {registered row outcome} : Obtained subject told version registered →
      Snapshot.ofRegistered? subject version registered = some row →
      Answered told (.put row) (.ok outcome) → new = some (old.getD row) →
      Handled subject told version old new

theorem Obtained.append {subject : String} {told : List Exchange} {version : UInt32}
    {registered : Registered} (obtained : Obtained subject told version registered)
    (later : List Exchange) : Obtained subject (told ++ later) version registered :=
  obtained.imp (·.append later) (·.imp_left (·.append later))

theorem Handled.append {subject : String} {told : List Exchange} {version : UInt32}
    {old new : Option Snapshot} (handled : Handled subject told version old new)
    (later : List Exchange) : Handled subject (told ++ later) version old new := by
  cases handled with
  | absent heard same => exact .absent (heard.append later) same
  | bodyless obtained built same => exact .bodyless (obtained.append later) built same
  | refused obtained built answered same =>
    exact .refused (obtained.append later) built (answered.append later) same
  | kept obtained built answered same =>
    exact .kept (obtained.append later) built (answered.append later) same

/-- Where a sweep begins. A registry that counts from zero may offer a version below the first. -/
def lowestSwept (mark : Option UInt32) (target : UInt32) : Nat :=
  min (Program.firstAbove mark).toNat target.toNat

/-- Work on a subject, begun in the catalog `start` and with a latest version found above the mark,
has dealt with all versions below `next`. -/
structure Swept (subject : String) (start : Catalog) (latest : Registered) (next : Nat)
    (told : List Exchange) (catalog : Catalog) : Prop where
  read : Answered told (.mark subject) (.ok (start.mark subject))
  heard : Heard told (.latest subject) (.answered latest)
  only : ∀ registered, Heard told (.latest subject) (.answered registered) → registered = latest
  ahead : ∀ mark, start.mark subject = some mark → mark.toNat < latest.version.toNat
  lowest : lowestSwept (start.mark subject) latest.version ≤ next
  handled : ∀ version, lowestSwept (start.mark subject) latest.version ≤ version.toNat →
    version.toNat < next →
    Handled subject told version (start.row? subject version) (catalog.row? subject version)
  others : ∀ version, version.toNat < lowestSwept (start.mark subject) latest.version ∨
    next ≤ version.toNat → catalog.row? subject version = start.row? subject version
  attempts : ∀ row answer, Answered told (.put row) answer → row.subject = subject ∧
    lowestSwept (start.mark subject) latest.version ≤ row.version.toNat ∧ row.version.toNat < next
  refused : ∀ row error, Answered told (.put row) (.error error) →
    catalog.row? subject row.version = start.row? subject row.version
  written : ∀ row outcome, Answered told (.put row) (.ok outcome) →
    ∃ mark, catalog.mark subject = some mark ∧ row.version.toNat ≤ mark.toNat
  mark : catalog.mark subject = start.mark subject ∨ ∃ row outcome,
    Answered told (.put row) (.ok outcome) ∧ catalog.mark subject = some row.version

/-- No version has been written, and rows and mark of the subject are what they were. -/
structure Unmoved (subject : String) (start : Catalog) (told : List Exchange)
    (catalog : Catalog) : Prop where
  rows : ∀ version, catalog.row? subject version = start.row? subject version
  mark : catalog.mark subject = start.mark subject
  attempts : ∀ row answer, ¬Answered told (.put row) answer

theorem toNat_succ_of_lt {version : UInt32} {bound : Nat} (below : version.toNat < bound)
    (small : bound < 4294967296) : (version + 1).toNat = version.toNat + 1 := by
  have one : (1 : UInt32).toNat = 1 := rfl
  rw [UInt32.toNat_add, one]
  omega

theorem firstAbove_toNat_of_lt {mark target : UInt32} (ahead : mark.toNat < target.toNat) :
    (Program.firstAbove (some mark)).toNat = mark.toNat + 1 := by
  have bound := target.toNat_lt
  have fits : mark.toNat + 1 < 4294967296 := by omega
  rw [Program.firstAbove, if_pos fits, toNat_succ_of_lt ahead bound]

namespace Swept

variable {subject : String} {start catalog catalog' : Catalog} {latest : Registered} {next : Nat}
  {told later : List Exchange}

/-- The old mark lies below the sweep. -/
theorem mark_lt_lowest (swept : Swept subject start latest next told catalog) {mark : UInt32}
    (atMark : start.mark subject = some mark) :
    mark.toNat < lowestSwept (start.mark subject) latest.version := by
  have ahead := swept.ahead mark atMark
  rw [lowestSwept, atMark, firstAbove_toNat_of_lt ahead]
  omega

/-- Every version from one on lies at or below the old mark or belongs to the sweep. -/
theorem lowest_le (swept : Swept subject start latest next told catalog) (version : UInt32)
    (positive : 1 ≤ version.toNat)
    (above : ∀ mark, start.mark subject = some mark → mark.toNat < version.toNat) :
    lowestSwept (start.mark subject) latest.version ≤ version.toNat := by
  cases atMark : start.mark subject with
  | none =>
    have one : (Program.firstAbove none).toNat = 1 := rfl
    rw [lowestSwept, one]
    omega
  | some mark =>
    have bound := above mark atMark
    rw [lowestSwept, firstAbove_toNat_of_lt (swept.ahead mark atMark)]
    omega

/-- The mark lies behind the sweep. -/
theorem mark_lt_next (swept : Swept subject start latest next told catalog) {mark : UInt32}
    (atMark : catalog.mark subject = some mark) : mark.toNat < next := by
  rcases swept.mark with same | ⟨row, outcome, answered, moved⟩
  · have low := swept.mark_lt_lowest (same.symm.trans atMark)
    have lowest := swept.lowest
    omega
  · cases Option.some.inj (moved.symm.trans atMark)
    exact (swept.attempts row _ answered).2.2

/-- The mark never falls. -/
theorem mark_le (swept : Swept subject start latest next told catalog) {mark : UInt32}
    (atMark : start.mark subject = some mark) :
    ∃ now, catalog.mark subject = some now ∧ mark.toNat ≤ now.toNat := by
  rcases swept.mark with same | ⟨row, outcome, answered, moved⟩
  · exact ⟨mark, same.trans atMark, Nat.le_refl _⟩
  · refine ⟨row.version, moved, ?_⟩
    have low := swept.mark_lt_lowest atMark
    have high := (swept.attempts row _ answered).2.1
    omega

/-- Rows are never lost or changed. -/
theorem row?_of_some (swept : Swept subject start latest next told catalog) {version : UInt32}
    {row : Snapshot} (stored : start.row? subject version = some row) :
    catalog.row? subject version = some row := by
  by_cases behind : lowestSwept (start.mark subject) latest.version ≤ version.toNat ∧
      version.toNat < next
  · cases swept.handled version behind.1 behind.2 with
    | absent _ same => rw [same, stored]
    | bodyless _ _ same => rw [same, stored]
    | refused _ _ _ same => rw [same, stored]
    | kept _ _ _ same => rw [same, stored, Option.getD_some]
  · rw [swept.others version (by omega), stored]

/-- Exchanges that neither reach the rows and the mark nor bring another latest version. -/
theorem append (swept : Swept subject start latest next told catalog)
    (unwritten : ∀ row answer, ¬Answered later (.put row) answer)
    (unheard : ∀ registered, ¬Heard later (.latest subject) (.answered registered))
    (rows : ∀ version, catalog'.row? subject version = catalog.row? subject version)
    (mark : catalog'.mark subject = catalog.mark subject) :
    Swept subject start latest next (told ++ later) catalog' where
  read := swept.read.append later
  heard := swept.heard.append later
  only registered heard := swept.only registered
    ((heard_append.1 heard).resolve_right (unheard registered))
  ahead := swept.ahead
  lowest := swept.lowest
  handled version low high := by
    rw [rows]
    exact (swept.handled version low high).append later
  others version outside := (rows version).trans (swept.others version outside)
  attempts row answer answered := swept.attempts row answer
    ((answered_append.1 answered).resolve_right (unwritten row answer))
  refused row error answered := (rows row.version).trans (swept.refused row error
    ((answered_append.1 answered).resolve_right (unwritten row _)))
  written row outcome answered := by
    rw [mark]
    exact swept.written row outcome
      ((answered_append.1 answered).resolve_right (unwritten row _))
  mark := by
    rw [mark]
    refine swept.mark.imp_right ?_
    rintro ⟨row, outcome, answered, moved⟩
    exact ⟨row, outcome, answered.append later, moved⟩

theorem chatter {call : Query} (swept : Swept subject start latest next told catalog)
    (chatter : Chatter call later) (other : call ≠ .latest subject) :
    Swept subject start latest next (told ++ later) catalog :=
  swept.append (fun _ _ => chatter.not_answered)
    (fun _ heard => other (chatter.eq_of_heard heard).symm) (fun _ => rfl) rfl

theorem report (swept : Swept subject start latest next told catalog) (event : Event) :
    Swept subject start latest next (told ++ [⟨.report event, ()⟩]) catalog :=
  swept.append (fun _ _ => not_answered_report) (fun _ => not_heard_report) (fun _ => rfl) rfl

/-- A request for the settings of the subject is neither an attempt at a row nor a call. -/
theorem update {around : Surroundings} {change : EntryUpdate} {answer : Except StoreError Bool}
    (swept : Swept subject start latest next told catalog)
    (gives : around.Gives told catalog (.store (.update subject change)) answer catalog') :
    Swept subject start latest next (told ++ [⟨.store (.update subject change), answer⟩])
      catalog' := by
  refine swept.append ?_ ?_ ?_ ?_
  · intro row given member
    cases List.mem_singleton.1 member
  · exact fun registered => not_heard_store
  · cases gives with
    | accepted => exact Catalog.row?_update catalog subject change
    | refused => exact fun _ => rfl
  · cases gives with
    | accepted => exact Catalog.mark_update catalog subject change
    | refused => rfl

/-- A sweep has to do with no shelf but that of its subject. -/
theorem congr {start' catalog' : Catalog} (swept : Swept subject start latest next told catalog)
    (before : start.shelf subject = start'.shelf subject)
    (after : catalog.shelf subject = catalog'.shelf subject) :
    Swept subject start' latest next told catalog' := by
  have startMark : start'.mark subject = start.mark subject := by
    rw [Catalog.mark_eq, Catalog.mark_eq, before]
  have mark : catalog'.mark subject = catalog.mark subject := by
    rw [Catalog.mark_eq, Catalog.mark_eq, after]
  have startRow (version : UInt32) : start'.row? subject version = start.row? subject version := by
    rw [Catalog.row?, Catalog.row?, before]
  have row (version : UInt32) : catalog'.row? subject version = catalog.row? subject version := by
    rw [Catalog.row?, Catalog.row?, after]
  refine
    { read := startMark ▸ swept.read
      heard := swept.heard
      only := swept.only
      ahead := startMark ▸ swept.ahead
      lowest := startMark ▸ swept.lowest
      handled := ?_
      others := ?_
      attempts := startMark ▸ swept.attempts
      refused := ?_
      written := mark ▸ swept.written
      mark := by rw [mark, startMark]; exact swept.mark }
  · intro version low high
    rw [startRow, row]
    exact swept.handled version (startMark ▸ low) high
  · intro version outside
    rw [startRow, row]
    exact swept.others version (startMark ▸ outside)
  · intro other error answered
    rw [startRow, row]
    exact swept.refused other error answered

/-- The sweep moves past a version whose row stays what it was. -/
theorem pass (swept : Swept subject start latest next told catalog) {version : UInt32}
    (atNext : version.toNat = next)
    (handled : Handled subject told version (start.row? subject version)
      (catalog.row? subject version)) :
    Swept subject start latest (next + 1) told catalog :=
  { swept with
    lowest := Nat.le_succ_of_le swept.lowest
    handled := by
      intro other low high
      by_cases same : other = version
      · exact same ▸ handled
      · have different : other.toNat ≠ version.toNat := fun h => same (UInt32.toNat_inj.1 h)
        exact swept.handled other low (by omega)
    others := fun other outside => swept.others other (by omega)
    attempts := by
      intro row answer answered
      obtain ⟨own, low, high⟩ := swept.attempts row answer answered
      exact ⟨own, low, by omega⟩ }

variable {version : UInt32} {registered : Registered} {row : Snapshot}

/-- The sweep moves past a version whose row was handed to the catalog, whatever the answer. -/
theorem attempt (swept : Swept subject start latest next told catalog)
    (atNext : version.toNat = next) (own : row.subject = subject) (number : row.version = version)
    {answer : Except StoreError PutOutcome}
    (handled : Handled subject (told ++ [⟨.store (.put row), answer⟩]) version
      (start.row? subject version) (catalog'.row? subject version))
    (others : ∀ other, other ≠ version → catalog'.row? subject other = catalog.row? subject other)
    (outcome : (∃ outcome, answer = .ok outcome ∧ catalog'.mark subject = some version) ∨
      ∃ error, answer = .error error ∧ catalog' = catalog) :
    Swept subject start latest (next + 1) (told ++ [⟨.store (.put row), answer⟩]) catalog' := by
  have lowest := swept.lowest
  have before (other : UInt32) (behind : other.toNat < next) : other ≠ version := by
    rintro rfl
    omega
  refine
    { read := swept.read.append _
      heard := swept.heard.append _
      only := ?_
      ahead := swept.ahead
      lowest := Nat.le_succ_of_le lowest
      handled := ?_
      others := ?_
      attempts := ?_
      refused := ?_
      written := ?_
      mark := ?_ }
  · intro registered heard
    exact swept.only registered ((heard_append.1 heard).resolve_right not_heard_store)
  · intro other low high
    by_cases equal : other = version
    · exact equal ▸ handled
    · have different : other.toNat ≠ version.toNat := fun h => equal (UInt32.toNat_inj.1 h)
      rw [others other equal]
      exact (swept.handled other low (by omega)).append _
  · intro other outside
    have different : other ≠ version := by
      rintro rfl
      omega
    rw [others other different]
    exact swept.others other (by omega)
  · intro other given answered
    rcases answered_append.1 answered with old | new
    · obtain ⟨ownOther, low, high⟩ := swept.attempts other given old
      exact ⟨ownOther, low, by omega⟩
    · cases List.mem_singleton.1 new
      rw [number]
      exact ⟨own, by omega, by omega⟩
  · intro other error answered
    rcases answered_append.1 answered with old | new
    · rw [others _ (before _ (swept.attempts other _ old).2.2)]
      exact swept.refused other error old
    · cases List.mem_singleton.1 new
      rcases outcome with ⟨_, same, _⟩ | ⟨_, _, rfl⟩
      · cases same
      · exact swept.others _ (.inr (by rw [number]; omega))
  · intro other done answered
    rcases outcome with ⟨_, same, moved⟩ | ⟨_, same, rfl⟩
    · refine ⟨version, moved, ?_⟩
      rcases answered_append.1 answered with old | new
      · have earlier := (swept.attempts other _ old).2.2
        omega
      · cases List.mem_singleton.1 new
        exact Nat.le_of_eq (congrArg UInt32.toNat number)
    · rcases answered_append.1 answered with old | new
      · exact swept.written other done old
      · cases List.mem_singleton.1 new
        cases same
  · rcases outcome with ⟨done, rfl, moved⟩ | ⟨_, _, rfl⟩
    · exact .inr ⟨row, done, answered_last told (.put row) _, by rw [moved, number]⟩
    · refine swept.mark.imp_right ?_
      rintro ⟨other, done, answered, moved⟩
      exact ⟨other, done, answered.append _, moved⟩

/-- A row that is refused leaves its version behind the sweep without a trace in the catalog. -/
theorem refuse (swept : Swept subject start latest next told catalog)
    (atNext : version.toNat = next) (obtained : Obtained subject told version registered)
    (built : Snapshot.ofRegistered? subject version registered = some row) (error : StoreError) :
    Swept subject start latest (next + 1) (told ++ [⟨.store (.put row), .error error⟩]) catalog := by
  obtain ⟨own, number⟩ := Snapshot.ofRegistered?_subject built
  refine swept.attempt atNext own number ?_ (fun _ _ => rfl) (.inr ⟨error, rfl, rfl⟩)
  exact .refused (obtained.append _) built (answered_last told (.put row) _)
    (swept.others version (.inr (by omega)))

/-- A row that is taken raises the mark to its version. -/
theorem keep (swept : Swept subject start latest next told catalog)
    (atNext : version.toNat = next) (obtained : Obtained subject told version registered)
    (built : Snapshot.ofRegistered? subject version registered = some row) :
    Swept subject start latest (next + 1)
      (told ++ [⟨.store (.put row), .ok (catalog.perform (.put row)).1⟩])
      (catalog.perform (.put row)).2 := by
  obtain ⟨own, number⟩ := Snapshot.ofRegistered?_subject built
  have rows (other : UInt32) : (catalog.perform (.put row)).2.row? subject other =
      if other = version then some ((catalog.row? subject other).getD row)
      else catalog.row? subject other := by
    subst own number
    simp only [Catalog.row?, Catalog.perform, Catalog.put, Catalog.shelf_setShelf_self]
    exact Shelf.find?_put _ _ _
  have mark : (catalog.perform (.put row)).2.mark subject = some version := by
    subst own number
    rw [Catalog.mark_eq]
    simp only [Catalog.perform, Catalog.put, Catalog.shelf_setShelf_self]
    rw [Shelf.mark_put, ← Catalog.mark_eq]
    cases atMark : catalog.mark row.subject with
    | none => rfl
    | some mark =>
      have behind := swept.mark_lt_next atMark
      have below : mark ≤ row.version := UInt32.le_iff_toNat_le.2 (by omega)
      simp only [Max.max, below, if_true]
  refine swept.attempt atNext own number ?_ (fun other different => ?_) (.inl ⟨_, rfl, mark⟩)
  · refine .kept (obtained.append _) built (answered_last told (.put row) _) ?_
    rw [rows, if_pos rfl, swept.others version (.inr (by omega))]
  · rw [rows, if_neg different]

theorem put {around : Surroundings} {answer : Except StoreError PutOutcome}
    (swept : Swept subject start latest next told catalog) (atNext : version.toNat = next)
    (obtained : Obtained subject told version registered)
    (built : Snapshot.ofRegistered? subject version registered = some row)
    (gives : around.Gives told catalog (.store (.put row)) answer catalog') :
    Swept subject start latest (next + 1) (told ++ [⟨.store (.put row), answer⟩]) catalog' := by
  cases gives with
  | accepted => exact swept.keep atNext obtained built
  | refused => exact swept.refuse atNext obtained built _

end Swept

end SchemaLedger
