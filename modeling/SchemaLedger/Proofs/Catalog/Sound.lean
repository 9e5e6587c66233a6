import SchemaLedger.Proofs.Catalog

namespace SchemaLedger

/-- A shelf with a row on it. -/
def Shelf.Occupied (shelf : Shelf) : Prop :=
  shelf.entry.isSome ∨ shelf.artifacts ≠ [] ∨ shelf.remarks.entries ≠ []

/-- The rows of a subject belong to each other. -/
structure Shelf.Sound (subject : String) (shelf : Shelf) : Prop where
  own : ∀ entry, shelf.entry = some entry → entry.subject = subject
  reached : ∀ entry, shelf.entry = some entry →
    ∃ mark, entry.mark = some mark ∧ (shelf.versions.find? mark).isSome
  marked : ∀ version row, shelf.versions.find? version = some row →
    ∃ mark, shelf.mark = some mark ∧ version ≤ mark
  placed : ∀ version row, shelf.versions.find? version = some row →
    row.subject = subject ∧ row.version = version
  artifacts : ∀ artifact ∈ shelf.artifacts, artifact.subject = subject
  remarks : ∀ key remark, shelf.remarks.find? key = some remark →
    remark.subject = subject ∧ remark.key = key

structure Catalog.Sound (catalog : Catalog) : Prop where
  shelves : ∀ subject, (catalog.shelf subject).Sound subject
  occupied : ∀ subject shelf, catalog.shelves.find? subject = some shelf → shelf.Occupied

namespace Shelf

variable {subject : String} {shelf : Shelf}

theorem sound_empty : Shelf.empty.Sound subject where
  own _ none := nomatch none
  reached _ none := nomatch none
  marked _ _ none := nomatch none
  placed _ _ none := nomatch none
  artifacts _ member := nomatch member
  remarks _ _ none := nomatch none

/-- A subject has an entry as long as it has a version. -/
theorem Sound.entry_isSome_iff (sound : shelf.Sound subject) :
    shelf.entry.isSome ↔ shelf.versions.keys ≠ [] := by
  constructor
  · intro entered none
    obtain ⟨entry, atEntry⟩ := Option.isSome_iff_exists.1 entered
    obtain ⟨mark, -, stored⟩ := sound.reached entry atEntry
    have member := Table.mem_keys_iff.2 stored
    rw [none] at member
    cases member
  · intro some
    obtain ⟨version, member⟩ := List.exists_mem_of_ne_nil _ some
    obtain ⟨row, found⟩ := Option.isSome_iff_exists.1 (Table.mem_keys_iff.1 member)
    obtain ⟨mark, atMark, -⟩ := sound.marked version row found
    obtain ⟨entry, atEntry, -⟩ := Option.bind_eq_some_iff.1 atMark
    rw [atEntry]
    rfl

/-- An entry has a mark. -/
theorem Sound.mark_isSome (sound : shelf.Sound subject) :
    shelf.mark.isSome = shelf.entry.isSome := by
  unfold Shelf.mark
  cases atEntry : shelf.entry with
  | none => rfl
  | some entry =>
    obtain ⟨mark, isMark, -⟩ := sound.reached entry atEntry
    rw [Option.bind_some, isMark]
    rfl

/-- The mark is the last of the versions in ascending order. -/
theorem Sound.getLast?_keys (sound : shelf.Sound subject) :
    shelf.versions.keys.getLast? = shelf.mark := by
  rw [Table.keys, List.getLast?_map]
  cases last : shelf.versions.entries.getLast? with
  | none =>
    have empty : shelf.versions.keys = [] := congrArg (List.map _) (List.getLast?_eq_none_iff.1 last)
    have unmarked : ¬shelf.mark.isSome := by
      rw [sound.mark_isSome, sound.entry_isSome_iff]
      exact absurd empty
    exact (Option.not_isSome_iff_eq_none.1 unmarked).symm
  | some entry =>
    obtain ⟨found, greatest⟩ := Table.find?_of_getLast? last
    obtain ⟨mark, atMark, reaches⟩ := sound.marked entry.1 entry.2 found
    obtain ⟨own, atEntry, isMark⟩ := Option.bind_eq_some_iff.1 atMark
    obtain ⟨number, isNumber, stored⟩ := sound.reached own atEntry
    cases Option.some.inj (isMark.symm.trans isNumber)
    have below : mark ≤ entry.1 := (greatest mark stored).elim (fun same => same ▸ UInt32.le_refl _)
      UInt32.le_of_lt
    rw [atMark, UInt32.le_antisymm below reaches]
    rfl

theorem put_entry (shelf : Shelf) (row : Snapshot) : ∃ entry mark,
    (shelf.put row).2.entry = some entry ∧ entry.mark = some mark ∧
      (shelf.put row).2.mark = some mark := by
  unfold put
  split <;> exact ⟨_, _, rfl, rfl, rfl⟩

theorem occupied_put (shelf : Shelf) (row : Snapshot) : (shelf.put row).2.Occupied := by
  obtain ⟨entry, _, atEntry, _⟩ := shelf.put_entry row
  exact .inl (by rw [atEntry]; rfl)

theorem Sound.put {row : Snapshot} (sound : shelf.Sound row.subject) :
    (shelf.put row).2.Sound row.subject where
  own entry atEntry := by
    rw [subject_put atEntry]
    cases old : shelf.entry with
    | none => rfl
    | some before => exact sound.own before old
  reached entry atEntry := by
    obtain ⟨other, mark, atOther, isMark, moved⟩ := shelf.put_entry row
    cases Option.some.inj (atEntry.symm.trans atOther)
    refine ⟨mark, isMark, isSome_find?_put.2 ((mark_put_cases moved).imp_right fun same => ?_)⟩
    obtain ⟨first, atFirst, firstMark⟩ := Option.bind_eq_some_iff.1 same
    obtain ⟨number, isNumber, found⟩ := sound.reached first atFirst
    cases Option.some.inj (firstMark.symm.trans isNumber)
    exact found
  marked version other found := by
    obtain ⟨mark, atMark, reaches, rises⟩ := shelf.le_mark_put row
    refine ⟨mark, atMark, ?_⟩
    rcases find?_put_cases found with ⟨rfl, -⟩ | old
    · exact reaches
    · obtain ⟨before, wasMark, low⟩ := sound.marked version other old
      exact UInt32.le_trans low (rises before wasMark)
  placed version other found := by
    rcases find?_put_cases found with ⟨rfl, rfl⟩ | old
    · exact ⟨rfl, rfl⟩
    · exact sound.placed version other old
  artifacts artifact member := by
    rw [artifacts_put] at member
    exact sound.artifacts artifact member
  remarks key remark found := by
    rw [remarks_put] at found
    exact sound.remarks key remark found

theorem Sound.update (sound : shelf.Sound subject) (change : EntryUpdate) :
    { shelf with entry := shelf.entry.map change.apply }.Sound subject where
  own entry atEntry := by
    obtain ⟨before, old, rfl⟩ := Option.map_eq_some_iff.1 atEntry
    exact sound.own before old
  reached entry atEntry := by
    obtain ⟨before, old, rfl⟩ := Option.map_eq_some_iff.1 atEntry
    exact sound.reached before old
  marked version row found := by
    obtain ⟨mark, atMark, below⟩ := sound.marked version row found
    refine ⟨mark, ?_, below⟩
    rw [← atMark, Shelf.mark, Shelf.mark, Option.bind_map]
    rfl
  placed := sound.placed
  artifacts := sound.artifacts
  remarks := sound.remarks

theorem Sound.attach {artifact : Artifact} (sound : shelf.Sound artifact.subject) :
    { shelf with artifacts := shelf.artifacts ++ [artifact] }.Sound artifact.subject :=
  { sound with
    artifacts := by
      intro other member
      rcases List.mem_append.1 member with old | new
      · exact sound.artifacts other old
      · cases List.mem_singleton.1 new
        rfl }

theorem Sound.annotate {remark : Remark} (sound : shelf.Sound remark.subject) :
    { shelf with remarks := shelf.remarks.insert remark.key remark }.Sound remark.subject :=
  { sound with
    remarks := by
      intro key other found
      by_cases same : key = remark.key
      · subst same
        rw [Table.find?_insert_self] at found
        cases found
        exact ⟨rfl, rfl⟩
      · rw [Table.find?_insert_of_ne _ _ same] at found
        exact sound.remarks key other found }

end Shelf

namespace Catalog

variable {catalog : Catalog}

theorem sound_empty : empty.Sound :=
  ⟨fun _ => Shelf.sound_empty, fun _ _ none => nomatch none⟩

theorem Sound.of_find? {subject : String} {shelf : Shelf} (sound : catalog.Sound)
    (found : catalog.shelves.find? subject = some shelf) : shelf.Sound subject := by
  have onShelf := sound.shelves subject
  rwa [Catalog.shelf, found, Option.getD_some] at onShelf

theorem Sound.setShelf {subject : String} {shelf : Shelf} (sound : catalog.Sound)
    (own : shelf.Sound subject) (occupied : shelf.Occupied) :
    (catalog.setShelf subject shelf).Sound where
  shelves other := by
    by_cases same : other = subject
    · subst same
      rw [shelf_setShelf_self]
      exact own
    · rw [shelf_setShelf_of_ne _ same]
      exact sound.shelves other
  occupied other shelf' found := by
    by_cases same : other = subject
    · subst same
      rw [Catalog.setShelf, Table.find?_insert_self] at found
      cases found
      exact occupied
    · rw [Catalog.setShelf, Table.find?_insert_of_ne _ _ same] at found
      exact sound.occupied other shelf' found

theorem Sound.remove (sound : catalog.Sound) (names : Names) : (catalog.remove names).2.Sound where
  shelves subject := by
    rw [shelf_remove]
    split
    · exact Shelf.sound_empty
    · exact sound.shelves subject
  occupied subject shelf found := by
    simp only [Catalog.remove, Table.find?_restrict] at found
    split at found
    · exact sound.occupied subject shelf found
    · cases found

/-- No request brings a catalog out of order. -/
theorem Sound.perform (sound : catalog.Sound) (request : Request) :
    (catalog.perform request).2.Sound := by
  cases request with
  | mark | known | count | entry | entries | snapshot | versions => exact sound
  | put row => exact sound.setShelf (sound.shelves row.subject).put (Shelf.occupied_put _ _)
  | update subject change =>
    cases atEntry : (catalog.shelf subject).entry with
    | none =>
      simp only [Catalog.perform, update_of_none atEntry]
      exact sound
    | some entry =>
      have changed := (sound.shelves subject).update change
      rw [atEntry] at changed
      simp only [Catalog.perform, update_of_entry atEntry]
      exact sound.setShelf changed (.inl rfl)
  | remove names => exact sound.remove names
  | attach artifact =>
    refine sound.setShelf (sound.shelves artifact.subject).attach (.inr (.inl ?_))
    exact List.append_ne_nil_of_right_ne_nil _ (List.cons_ne_nil _ _)
  | annotate remark =>
    refine sound.setShelf (sound.shelves remark.subject).annotate (.inr (.inr ?_))
    intro none
    have found := Table.find?_insert_self (catalog.shelf remark.subject).remarks remark.key remark
    rw [Table.find?, none] at found
    cases found

/-- The shelves that are there are those with a row on them. -/
theorem Sound.find?_eq_some_iff {subject : String} {shelf : Shelf} (sound : catalog.Sound) :
    catalog.shelves.find? subject = some shelf ↔
      catalog.shelf subject = shelf ∧ shelf.Occupied := by
  constructor
  · intro found
    exact ⟨by rw [Catalog.shelf, found, Option.getD_some], sound.occupied subject shelf found⟩
  · rintro ⟨rfl, occupied⟩
    cases found : catalog.shelves.find? subject with
    | some shelf => rw [Catalog.shelf, found, Option.getD_some]
    | none =>
      rw [Catalog.shelf, found, Option.getD_none] at occupied
      rcases occupied with entry | artifacts | remarks
      · cases entry
      · exact absurd rfl artifacts
      · exact absurd rfl remarks

theorem Sound.contains_known {subject : String} (sound : catalog.Sound) :
    Table.contains catalog.known subject = true ↔ (catalog.shelf subject).Occupied := by
  rw [Catalog.known, Names.contains_ofList, Table.mem_keys_iff, Option.isSome_iff_exists]
  simp only [sound.find?_eq_some_iff, exists_eq_left']

theorem Sound.eq_of_shelves {a b : Catalog} (first : a.Sound) (second : b.Sound)
    (same : ∀ subject, a.shelf subject = b.shelf subject) : a = b := by
  have tables : a.shelves = b.shelves := Table.eq_of_find? fun subject => Option.ext fun shelf => by
    rw [first.find?_eq_some_iff, second.find?_eq_some_iff, same]
  exact congrArg Catalog.mk tables

section Rows

variable {a b : Catalog} {subject : String}

theorem le_mark_of_row? (sound : (a.shelf subject).Sound subject) {version : UInt32} {row : Snapshot}
    (stored : a.row? subject version = some row) :
    ∃ mark, a.mark subject = some mark ∧ version ≤ mark :=
  sound.marked version row stored

theorem row?_mark (sound : (a.shelf subject).Sound subject) {mark : UInt32}
    (atMark : a.mark subject = some mark) : ∃ row, a.row? subject mark = some row := by
  obtain ⟨entry, atEntry, isMark⟩ := Option.bind_eq_some_iff.1 atMark
  obtain ⟨number, isNumber, stored⟩ := sound.reached entry atEntry
  cases Option.some.inj (isMark.symm.trans isNumber)
  exact Option.isSome_iff_exists.1 stored

theorem row?_above (sound : (a.shelf subject).Sound subject) {version : UInt32}
    (above : ∀ mark, a.mark subject = some mark → mark < version) :
    a.row? subject version = none := by
  cases stored : a.row? subject version with
  | none => rfl
  | some row =>
    obtain ⟨mark, atMark, reaches⟩ := le_mark_of_row? sound stored
    exact absurd reaches (UInt32.not_le.2 (above mark atMark))

/-- The rows of a subject settle its mark. -/
theorem mark_eq_of_rows (first : (a.shelf subject).Sound subject)
    (second : (b.shelf subject).Sound subject)
    (rows : ∀ version, a.row? subject version = b.row? subject version) :
    a.mark subject = b.mark subject := by
  cases atA : a.mark subject with
  | none =>
    cases atB : b.mark subject with
    | none => rfl
    | some mark =>
      obtain ⟨row, stored⟩ := row?_mark second atB
      obtain ⟨number, atNumber, -⟩ := le_mark_of_row? first ((rows mark).trans stored)
      cases atA.symm.trans atNumber
  | some mark =>
    obtain ⟨row, stored⟩ := row?_mark first atA
    obtain ⟨number, atNumber, low⟩ := le_mark_of_row? second ((rows mark).symm.trans stored)
    obtain ⟨row', stored'⟩ := row?_mark second atNumber
    obtain ⟨mark', atMark, high⟩ := le_mark_of_row? first ((rows number).trans stored')
    cases Option.some.inj (atA.symm.trans atMark)
    rw [atNumber, UInt32.le_antisymm low high]

end Rows

end Catalog

end SchemaLedger
