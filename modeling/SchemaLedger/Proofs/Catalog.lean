import SchemaLedger.Catalog.Catalog
import SchemaLedger.Proofs.Table

namespace SchemaLedger

/-- The subject that a request is about, if it is about one. -/
def Request.subject? : Request → Option String
  | .mark subject => some subject
  | .put row => some row.subject
  | .update subject _ => some subject
  | .entry subject => some subject
  | .snapshot subject _ => some subject
  | .versions subject => some subject
  | .attach artifact => some artifact.subject
  | .annotate remark => some remark.subject
  | .known => none
  | .count _ => none
  | .remove _ => none
  | .entries => none

/-- The subject whose entry and versions a request reads or fills in, if it does no more than
that. -/
def Request.fills? : Request → Option String
  | .mark subject => some subject
  | .put row => some row.subject
  | .update subject _ => some subject
  | .entry subject => some subject
  | .snapshot subject _ => some subject
  | .versions subject => some subject
  | .attach _ => none
  | .annotate _ => none
  | .known => none
  | .count _ => none
  | .remove _ => none
  | .entries => none

theorem Request.subject?_of_fills? {request : Request} {subject : String}
    (fills : request.fills? = some subject) : request.subject? = some subject := by
  cases request <;> first | exact fills | cases fills

/-- Reading requests leave every catalog as it is. -/
def Request.reads : Request → Bool
  | .put _ => false
  | .update _ _ => false
  | .remove _ => false
  | .attach _ => false
  | .annotate _ => false
  | _ => true

namespace Shelf

/-- The highest version of the subject, as its entry has it. -/
def mark (shelf : Shelf) : Option UInt32 := shelf.entry.bind (·.mark)

theorem mark_put (shelf : Shelf) (row : Snapshot) :
    (shelf.put row).2.mark =
      some (match shelf.mark with
        | none => row.version
        | some mark => max mark row.version) := by
  unfold put
  cases atEntry : shelf.entry with
  | none => split <;> simp [mark, atEntry, Entry.fresh]
  | some entry => cases marked : entry.mark <;> split <;> simp [mark, atEntry, marked]

/-- A version that is there stays as it is, and no other version changes. -/
theorem find?_put (shelf : Shelf) (row : Snapshot) (version : UInt32) :
    (shelf.put row).2.versions.find? version =
      if version = row.version then some ((shelf.versions.find? version).getD row)
      else shelf.versions.find? version := by
  unfold put
  split
  · rename_i present
    split
    · rename_i same
      subst same
      obtain ⟨old, found⟩ := Option.isSome_iff_exists.1 present
      simp only [found, Option.getD_some]
    · rfl
  · rename_i absent
    split
    · rename_i same
      subst same
      rw [Table.find?_insert_self]
      have missing : shelf.versions.find? row.version = none := by
        simpa [Table.contains] using absent
      rw [missing, Option.getD_none]
    · rename_i different
      exact Table.find?_insert_of_ne _ _ different

/-- What is kept after a put was kept before, or is what was put. -/
theorem find?_put_cases {shelf : Shelf} {row other : Snapshot} {version : UInt32}
    (found : (shelf.put row).2.versions.find? version = some other) :
    (version = row.version ∧ other = row) ∨ shelf.versions.find? version = some other := by
  rw [find?_put] at found
  split at found
  · rename_i same
    subst same
    cases old : shelf.versions.find? row.version with
    | none =>
      rw [old] at found
      exact .inl ⟨rfl, (Option.some.inj found).symm⟩
    | some before =>
      rw [old] at found
      exact .inr found
  · exact .inr found

theorem isSome_find?_put {shelf : Shelf} {row : Snapshot} {version : UInt32} :
    ((shelf.put row).2.versions.find? version).isSome ↔
      version = row.version ∨ (shelf.versions.find? version).isSome := by
  rw [find?_put]
  by_cases same : version = row.version
  · simp [same]
  · simp [same]

/-- A put moves the mark to its version or leaves it. -/
theorem mark_put_cases {shelf : Shelf} {row : Snapshot} {mark : UInt32}
    (moved : (shelf.put row).2.mark = some mark) : mark = row.version ∨ shelf.mark = some mark := by
  rw [mark_put] at moved
  cases old : shelf.mark with
  | none =>
    rw [old] at moved
    exact .inl (Option.some.inj moved).symm
  | some before =>
    rw [old] at moved
    have highest : max before row.version = mark := Option.some.inj moved
    simp only [Max.max] at highest
    split at highest
    · exact .inl highest.symm
    · exact .inr (congrArg some highest)

/-- After a put the mark is neither below its version nor below the mark before. -/
theorem le_mark_put (shelf : Shelf) (row : Snapshot) : ∃ mark, (shelf.put row).2.mark = some mark ∧
    row.version ≤ mark ∧ ∀ before, shelf.mark = some before → before ≤ mark := by
  refine ⟨_, shelf.mark_put row, ?_⟩
  cases shelf.mark with
  | none => exact ⟨UInt32.le_refl _, nofun⟩
  | some before =>
    have high : row.version ≤ max before row.version ∧ before ≤ max before row.version := by
      simp only [Max.max, UInt32.le_iff_toNat_le]
      split <;> omega
    exact ⟨high.1, fun other same => Option.some.inj same ▸ high.2⟩

theorem artifacts_put (shelf : Shelf) (row : Snapshot) :
    (shelf.put row).2.artifacts = shelf.artifacts := by
  unfold put
  split <;> rfl

theorem remarks_put (shelf : Shelf) (row : Snapshot) :
    (shelf.put row).2.remarks = shelf.remarks := by
  unfold put
  split <;> rfl

theorem put_fst (shelf : Shelf) (row : Snapshot) :
    (shelf.put row).1 =
      if (shelf.versions.find? row.version).isSome then .alreadyPresent else .inserted := by
  have inTable : (shelf.versions.find? row.version).isSome =
      shelf.versions.contains row.version := rfl
  rw [inTable]
  unfold put
  cases shelf.versions.contains row.version <;> rfl

theorem subject_put {shelf : Shelf} {row : Snapshot} {entry : Entry}
    (atEntry : (shelf.put row).2.entry = some entry) :
    entry.subject = ((shelf.entry.map (·.subject)).getD row.subject) := by
  unfold put at atEntry
  cases old : shelf.entry with
  | none => split at atEntry <;> simp [old, Entry.fresh] at atEntry <;> simp [← atEntry]
  | some before => split at atEntry <;> simp [old] at atEntry <;> simp [← atEntry]

end Shelf

namespace Catalog

variable {catalog : Catalog} {subject other : String}

/-- The stored row of a version. -/
def row? (catalog : Catalog) (subject : String) (version : UInt32) : Option Snapshot :=
  (catalog.shelf subject).versions.find? version

theorem mark_eq (catalog : Catalog) (subject : String) :
    catalog.mark subject = (catalog.shelf subject).mark := rfl

@[simp]
theorem shelf_setShelf_self (catalog : Catalog) (subject : String) (shelf : Shelf) :
    (catalog.setShelf subject shelf).shelf subject = shelf := by
  simp [Catalog.shelf, setShelf]

theorem shelf_setShelf_of_ne (shelf : Shelf) (different : other ≠ subject) :
    (catalog.setShelf subject shelf).shelf other = catalog.shelf other := by
  simp [Catalog.shelf, setShelf, Table.find?_insert_of_ne _ _ different]

theorem shelf_remove (catalog : Catalog) (names : Names) (subject : String) :
    (catalog.remove names).2.shelf subject =
      if Table.contains names subject then Shelf.empty else catalog.shelf subject := by
  simp only [remove, Catalog.shelf, Table.find?_restrict]
  cases Table.contains names subject <;> rfl

/-- A removal of no subjects does nothing and counts nothing. -/
theorem remove_empty (catalog : Catalog) : catalog.remove .empty = (.zero, catalog) := by
  have none (subject : String) : Table.contains (.empty : Names) subject = false := rfl
  have counted : catalog.count .empty = .zero := by
    have nothing : (catalog.shelves.restrict fun s => Table.contains (.empty : Names) s).entries =
        [] := List.filter_eq_nil_iff.2 fun e _ => by simp [none]
    unfold count
    rw [nothing]
    rfl
  have shelves : catalog.shelves.restrict (fun s => !Table.contains (.empty : Names) s) =
      catalog.shelves := Table.eq_of_find? fun subject => by
    rw [Table.find?_restrict, none, Bool.not_false, if_pos rfl]
  rw [remove, counted, shelves]

theorem update_of_entry {entry : Entry} (atEntry : (catalog.shelf subject).entry = some entry)
    (change : EntryUpdate) :
    catalog.update subject change =
      (true, catalog.setShelf subject
        { catalog.shelf subject with entry := some (change.apply entry) }) := by
  simp only [update, atEntry]

theorem update_of_none (atEntry : (catalog.shelf subject).entry = none) (change : EntryUpdate) :
    catalog.update subject change = (false, catalog) := by
  simp only [update, atEntry]

theorem update_fst (catalog : Catalog) (subject : String) (change : EntryUpdate) :
    (catalog.update subject change).1 = (catalog.shelf subject).entry.isSome := by
  cases atEntry : (catalog.shelf subject).entry with
  | none => rw [update_of_none atEntry, Option.isSome_none]
  | some entry => rw [update_of_entry atEntry, Option.isSome_some]

theorem update_snd (catalog : Catalog) (subject : String) (change : EntryUpdate) :
    (catalog.update subject change).2.shelf subject =
      { catalog.shelf subject with
        entry := (catalog.shelf subject).entry.map change.apply } := by
  cases atEntry : (catalog.shelf subject).entry with
  | none =>
    rw [update_of_none atEntry, Option.map_none, ← atEntry]
  | some entry =>
    rw [update_of_entry atEntry, shelf_setShelf_self, Option.map_some]

theorem row?_setShelf (catalog : Catalog) (name subject : String) (shelf : Shelf)
    (version : UInt32) : (catalog.setShelf name shelf).row? subject version =
      if subject = name then shelf.versions.find? version else catalog.row? subject version := by
  by_cases same : subject = name
  · rw [if_pos same, same, row?, shelf_setShelf_self]
  · rw [if_neg same, row?, shelf_setShelf_of_ne shelf same, row?]

/-- Settings of an entry have nothing to do with the versions and the mark. -/
theorem row?_update (catalog : Catalog) (subject : String) (change : EntryUpdate)
    (version : UInt32) :
    (catalog.update subject change).2.row? subject version = catalog.row? subject version := by
  rw [row?, update_snd]
  rfl

theorem mark_update (catalog : Catalog) (subject : String) (change : EntryUpdate) :
    (catalog.update subject change).2.mark subject = catalog.mark subject := by
  rw [mark_eq, mark_eq, update_snd, Shelf.mark, Shelf.mark, Option.bind_map]
  rfl

/-- A request about one subject leaves the shelves of all others alone. -/
theorem shelf_perform_of_ne {request : Request} (about : request.subject? = some subject)
    (different : other ≠ subject) :
    (catalog.perform request).2.shelf other = catalog.shelf other := by
  cases request with
  | mark | entry | snapshot | versions => rfl
  | known | count | remove | entries => simp [Request.subject?] at about
  | put row =>
    cases Option.some.inj about
    exact shelf_setShelf_of_ne _ different
  | update name change =>
    cases Option.some.inj about
    simp only [perform, update]
    split
    · rfl
    · exact shelf_setShelf_of_ne _ different
  | attach artifact =>
    cases Option.some.inj about
    exact shelf_setShelf_of_ne _ different
  | annotate remark =>
    cases Option.some.inj about
    exact shelf_setShelf_of_ne _ different

/-- What a request about one subject does and answers is settled by the shelf of that subject. -/
theorem perform_local {a b : Catalog} {request : Request}
    (about : request.subject? = some subject) (same : a.shelf subject = b.shelf subject) :
    (a.perform request).1 = (b.perform request).1 ∧
      (a.perform request).2.shelf subject = (b.perform request).2.shelf subject := by
  cases request with
  | known | count | remove | entries => simp [Request.subject?] at about
  | mark | entry | snapshot | versions =>
    cases Option.some.inj about
    simp [perform, mark, same]
  | put row =>
    cases Option.some.inj about
    simp [perform, put, same]
  | update name change =>
    cases Option.some.inj about
    simp [perform, update_fst, update_snd, same]
  | attach artifact =>
    cases Option.some.inj about
    simp [perform, attach, same]
  | annotate remark =>
    cases Option.some.inj about
    simp [perform, annotate, same]

/-- Rows that are there after a request were there before, except the one that it puts. -/
theorem row?_perform_cases {request : Request} {version : UInt32} {row : Snapshot}
    (stored : (catalog.perform request).2.row? subject version = some row) :
    catalog.row? subject version = some row ∨ request = .put row := by
  cases request with
  | mark | known | count | entry | entries | snapshot | versions => exact .inl stored
  | put snapshot =>
    rw [perform, put, row?_setShelf] at stored
    split at stored
    · rename_i same
      subst same
      rcases Shelf.find?_put_cases stored with ⟨-, rfl⟩ | before
      · exact .inr rfl
      · exact .inl before
    · exact .inl stored
  | update name change =>
    by_cases same : subject = name
    · subst same
      exact .inl ((row?_update catalog subject change version).symm.trans stored)
    · rw [row?, shelf_perform_of_ne rfl same] at stored
      exact .inl stored
  | remove names =>
    rw [perform, row?, shelf_remove] at stored
    split at stored
    · cases stored
    · exact .inl stored
  | attach artifact | annotate remark =>
    have moved := (row?_setShelf _ _ _ _ _).symm.trans stored
    split at moved
    · rename_i same
      exact .inl (same ▸ moved)
    · exact .inl moved

end Catalog

end SchemaLedger
