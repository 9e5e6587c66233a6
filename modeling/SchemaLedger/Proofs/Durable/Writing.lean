import SchemaLedger.Proofs.Durable.Mirrors

namespace SchemaLedger

section Lists

variable {α : Type} {rows : List α} {same : α → Bool} {old : Option α}

theorem any_eq_of_filter (found : rows.filter same = old.toList) : rows.any same = old.isSome := by
  cases old with
  | none => simpa [List.filter_eq_nil_iff] using found
  | some row =>
    have member : row ∈ rows.filter same := by simp [found]
    exact List.any_eq_true.2 ⟨row, List.mem_filter.1 member⟩

/-- A change of one row, if it is there. -/
theorem map_perm_of_filter (found : rows.filter same = old.toList) (change : α → α) :
    (rows.map fun r => if same r then change r else r).Perm
      ((old.map change).toList ++ rows.filter fun r => !same r) := by
  have chosen : (rows.filter same).map (fun r => if same r then change r else r) =
      (rows.filter same).map change :=
    List.map_congr_left fun r member => if_pos (List.mem_filter.1 member).2
  have others : (rows.filter fun r => !same r).map (fun r => if same r then change r else r) =
      (rows.filter fun r => !same r).map id :=
    List.map_congr_left fun r member => if_neg (by simpa using (List.mem_filter.1 member).2)
  have split := (List.filter_append_perm same rows).symm.map fun r =>
    if same r then change r else r
  rw [List.map_append, chosen, others, List.map_id, found] at split
  cases old with
  | none => exact split
  | some row => exact split

theorem append_perm_of_filter (missing : rows.filter same = []) (fresh : α) :
    (rows ++ [fresh]).Perm (fresh :: rows.filter fun r => !same r) := by
  have all : (rows.filter fun r => !same r) = rows :=
    List.filter_eq_self.2 fun r member => by
      simpa using List.filter_eq_nil_iff.1 missing r member
  rw [all]
  exact List.perm_append_singleton _ _

/-- A change of one row, or a new row where it is not there. -/
def upserted (same : α → Bool) (change : α → α) (fresh : α) (rows : List α) : List α :=
  if rows.any same then rows.map fun r => if same r then change r else r else rows ++ [fresh]

theorem upserted_perm (found : rows.filter same = old.toList) (change : α → α) (fresh : α) :
    (upserted same change fresh rows).Perm
      (old.elim fresh change :: rows.filter fun r => !same r) := by
  rw [upserted, any_eq_of_filter found]
  cases old with
  | none => exact append_perm_of_filter found fresh
  | some row => exact map_perm_of_filter found change

end Lists

namespace Drawer.Holds

variable {ρ : Type} {drawer : Drawer ρ} {catalog : Catalog} {table : Stored ρ} {name : String}
  {shelf : Shelf}

/-- One row of a table and of a shelf takes the place of the rows that are the same in some way. -/
theorem write {same : ρ → Bool} {row : ρ} {rows : List ρ} (holds : drawer.Holds catalog table)
    (sound : catalog.Sound) (after : (catalog.setShelf name shelf).Sound)
    (about : ∀ row, same row = true → drawer.subject row = .text name)
    (onShelf : (drawer.rows shelf).Perm
      (row :: (drawer.rows (catalog.shelf name)).filter fun r => !same r))
    (written : rows.Perm (row :: table.rows.filter fun r => !same r)) :
    drawer.Holds (catalog.setShelf name shelf) (.held rows) where
  held := rfl
  same := (written.trans (.cons row (holds.same.filter _))).trans
    (all_setShelf_of_perm sound after about onShelf).symm

/-- A table in which a shelf has the rows that it had before is left as it is. -/
theorem leave (holds : drawer.Holds catalog table) (sound : catalog.Sound)
    (after : (catalog.setShelf name shelf).Sound)
    (onShelf : drawer.rows shelf = drawer.rows (catalog.shelf name)) :
    drawer.Holds (catalog.setShelf name shelf) table where
  held := holds.held
  same := holds.same.trans (all_setShelf_of_eq sound after onShelf).symm

theorem keep (holds : drawer.Holds catalog table) (sound : catalog.Sound) (names : Names) :
    drawer.Holds (catalog.remove names).2
      (table.keep fun row => !(drawer.subject row).names names.toList) where
  held := by
    rw [holds.held]
    rfl
  same := by
    have agree : ∀ name row, drawer.subject row = .text name →
        (!(drawer.subject row).names names.toList) = !Table.contains names name :=
      fun name row isName => congrArg not (Cell.names_toList names name row isName)
    rw [Catalog.remove, all_restrict sound agree, holds.held]
    exact holds.same.filter _

end Drawer.Holds

theorem Cell.greater_ofWord (a b : UInt32) : (ofWord a).greater (ofWord b) = .ofWord (max a b) := by
  rw [greater, less_ofWord]
  simp only [Max.max, decide_eq_true_eq]
  by_cases below : a < b
  · rw [if_pos below, if_pos (UInt32.le_of_lt below)]
  · rw [if_neg below]
    split
    · rename_i reaches
      rw [UInt32.le_antisymm reaches (UInt32.not_lt.1 below)]
    · rfl

/-- The entry after a version has been put: a new one, or the old one with its mark raised. -/
theorem Shelf.rows_put {shelf : Shelf} {subject : String} (sound : shelf.Sound subject)
    (snapshot : Snapshot) : Drawer.entries.rows (shelf.put snapshot).2 =
      [(shelf.entry.map .ofEntry).elim (Statement.freshEntry snapshot.subject snapshot.version)
        (Statement.raise snapshot.version)] := by
  cases old : shelf.entry with
  | none =>
    unfold Shelf.put
    split <;> simp [old, Drawer.entries, EntryRow.ofEntry, Entry.fresh, Statement.freshEntry,
      Cell.ofOption, Cell.ofBool]
  | some entry =>
    obtain ⟨mark, isMark, _⟩ := sound.reached entry old
    have raised := Cell.greater_ofWord mark snapshot.version
    unfold Shelf.put
    split <;> simp [old, isMark, Drawer.entries, EntryRow.ofEntry, Statement.raise, Cell.ofOption,
      ← raised] <;> rfl

theorem Shelf.versions_put (shelf : Shelf) (snapshot : Snapshot) :
    (shelf.put snapshot).2.versions =
      if (shelf.versions.find? snapshot.version).isSome then shelf.versions
      else shelf.versions.insert snapshot.version snapshot := by
  have inTable : (shelf.versions.find? snapshot.version).isSome =
      shelf.versions.contains snapshot.version := rfl
  rw [inTable]
  unfold put
  cases shelf.versions.contains snapshot.version <;> rfl

/-- A shelf has no entry of another subject. -/
theorem Catalog.Sound.no_other_entries {catalog : Catalog} (sound : catalog.Sound)
    (subject : String) : ((Drawer.entries.rows (catalog.shelf subject)).filter
      fun row => !decide (row.subject = .text subject)) = [] :=
  List.filter_eq_nil_iff.2 fun row member => by
    have own : row.subject = .text subject :=
      Drawer.entries.own (sound.shelves subject) row member
    simp [own]

/-- Settings are written to a row as they are to its entry. -/
theorem Statement.change_ofEntry (update : EntryUpdate) (entry : Entry) :
    Statement.change update (.ofEntry entry) = .ofEntry (update.apply entry) := by
  obtain ⟨level, readOnly, environment⟩ := update
  cases level <;> cases readOnly <;> cases environment <;> rfl

/-- Looked for by its key, a remark is the one kept under the key. -/
theorem Catalog.Sound.agree_remarks {catalog : Catalog} (sound : catalog.Sound) (subject : String)
    (key : String) : ∀ e ∈ (catalog.shelf subject).remarks.entries,
      ((RemarkRow.ofRemark e.2).subject = .text subject && (RemarkRow.ofRemark e.2).key = .text key)
        = decide (e.1 = key) := by
  intro e isEntry
  obtain ⟨isSubject, isKey⟩ :=
    (sound.shelves subject).remarks e.1 e.2 (Table.find?_eq_some_iff.2 isEntry)
  simp [RemarkRow.ofRemark, isSubject, isKey]

namespace Database.Houses

variable {db : Database} {catalog : Catalog}

theorem execute_insertVersion (houses : db.Houses catalog) (snapshot : Snapshot) :
    (Statement.insertVersion (.ofSnapshot snapshot)).execute db =
      if (catalog.row? snapshot.subject snapshot.version).isSome then .ok (false, db)
      else .ok (true, { db with
        versions := .held (db.versions.rows ++ [.ofSnapshot snapshot]) }) := by
  have present := any_eq_of_filter (houses.filter_versions snapshot.subject snapshot.version)
  rw [Option.isSome_map] at present
  rw [Statement.execute, houses.versions.read, ← present]
  rfl

theorem execute_raiseMark (db : Database) {rows : List EntryRow} (held : db.entries = .held rows)
    (subject : String) (version : UInt32) :
    (Statement.raiseMark subject version).execute db = .ok ((), { db with
      entries := .held (upserted (fun row => row.subject = .text subject)
        (Statement.raise version) (Statement.freshEntry subject version) rows) }) := by
  rw [Statement.execute, held]
  simp only [upserted, decide_eq_true_eq]
  rfl

theorem execute_putRemark {rows : List RemarkRow} (held : db.remarks = .held rows)
    (row : RemarkRow) : (Statement.putRemark row).execute db = .ok ((), { db with
      remarks := .held (upserted (fun r => r.subject = row.subject && r.key = row.key)
        (fun r => { r with value := row.value }) row rows) }) := by
  rw [Statement.execute, held]
  rfl

theorem entries_put (houses : db.Houses catalog) (snapshot : Snapshot) :
    Drawer.entries.Holds (catalog.put snapshot).2 (.held (upserted
      (fun row => row.subject = .text snapshot.subject) (Statement.raise snapshot.version)
      (Statement.freshEntry snapshot.subject snapshot.version) db.entries.rows)) := by
  have sound := houses.sound
  have after := sound.perform (.put snapshot)
  have rows := Shelf.rows_put (sound.shelves snapshot.subject) snapshot
  have onShelf := List.Perm.of_eq rows
  rw [← sound.no_other_entries snapshot.subject] at onShelf
  exact houses.entries.write sound after (fun row chosen => of_decide_eq_true chosen) onShelf
    (upserted_perm (houses.filter_entries snapshot.subject) _ _)

theorem versions_put (houses : db.Houses catalog) (snapshot : Snapshot) :
    Drawer.versions.Holds (catalog.put snapshot).2
      (if (catalog.row? snapshot.subject snapshot.version).isSome then db.versions
        else .held (db.versions.rows ++ [.ofSnapshot snapshot])) := by
  have sound := houses.sound
  have after := sound.perform (.put snapshot)
  have versions := (catalog.shelf snapshot.subject).versions_put snapshot
  have isRow : (catalog.shelf snapshot.subject).versions.find? snapshot.version =
      catalog.row? snapshot.subject snapshot.version := rfl
  have found := houses.filter_versions snapshot.subject snapshot.version
  rw [isRow] at versions
  cases stored : catalog.row? snapshot.subject snapshot.version with
  | none =>
    rw [stored] at versions found
    refine houses.versions.write sound after (fun row => Cell.eq_of_chosen) ?_
      (append_perm_of_filter found _)
    have inserted : (((catalog.shelf snapshot.subject).versions.insert snapshot.version
        snapshot).entries.map fun e => VersionRow.ofSnapshot e.2).Perm (.ofSnapshot snapshot ::
          ((catalog.shelf snapshot.subject).versions.entries.map fun e =>
            VersionRow.ofSnapshot e.2).filter fun row => !(row.subject = .text snapshot.subject &&
              row.version = .ofWord snapshot.version)) :=
      Table.insert_map_perm snapshot (sound.agree_versions snapshot.subject snapshot.version)
    rw [Option.isSome_none, if_neg Bool.false_ne_true] at versions
    rw [← versions] at inserted
    exact inserted
  | some old =>
    rw [stored, Option.isSome_some, if_pos rfl] at versions
    exact houses.versions.leave sound after
      (congrArg (fun table => table.entries.map fun e => VersionRow.ofSnapshot e.2) versions)

/-- A put inserts the version where it is missing and raises the mark in either case. -/
theorem put (houses : db.Houses catalog) (snapshot : Snapshot) :
    ∃ after, (Script.put snapshot).Does db (catalog.put snapshot).1 after ∧
      after.Houses (catalog.put snapshot).2 := by
  have after := houses.sound.perform (.put snapshot)
  have entries := houses.entries_put snapshot
  have versions := houses.versions_put snapshot
  have artifacts := houses.artifacts.leave houses.sound after
    (congrArg (List.map _) (Shelf.artifacts_put _ snapshot))
  have remarks := houses.remarks.leave houses.sound after
    (congrArg (fun table => table.entries.map fun e => RemarkRow.ofRemark e.2)
      (Shelf.remarks_put _ snapshot))
  have outcome : (catalog.put snapshot).1 =
      if (catalog.row? snapshot.subject snapshot.version).isSome then .alreadyPresent
      else .inserted := (catalog.shelf snapshot.subject).put_fst snapshot
  have inserts := houses.execute_insertVersion snapshot
  cases stored : catalog.row? snapshot.subject snapshot.version with
  | none =>
    rw [stored, Option.isSome_none, if_neg Bool.false_ne_true] at outcome inserts versions
    have raises := execute_raiseMark
      { db with versions := .held (db.versions.rows ++ [.ofSnapshot snapshot]) }
      houses.entries.held snapshot.subject snapshot.version
    rw [outcome]
    exact ⟨_, (Script.does_ask inserts).bind ((Script.does_ask raises).bind
      (Script.does_pure _ _)), after, entries, versions, artifacts, remarks⟩
  | some old =>
    rw [stored, Option.isSome_some, if_pos rfl] at outcome inserts versions
    have raises := execute_raiseMark db houses.entries.held snapshot.subject snapshot.version
    rw [outcome]
    exact ⟨_, (Script.does_ask inserts).bind ((Script.does_ask raises).bind
      (Script.does_pure _ _)), after, entries, versions, artifacts, remarks⟩

theorem execute_updateEntry (houses : db.Houses catalog) (subject : String)
    (change : EntryUpdate) : (Statement.updateEntry subject change).execute db =
      .ok (((catalog.shelf subject).entry.map EntryRow.ofEntry).toList.length, { db with
        entries := .held (db.entries.rows.map fun row =>
          if decide (row.subject = .text subject) then Statement.change change row else row) }) := by
  rw [Statement.execute, houses.entries.read, ← houses.filter_entries subject]
  simp only [decide_eq_true_eq]
  rfl

/-- Nothing is changed where there is no entry, and the answer says so. -/
theorem update (houses : db.Houses catalog) (subject : String) (change : EntryUpdate) :
    ∃ after, (Script.update subject change).Does db (catalog.update subject change).1 after ∧
      after.Houses (catalog.update subject change).2 := by
  have sound := houses.sound
  have after := sound.perform (.update subject change)
  have found := houses.filter_entries subject
  have changed := map_perm_of_filter found (Statement.change change)
  have executes := houses.execute_updateEntry subject change
  cases atEntry : (catalog.shelf subject).entry with
  | none =>
    have split := List.filter_append_perm (fun row => decide (row.subject = .text subject))
      db.entries.rows
    rw [atEntry] at executes changed found
    rw [found] at split
    rw [Catalog.update_of_none atEntry]
    exact ⟨_, (Script.does_ask executes).bind (Script.does_pure _ _), { houses with
      entries := ⟨rfl, changed.trans (split.trans houses.entries.same)⟩ }⟩
  | some entry =>
    rw [atEntry] at executes changed
    rw [Catalog.perform, Catalog.update_of_entry atEntry] at after
    rw [Catalog.update_of_entry atEntry]
    have onShelf : (Drawer.entries.rows { catalog.shelf subject with
        entry := some (change.apply entry) }).Perm (Statement.change change (.ofEntry entry) ::
          (Drawer.entries.rows (catalog.shelf subject)).filter
            fun row => !decide (row.subject = .text subject)) := by
      rw [sound.no_other_entries subject, Statement.change_ofEntry]
      exact .refl _
    exact ⟨_, (Script.does_ask executes).bind (Script.does_pure _ _), after,
      houses.entries.write sound after (fun row chosen => of_decide_eq_true chosen) onShelf changed,
      houses.versions.leave sound after rfl, houses.artifacts.leave sound after rfl,
      houses.remarks.leave sound after rfl⟩

/-- Artifacts are added behind the others. -/
theorem attach (houses : db.Houses catalog) (artifact : Artifact) :
    ∃ after, (Script.attach artifact).Does db () after ∧ after.Houses (catalog.attach artifact) := by
  have sound := houses.sound
  have after : (catalog.attach artifact).Sound := sound.perform (.attach artifact)
  have executes : (Statement.insertArtifact (.ofArtifact artifact)).execute db = .ok ((),
      { db with artifacts := .held (db.artifacts.rows ++ [.ofArtifact artifact]) }) := by
    rw [Statement.execute, houses.artifacts.read]
    rfl
  -- No row of an artifact is the same as another one.
  have nothing (rows : List ArtifactRow) : rows.filter (fun _ => false) = [] := by simp
  have longer : Drawer.artifacts.rows { catalog.shelf artifact.subject with
      artifacts := (catalog.shelf artifact.subject).artifacts ++ [artifact] } =
        Drawer.artifacts.rows (catalog.shelf artifact.subject) ++ [.ofArtifact artifact] :=
    List.map_append
  have onShelf := append_perm_of_filter
    (nothing (Drawer.artifacts.rows (catalog.shelf artifact.subject))) (.ofArtifact artifact)
  rw [← longer] at onShelf
  exact ⟨_, Script.does_ask executes, after, houses.entries.leave sound after rfl,
    houses.versions.leave sound after rfl,
    houses.artifacts.write sound after (by simp) onShelf (append_perm_of_filter (nothing _) _),
    houses.remarks.leave sound after rfl⟩

/-- A remark takes the place of the one under its key. -/
theorem annotate (houses : db.Houses catalog) (remark : Remark) :
    ∃ after, (Script.annotate remark).Does db () after ∧
      after.Houses (catalog.annotate remark) := by
  have sound := houses.sound
  have after : (catalog.annotate remark).Sound := sound.perform (.annotate remark)
  have about : ∀ row : RemarkRow, (row.subject = .text remark.subject &&
      row.key = .text remark.key) = true → Drawer.remarks.subject row = .text remark.subject :=
    fun row => Cell.eq_of_chosen
  have agree := sound.agree_remarks remark.subject remark.key
  have found := houses.remarks.filter sound about (Table.filter_map_key agree)
  have inserted : (((catalog.shelf remark.subject).remarks.insert remark.key remark).entries.map
      fun e => RemarkRow.ofRemark e.2).Perm (.ofRemark remark ::
        ((catalog.shelf remark.subject).remarks.entries.map fun e =>
          RemarkRow.ofRemark e.2).filter fun row => !(row.subject = .text remark.subject &&
            row.key = .text remark.key)) := Table.insert_map_perm remark agree
  have isNew : (((catalog.shelf remark.subject).remarks.find? remark.key).map
      RemarkRow.ofRemark).elim (RemarkRow.ofRemark remark)
        (fun r => { r with value := (RemarkRow.ofRemark remark).value }) = .ofRemark remark := by
    cases old : (catalog.shelf remark.subject).remarks.find? remark.key with
    | none => rfl
    | some before =>
      obtain ⟨isSubject, isKey⟩ := (sound.shelves remark.subject).remarks remark.key before old
      simp [RemarkRow.ofRemark, isSubject, isKey]
  have written := upserted_perm found
    (fun r => { r with value := (RemarkRow.ofRemark remark).value }) (.ofRemark remark)
  rw [isNew] at written
  exact ⟨_, Script.does_ask (execute_putRemark houses.remarks.held (.ofRemark remark)), after,
    houses.entries.leave sound after rfl,
    houses.versions.leave sound after rfl, houses.artifacts.leave sound after rfl,
    houses.remarks.write sound after about inserted written⟩

/-- What is removed is counted before, and rows of other subjects stay. -/
theorem remove (houses : db.Houses catalog) (names : Names) {pieces : List (List String)}
    (whole : pieces.flatten = names.toList) :
    ∃ after, (Script.remove pieces).Does db (catalog.remove names).1 after ∧
      after.Houses (catalog.remove names).2 := by
  have sound := houses.sound
  have does := Script.does_remove houses.ready (whole ▸ names.toList_nodup)
  rw [whole, houses.countOf_eq] at does
  exact ⟨_, does, sound.remove names, houses.entries.keep sound names,
    houses.versions.keep sound names, houses.artifacts.keep sound names,
    houses.remarks.keep sound names⟩

end Database.Houses

end SchemaLedger
