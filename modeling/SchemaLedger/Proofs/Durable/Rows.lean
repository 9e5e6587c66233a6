import SchemaLedger.Proofs.Durable.InStep

namespace SchemaLedger

/-- A row as it is kept: a record in memory, cells in a database. -/
inductive Row
  | snapshot (row : Snapshot)
  | artifact (row : Artifact)
  | remark (row : Remark)
  | entry (row : Entry)
  | versionCells (row : VersionRow)
  | artifactCells (row : ArtifactRow)
  | remarkCells (row : RemarkRow)
  | entryCells (row : EntryRow)

/-- The subject that a row names. -/
def Row.subject : Row → Cell
  | snapshot row => .text row.subject
  | artifact row => .text row.subject
  | remark row => .text row.subject
  | entry row => .text row.subject
  | versionCells row => row.subject
  | artifactCells row => row.subject
  | remarkCells row => row.subject
  | entryCells row => row.subject

/-- A record in the cells that a database has for it. -/
def Row.cells : Row → Row
  | snapshot row => versionCells (.ofSnapshot row)
  | artifact row => artifactCells (.ofArtifact row)
  | remark row => remarkCells (.ofRemark row)
  | entry row => entryCells (.ofEntry row)
  | row => row

/-- The rows of a kind on a shelf. -/
def Shelf.rows (shelf : Shelf) : SubjectTable → List Row
  | .versions => shelf.versions.entries.map fun e => .snapshot e.2
  | .artifacts => shelf.artifacts.map .artifact
  | .remarks => shelf.remarks.entries.map fun e => .remark e.2
  | .entries => (shelf.entry.map .entry).toList

def RowCounts.of (counts : RowCounts) : SubjectTable → Nat
  | .versions => counts.versions
  | .artifacts => counts.artifacts
  | .remarks => counts.remarks
  | .entries => counts.entries

theorem RowCounts.eq_of_tables {a b : RowCounts} (same : ∀ table, a.of table = b.of table) :
    a = b := by
  cases a
  cases b
  rw [RowCounts.mk.injEq]
  exact ⟨same .entries, same .versions, same .artifacts, same .remarks⟩

/-- The rows of a table as shelves keep them. -/
def Drawer.records (table : SubjectTable) : Drawer Row where
  rows shelf := shelf.rows table
  subject := Row.subject
  rows_empty := by cases table <;> rfl
  own {name shelf} sound row member := by
    cases table with
    | versions =>
      obtain ⟨⟨version, snapshot⟩, isEntry, rfl⟩ := List.mem_map.1 member
      exact congrArg Cell.text (sound.placed version snapshot (Table.find?_eq_some_iff.2 isEntry)).1
    | artifacts =>
      obtain ⟨artifact, isArtifact, rfl⟩ := List.mem_map.1 member
      exact congrArg Cell.text (sound.artifacts artifact isArtifact)
    | remarks =>
      obtain ⟨⟨key, remark⟩, isEntry, rfl⟩ := List.mem_map.1 member
      exact congrArg Cell.text (sound.remarks key remark (Table.find?_eq_some_iff.2 isEntry)).1
    | entries =>
      obtain ⟨entry, atEntry, rfl⟩ := Option.map_eq_some_iff.1 (Option.mem_toList.1 member)
      exact congrArg Cell.text (sound.own entry atEntry)

theorem Shelf.has_iff_rows (shelf : Shelf) (table : SubjectTable) :
    shelf.Has table ↔ shelf.rows table ≠ [] := by
  cases table with
  | versions => simp [Shelf.Has, Shelf.rows, Table.keys]
  | artifacts => simp [Shelf.Has, Shelf.rows]
  | remarks => simp [Shelf.Has, Shelf.rows, Table.keys]
  | entries => cases atEntry : shelf.entry <;> simp [Shelf.Has, Shelf.rows, atEntry]

namespace Backend

/-- The rows of a table. -/
def rows : Backend → SubjectTable → List Row
  | memory catalog, table => catalog.shelves.entries.flatMap fun e => e.2.rows table
  | durable db, .versions => db.versions.rows.map .versionCells
  | durable db, .artifacts => db.artifacts.rows.map .artifactCells
  | durable db, .remarks => db.remarks.rows.map .remarkCells
  | durable db, .entries => db.entries.rows.map .entryCells

theorem subjects_durable (db : Database) (table : SubjectTable) :
    (rows (.durable db) table).map Row.subject = db.subjects table := by
  cases table <;> simp [rows, Database.subjects, Row.subject, Function.comp_def]

/-- How many rows of each table name one of the subjects. -/
def countOf (backend : Backend) (names : Names) : RowCounts :=
  let held (table : SubjectTable) :=
    ((backend.rows table).filter fun row => row.subject.names names.toList).length
  ⟨held .entries, held .versions, held .artifacts, held .remarks⟩

theorem of_countOf (backend : Backend) (names : Names) (table : SubjectTable) :
    (backend.countOf names).of table =
      ((backend.rows table).filter fun row => row.subject.names names.toList).length := by
  cases table <;> rfl

/-- How a row of a catalog is kept. -/
def spell : Backend → Row → Row
  | memory _ => id
  | durable _ => Row.cells

theorem subject_spell (backend : Backend) (row : Row) :
    (backend.spell row).subject = row.subject := by
  cases backend <;> cases row <;> rfl

theorem countOf_empty (backend : Backend) : backend.countOf .empty = .zero := by
  have none : Names.toList .empty = [] := rfl
  simp [countOf, none, Cell.names_nil, RowCounts.zero]

theorem countOf_durable (db : Database) (names : Names) :
    countOf (.durable db) names = db.countOf names.toList := by
  have each (table : SubjectTable) :
      ((rows (.durable db) table).filter fun row => row.subject.names names.toList).length =
        ((db.subjects table).filter fun cell => cell.names names.toList).length := by
    rw [← subjects_durable, List.filter_map, List.length_map]
    rfl
  simp only [countOf, Database.countOf, each]

end Backend

theorem Stored.rows_keep {ρ : Type} (kept : ρ → Bool) (table : Stored ρ) :
    (table.keep kept).rows = table.rows.filter kept := by
  cases table <;> rfl

namespace Database

variable {db : Database} {catalog : Catalog}

/-- What a removal leaves of a table. -/
theorem rows_others (db : Database) (names : List String) (table : SubjectTable) :
    Backend.rows (.durable (db.others names)) table =
      (Backend.rows (.durable db) table).filter fun row => !row.subject.names names := by
  have spared {ρ : Type} (spelled : ρ → Row) (table : Stored ρ) :
      (table.keep fun row => !(spelled row).subject.names names).rows.map spelled =
        (table.rows.map spelled).filter fun row => !row.subject.names names := by
    rw [Stored.rows_keep, List.filter_map]
    rfl
  cases table with
  | versions => exact spared .versionCells db.versions
  | artifacts => exact spared .artifactCells db.artifacts
  | remarks => exact spared .remarkCells db.remarks
  | entries => exact spared .entryCells db.entries

/-- A removal is carried out as a whole. -/
theorem Houses.perform_remove (houses : db.Houses catalog) (names : Names) :
    db.perform (fun _ => false) (.remove names) =
      (.ok (Backend.countOf (.durable db) names), db.others names.toList) := by
  rw [Database.perform]
  split
  · rename_i nothing
    obtain rfl := Names.eq_empty nothing
    rw [Backend.countOf_empty]
    exact congrArg (Prod.mk _) (others_nil db).symm
  · have whole := flatten_piecesOf subjectsAtOnce names.toList
    have does := Script.does_remove houses.ready (whole ▸ names.toList_nodup)
    rw [whole, ← Backend.countOf_durable] at does
    exact does.transact

theorem Houses.perform_count (houses : db.Houses catalog) (names : Names) :
    db.perform (fun _ => false) (.count names) =
      (.ok (Backend.countOf (.durable db) names), db) := by
  have whole := flatten_piecesOf subjectsAtOnce names.toList
  have does := Script.does_count houses.ready (whole ▸ names.toList_nodup)
  rw [whole, ← Backend.countOf_durable] at does
  exact does.transact

end Database

namespace Catalog

variable {catalog : Catalog}

theorem rows_remove (sound : catalog.Sound) (names : Names) (table : SubjectTable) :
    Backend.rows (.memory (catalog.remove names).2) table =
      (Backend.rows (.memory catalog) table).filter fun row =>
        !row.subject.names names.toList := by
  have agree (name : String) (row : Row)
      (isName : (Drawer.records table).subject row = .text name) :
      (!row.subject.names names.toList) = !Table.contains names name :=
    congrArg not (Cell.names_toList names name row isName)
  exact Drawer.all_restrict sound agree

theorem count_eq_countOf (sound : catalog.Sound) (names : Names) :
    catalog.count names = Backend.countOf (.memory catalog) names := by
  have chosen (table : SubjectTable) :
      ((Backend.rows (.memory catalog) table).filter fun row => row.subject.names names.toList) =
        (Drawer.records table).all ⟨catalog.shelves.restrict names.contains⟩ :=
    (@Drawer.all_restrict _ (.records table) _ _ _ sound (Cell.names_toList names)).symm
  rw [Catalog.count_eq, Backend.countOf]
  simp only [chosen]
  simp only [Drawer.all, List.length_flatMap, Drawer.entries, Drawer.versions, Drawer.artifacts,
    Drawer.remarks, Drawer.records, Shelf.rows, List.length_map, Option.length_toList,
    Option.isSome_map]

end Catalog

namespace Backend.Shows

variable {backend : Backend} {catalog : Catalog} {subject : String}

/-- Every row names one of the subjects that are known. -/
theorem subject_of_row (shows : backend.Shows catalog) {table : SubjectTable} {row : Row}
    (isRow : row ∈ backend.rows table) :
    ∃ name, row.subject = .text name ∧ Table.contains catalog.known name = true := by
  have shelved {name : String} {shelf : Shelf} (found : catalog.shelves.find? name = some shelf) :
      Table.contains catalog.known name = true := by
    rw [Catalog.known, Names.contains_ofList, Table.mem_keys_iff, found]
    rfl
  cases shows with
  | memory sound =>
    obtain ⟨name, shelf, found, -, isName⟩ :=
      (@Drawer.mem_all _ (.records table) _ _ sound).1 isRow
    exact ⟨name, isName, shelved found⟩
  | @durable db _ houses =>
    have named : row.subject ∈ db.subjects table := by
      rw [← subjects_durable]
      exact List.mem_map_of_mem isRow
    obtain ⟨name, shelf, isName, found⟩ : ∃ name shelf, row.subject = .text name ∧
        catalog.shelves.find? name = some shelf := by
      cases table with
      | versions => exact houses.versions.shelf_of_mem houses.sound named
      | artifacts => exact houses.artifacts.shelf_of_mem houses.sound named
      | remarks => exact houses.remarks.shelf_of_mem houses.sound named
      | entries => exact houses.entries.shelf_of_mem houses.sound named
    exact ⟨name, isName, shelved found⟩

/-- The rows are those of the catalog that is shown, as the backend keeps them. -/
theorem rows_perm (shows : backend.Shows catalog) (table : SubjectTable) :
    (backend.rows table).Perm ((rows (.memory catalog) table).map backend.spell) := by
  cases shows with
  | memory sound =>
    have same : spell (.memory catalog) = id := rfl
    rw [same, List.map_id]
  | @durable db _ houses =>
    have spelled {ρ : Type} {drawer : Drawer ρ} {stored : Stored ρ} (cells : ρ → Row)
        (holds : drawer.Holds catalog stored)
        (each : ∀ shelf : Shelf,
          (shelf.rows table).map (spell (.durable db)) = (drawer.rows shelf).map cells) :
        (stored.rows.map cells).Perm
          ((rows (.memory catalog) table).map (spell (.durable db))) := by
      refine (holds.same.map cells).trans (List.Perm.of_eq ?_)
      simp only [Drawer.all, rows, List.map_flatMap, each]
    cases table with
    | versions =>
      refine spelled .versionCells houses.versions fun shelf => ?_
      simp [Shelf.rows, Drawer.versions, spell, Row.cells]
    | artifacts =>
      refine spelled .artifactCells houses.artifacts fun shelf => ?_
      simp [Shelf.rows, Drawer.artifacts, spell, Row.cells]
    | remarks =>
      refine spelled .remarkCells houses.remarks fun shelf => ?_
      simp [Shelf.rows, Drawer.remarks, spell, Row.cells]
    | entries =>
      refine spelled .entryCells houses.entries fun shelf => ?_
      cases atEntry : shelf.entry <;> simp [Shelf.rows, Drawer.entries, spell, Row.cells, atEntry]

theorem has_iff_row (shows : backend.Shows catalog) (table : SubjectTable) :
    backend.Has subject table ↔ ∃ row ∈ backend.rows table, row.subject = .text subject := by
  cases shows with
  | memory sound =>
    have onShelf : (catalog.shelf subject).rows table =
        (rows (.memory catalog) table).filter fun row => row.subject = .text subject :=
      (@Drawer.filter_subject _ (.records table) _ sound subject).symm
    rw [Has, Shelf.has_iff_rows, onShelf, ← List.length_pos_iff, List.length_filter_pos_iff]
    simp only [decide_eq_true_eq]
  | @durable db _ _ =>
    have named : Has (.durable db) subject table ↔
        .text subject ∈ (rows (.durable db) table).map Row.subject := by
      rw [subjects_durable]
      cases table <;> rfl
    exact named.trans List.mem_map

theorem contains_known_iff (shows : backend.Shows catalog) :
    Table.contains catalog.known subject = true ↔
      ∃ table, ∃ row ∈ backend.rows table, row.subject = .text subject := by
  simp only [← shows.has_iff_row, shows.has_iff]
  exact shows.sound.contains_known.trans (shows.sound.shelves subject).occupied_iff

theorem keeper_known (shows : backend.Shows catalog) :
    Backend.keeper .known backend = (.ok catalog.known, backend) := by
  cases shows with
  | memory => rfl
  | durable houses =>
    simp only [Backend.keeper, Database.keeper, Database.perform, Database.reading, houses.known_eq]
    rfl

theorem keeper_count (shows : backend.Shows catalog) (names : Names) :
    Backend.keeper (.count names) backend = (.ok (backend.countOf names), backend) := by
  cases shows with
  | memory sound => rw [← Catalog.count_eq_countOf sound]; rfl
  | durable houses =>
    simp only [Backend.keeper, Database.keeper, houses.perform_count]
    rfl

/-- What is removed is what was counted, and all other rows stay as they are. -/
theorem keeper_remove (shows : backend.Shows catalog) (names : Names) :
    ∃ after, Backend.keeper (.remove names) backend = (.ok (backend.countOf names), after) ∧
      after.Shows (catalog.remove names).2 ∧ ∀ table, after.rows table =
        (backend.rows table).filter fun row => !row.subject.names names.toList := by
  have kept := (shows.keep (.remove names)).1
  cases shows with
  | memory sound =>
    refine ⟨_, ?_, kept, Catalog.rows_remove sound names⟩
    rw [← Catalog.count_eq_countOf sound]
    rfl
  | @durable db _ houses =>
    have removed : Backend.keeper (.remove names) (.durable db) =
        (.ok (countOf (.durable db) names), .durable (db.others names.toList)) := by
      simp only [Backend.keeper, Database.keeper, houses.perform_remove]
      rfl
    rw [removed] at kept
    exact ⟨_, removed, kept, Database.rows_others db names.toList⟩

end Backend.Shows

end SchemaLedger
