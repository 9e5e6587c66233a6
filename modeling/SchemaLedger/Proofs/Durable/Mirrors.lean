import Mathlib.Data.List.Pairwise
import SchemaLedger.Proofs.Catalog.Rows
import SchemaLedger.Proofs.Durable.Drawer
import SchemaLedger.Proofs.Durable.Script

namespace SchemaLedger

namespace Cell

/-- Of two cells one does not come before the other. -/
theorem notLess_total (a b : Cell) : (!b.less a || !a.less b) = true := by
  cases a <;> cases b <;>
    simp only [less, Bool.or_eq_true, Bool.not_eq_true', decide_eq_false_iff_not, Bool.not_true,
      Bool.not_false, Bool.or_true, Bool.true_or, Bool.or_self]
  case text.text a b => exact String.le_total a b
  all_goals exact (Int.le_total ..).imp Int.not_lt.2 Int.not_lt.2

theorem notLess_trans (a b c : Cell) (first : (!b.less a) = true) (second : (!c.less b) = true) :
    (!c.less a) = true := by
  cases a <;> cases b <;> cases c <;>
    simp only [less, Bool.not_eq_true', decide_eq_false_iff_not, Bool.not_true, Bool.not_false,
      Bool.false_eq_true] at first second ⊢
  case text.text.text => exact String.le_trans first second
  all_goals exact Int.not_lt.2 (Int.le_trans (Int.not_lt.1 first) (Int.not_lt.1 second))

theorem less_ofWord (a b : UInt32) : (ofWord a).less (ofWord b) = decide (a < b) := by
  have positive : 0 < Double.unit := by decide +kernel
  have unit : (0 : Int) < Double.unit := Int.natCast_pos.2 positive
  simp only [ofWord, less, scaled?, Option.getD_some, Int.mul_lt_mul_right unit, Int.ofNat_lt,
    UInt32.lt_iff_toNat_lt]

/-- A row that is looked for by its subject and a key is about the subject. -/
theorem eq_of_chosen {cell own : Cell} {key : Bool} (chosen : (cell = own && key) = true) :
    cell = own :=
  of_decide_eq_true (Bool.and_eq_true_iff.1 chosen).1

theorem names_toList (names : Names) {α : Type} {subject : α → Cell} (name : String) (row : α)
    (isName : subject row = .text name) :
    (subject row).names names.toList = Table.contains names name := by
  rw [isName, Bool.eq_iff_iff, Cell.names_text, Names.contains_iff_mem_toList]

theorem exists_texts {cells : List Cell} (texts : ∀ cell ∈ cells, ∃ text, cell = .text text) :
    ∃ list : List String, cells = list.map .text := by
  induction cells with
  | nil => exact ⟨[], rfl⟩
  | cons cell rest ih =>
    obtain ⟨⟨text, rfl⟩, later⟩ := List.forall_mem_cons.1 texts
    obtain ⟨list, rfl⟩ := ih later
    exact ⟨text :: list, rfl⟩

end Cell

section Lists

variable {α : Type} {rows list : List α}

/-- There is only one order of at most one row. -/
theorem eq_toList_of_perm {found : Option α} (same : rows.Perm found.toList) :
    rows = found.toList := by
  cases found with
  | none => exact List.perm_nil.1 same
  | some row => exact List.perm_singleton.1 same

theorem find?_eq_of_filter {p : α → Bool} {found : Option α}
    (unique : rows.filter p = found.toList) : rows.find? p = found := by
  rw [← List.head?_filter, unique]
  cases found <;> rfl

/-- Sorting undoes any change of order of a list that ascends strictly. -/
theorem mergeSort_eq_of_perm (key : α → Cell) (same : rows.Perm list)
    (ascending : list.Pairwise fun a b => (key a).less (key b) = true) :
    (rows.mergeSort fun a b => !(key b).less (key a)) = list := by
  have notBefore {a b : α} (before : (key a).less (key b) = true) :
      (!(key b).less (key a)) = true := by
    have total := Cell.notLess_total (key a) (key b)
    simpa [before] using total
  have apart := (ascending.imp fun {a b} before => show ¬((!(key b).less (key a)) = true ∧
      (!(key a).less (key b)) = true) by simp [before])
  have symmetric : Std.Symm fun a b => ¬((!(key b).less (key a)) = true ∧
      (!(key a).less (key b)) = true) := ⟨fun a b h => fun swapped => h swapped.symm⟩
  refine List.Perm.eq_of_pairwise ?_
    (List.pairwise_mergeSort (fun a b c => Cell.notLess_trans (key a) (key b) (key c))
      (fun a b => Cell.notLess_total (key a) (key b)) rows)
    (ascending.imp notBefore) ((List.mergeSort_perm rows _).trans same)
  intro a b isSorted isListed below above
  by_contra different
  have isListed' : a ∈ list := same.mem_iff.1 (List.mem_mergeSort.1 isSorted)
  exact apart.forall isListed' isListed different ⟨below, above⟩

end Lists

/-- A table holds the rows that a catalog amounts to. -/
structure Drawer.Holds {ρ : Type} (drawer : Drawer ρ) (catalog : Catalog) (table : Stored ρ) :
    Prop where
  held : table = .held table.rows
  same : table.rows.Perm (drawer.all catalog)

/-- Every snapshot that is kept can be read back from its row. -/
def Catalog.Storable (catalog : Catalog) : Prop :=
  ∀ subject version snapshot, catalog.row? subject version = some snapshot → snapshot.Storable

/-- The tables of a database hold the rows of a catalog. -/
structure Database.Houses (db : Database) (catalog : Catalog) : Prop where
  sound : catalog.Sound
  entries : Drawer.entries.Holds catalog db.entries
  versions : Drawer.versions.Holds catalog db.versions
  artifacts : Drawer.artifacts.Holds catalog db.artifacts
  remarks : Drawer.remarks.Holds catalog db.remarks

/-- Everything in the catalog can be read from the tables. -/
structure Database.Mirrors (db : Database) (catalog : Catalog) : Prop extends
    db.Houses catalog where
  storable : catalog.Storable

namespace Drawer.Holds

variable {ρ : Type} {drawer : Drawer ρ} {catalog : Catalog} {table : Stored ρ}

theorem read (holds : drawer.Holds catalog table) (name : String) :
    table.read name = .ok table.rows := by
  rw [holds.held]
  rfl

/-- A row about one subject is looked for on the shelf of that subject. -/
theorem filter (holds : drawer.Holds catalog table) (sound : catalog.Sound) {name : String}
    {p : ρ → Bool} {found : Option ρ} (about : ∀ row, p row = true → drawer.subject row = .text name)
    (onShelf : (drawer.rows (catalog.shelf name)).filter p = found.toList) :
    table.rows.filter p = found.toList := by
  have shuffled := holds.same.filter p
  rw [filter_about sound about, onShelf] at shuffled
  exact eq_toList_of_perm shuffled

theorem filter_subject (holds : drawer.Holds catalog table) (sound : catalog.Sound)
    (name : String) : (table.rows.filter fun row => drawer.subject row = .text name).Perm
      (drawer.rows (catalog.shelf name)) := by
  rw [← Drawer.filter_subject sound]
  exact holds.same.filter _

/-- A subject is in a table when its shelf has a row in the drawer. -/
theorem mem_iff (holds : drawer.Holds catalog table) (sound : catalog.Sound) (name : String) :
    .text name ∈ table.rows.map drawer.subject ↔ drawer.rows (catalog.shelf name) ≠ [] := by
  have same := holds.filter_subject sound name
  rw [List.mem_map, ← List.length_pos_iff, ← same.length_eq, List.length_filter_pos_iff]
  simp only [decide_eq_true_eq]

/-- Every subject in a table is the name of a shelf. -/
theorem shelf_of_mem (holds : drawer.Holds catalog table) (sound : catalog.Sound) {cell : Cell}
    (member : cell ∈ table.rows.map drawer.subject) :
    ∃ name shelf, cell = .text name ∧ catalog.shelves.find? name = some shelf := by
  obtain ⟨row, inTable, rfl⟩ := List.mem_map.1 member
  obtain ⟨name, shelf, found, -, isName⟩ := (mem_all sound).1 (holds.same.mem_iff.1 inTable)
  exact ⟨name, shelf, isName, found⟩

theorem length_filter (holds : drawer.Holds catalog table) (sound : catalog.Sound) (names : Names) :
    ((table.rows.map drawer.subject).filter fun c => c.names names.toList).length =
      (drawer.all ⟨catalog.shelves.restrict names.contains⟩).length := by
  rw [List.filter_map, List.length_map, all_restrict sound (Cell.names_toList names)]
  exact (holds.same.filter _).length_eq

end Drawer.Holds

/-- A row of a version is told by the version under which it is kept. -/
theorem Catalog.Sound.agree_versions {catalog : Catalog} (sound : catalog.Sound) (subject : String)
    (version : UInt32) : ∀ e ∈ (catalog.shelf subject).versions.entries,
      ((VersionRow.ofSnapshot e.2).subject = .text subject &&
        (VersionRow.ofSnapshot e.2).version = .ofWord version) = decide (e.1 = version) := by
  intro e isEntry
  obtain ⟨isSubject, isVersion⟩ :=
    (sound.shelves subject).placed e.1 e.2 (Table.find?_eq_some_iff.2 isEntry)
  simp only [VersionRow.ofSnapshot, Cell.ofWord, isSubject, isVersion, decide_true, Bool.true_and,
    Cell.integer.injEq, Int.natCast_inj, UInt32.toNat_inj]

/-- The count of a catalog is the number of its rows, table by table. -/
theorem Catalog.count_eq (catalog : Catalog) (names : Names) :
    let chosen : Catalog := ⟨catalog.shelves.restrict names.contains⟩
    catalog.count names = ⟨(Drawer.entries.all chosen).length, (Drawer.versions.all chosen).length,
      (Drawer.artifacts.all chosen).length, (Drawer.remarks.all chosen).length⟩ := by
  have sums := foldl_counts (catalog.shelves.restrict names.contains).entries .zero
  simp only [RowCounts.add, RowCounts.zero, Nat.zero_add] at sums
  simp only [Drawer.all, List.length_flatMap, Drawer.entries, Drawer.versions, Drawer.artifacts,
    Drawer.remarks, List.length_map]
  refine sums.trans ?_
  simp only [Shelf.entered, Table.keys, List.length_map, Option.toList_map]

namespace Database.Houses

variable {db : Database} {catalog : Catalog}

theorem ready (houses : db.Houses catalog) : db.Ready :=
  ⟨houses.versions.held, houses.artifacts.held, houses.remarks.held, houses.entries.held⟩

theorem filter_entries (houses : db.Houses catalog) (subject : String) :
    (db.entries.rows.filter fun row => row.subject = .text subject) =
      ((catalog.shelf subject).entry.map .ofEntry).toList :=
  eq_toList_of_perm (houses.entries.filter_subject houses.sound subject)

theorem entryRow?_eq (houses : db.Houses catalog) (subject : String) :
    db.entryRow? subject = .ok ((catalog.shelf subject).entry.map .ofEntry) := by
  rw [entryRow?, houses.entries.read]
  exact congrArg Except.ok (find?_eq_of_filter (houses.filter_entries subject))

theorem mark_eq (houses : db.Houses catalog) (subject : String) :
    db.mark subject = .ok (catalog.mark subject) := by
  rw [mark, houses.entryRow?_eq, Catalog.mark]
  cases (catalog.shelf subject).entry with
  | none => rfl
  | some entry =>
    have read := column_ok 0 "latest_version" entry.mark
    rw [← Cell.optional_word] at read
    exact read

theorem entry_eq (houses : db.Houses catalog) (subject : String) :
    db.entry subject = .ok (catalog.shelf subject).entry := by
  rw [entry, houses.entryRow?_eq]
  cases (catalog.shelf subject).entry with
  | none => rfl
  | some entry => exact congrArg (some <$> ·) (entryOfRow_ofEntry entry)

theorem all_entries (catalog : Catalog) :
    Drawer.entries.all catalog = catalog.entries.map .ofEntry := by
  rw [Drawer.all, Catalog.entries]
  induction catalog.shelves.entries with
  | nil => rfl
  | cons head rest ih =>
    rw [List.flatMap_cons, ih, List.filterMap_cons]
    cases atEntry : head.2.entry with
    | none => simp [Drawer.entries, atEntry]
    | some entry => simp [Drawer.entries, atEntry]

theorem entries_ascending (sound : catalog.Sound) :
    catalog.entries.Pairwise fun a b => a.subject < b.subject := by
  have own : ∀ e ∈ catalog.shelves.entries, ∀ entry, e.2.entry = some entry →
      entry.subject = e.1 := by
    intro e isEntry entry atEntry
    exact (sound.of_find? (Table.find?_eq_some_iff.2 isEntry)).own entry atEntry
  rw [Catalog.entries, List.pairwise_filterMap]
  refine catalog.shelves.ascending.imp_of_mem fun {a b} isFirst isSecond below => ?_
  intro first atFirst second atSecond
  rwa [own a isFirst first atFirst, own b isSecond second atSecond]

theorem allEntries_eq (houses : db.Houses catalog) : db.allEntries = .ok catalog.entries := by
  have sorted : (db.entries.rows.mergeSort fun a b => !b.subject.less a.subject) =
      catalog.entries.map .ofEntry := by
    refine mergeSort_eq_of_perm (·.subject) (all_entries catalog ▸ houses.entries.same) ?_
    rw [List.pairwise_map]
    exact (entries_ascending houses.sound).imp fun below => decide_eq_true below
  have read : (catalog.entries.map EntryRow.ofEntry).mapM entryOfRow =
      .ok (catalog.entries.map id) := mapM_map_of_eq fun entry _ => entryOfRow_ofEntry entry
  rw [List.map_id] at read
  rw [allEntries, houses.entries.read, ← read, ← sorted]
  rfl

theorem filter_versions (houses : db.Houses catalog) (subject : String) (version : UInt32) :
    (db.versions.rows.filter fun row => row.subject = .text subject && row.version = .ofWord version)
      = ((catalog.row? subject version).map .ofSnapshot).toList := by
  exact houses.versions.filter houses.sound (fun row => Cell.eq_of_chosen)
    (Table.filter_map_key (houses.sound.agree_versions subject version))

theorem versionNumbers_eq (houses : db.Houses catalog) (subject : String) :
    db.versionNumbers subject = .ok (catalog.shelf subject).versions.keys := by
  have placed := (houses.sound.shelves subject).placed
  have cells : ((db.versions.rows.filter fun row => row.subject = .text subject).map
      (·.version)).Perm ((catalog.shelf subject).versions.keys.map .ofWord) := by
    refine ((houses.versions.filter_subject houses.sound subject).map _).trans ?_
    refine .of_eq ?_
    rw [Drawer.versions, List.map_map, Table.keys, List.map_map]
    refine List.map_congr_left fun e isEntry => ?_
    exact congrArg Cell.ofWord (placed e.1 e.2 (Table.find?_eq_some_iff.2 isEntry)).2
  have sorted := mergeSort_eq_of_perm id cells (by
    rw [List.pairwise_map]
    exact (Table.keys_ascending _).imp fun below => by simp [Cell.less_ofWord, below])
  have read : ((catalog.shelf subject).versions.keys.map Cell.ofWord).mapM
      (fun cell => column 0 "version" cell.asWord) =
        .ok ((catalog.shelf subject).versions.keys.map id) :=
    mapM_map_of_eq fun version _ => by rw [Cell.asWord_ofWord, column_ok]; rfl
  rw [List.map_id] at read
  rw [versionNumbers, houses.versions.read, ← read, ← sorted]
  rfl

/-- The subjects of all tables are texts: the names of the shelves. -/
theorem subjects_texts (houses : db.Houses catalog) : ∃ names : List String,
    db.entries.rows.map (·.subject) ++ db.versions.rows.map (·.subject) ++
        db.artifacts.rows.map (·.subject) ++ db.remarks.rows.map (·.subject) =
      names.map Cell.text ∧ ∀ name, name ∈ names ↔ (catalog.shelves.find? name).isSome := by
  have sound := houses.sound
  generalize whole : db.entries.rows.map (·.subject) ++ db.versions.rows.map (·.subject) ++
    db.artifacts.rows.map (·.subject) ++ db.remarks.rows.map (·.subject) = cells
  have members (cell : Cell) : cell ∈ cells ↔
      ∃ name shelf, cell = .text name ∧ catalog.shelves.find? name = some shelf := by
    rw [← whole, List.mem_append, List.mem_append, List.mem_append]
    constructor
    · rintro (((member | member) | member) | member)
      · exact houses.entries.shelf_of_mem sound member
      · exact houses.versions.shelf_of_mem sound member
      · exact houses.artifacts.shelf_of_mem sound member
      · exact houses.remarks.shelf_of_mem sound member
    · rintro ⟨name, shelf, rfl, found⟩
      obtain ⟨rfl, entry | artifact | remark⟩ := sound.find?_eq_some_iff.1 found
      · refine .inl (.inl (.inl ((houses.entries.mem_iff sound name).2 ?_)))
        obtain ⟨entry, atEntry⟩ := Option.isSome_iff_exists.1 entry
        simp [Drawer.entries, atEntry]
      · refine .inl (.inr ((houses.artifacts.mem_iff sound name).2 ?_))
        simpa [Drawer.artifacts] using artifact
      · refine .inr ((houses.remarks.mem_iff sound name).2 ?_)
        simpa [Drawer.remarks] using remark
  obtain ⟨names, rfl⟩ := Cell.exists_texts fun cell member => by
    obtain ⟨name, _, isName, _⟩ := (members cell).1 member
    exact ⟨name, isName⟩
  refine ⟨names, rfl, fun name => ?_⟩
  have named := members (.text name)
  rw [List.mem_map] at named
  rw [Option.isSome_iff_exists]
  constructor
  · intro member
    obtain ⟨other, shelf, isName, found⟩ := named.1 ⟨name, member, rfl⟩
    cases isName
    exact ⟨shelf, found⟩
  · rintro ⟨shelf, found⟩
    obtain ⟨other, member, isName⟩ := named.2 ⟨name, shelf, rfl, found⟩
    cases isName
    exact member

theorem known_eq (houses : db.Houses catalog) : db.known = .ok catalog.known := by
  obtain ⟨names, isNames, members⟩ := houses.subjects_texts
  have read : (names.map Cell.text).mapM (fun cell => column 0 "subject" cell.asText) =
      .ok (names.map id) := mapM_map_of_eq fun name _ => rfl
  rw [List.map_id] at read
  have same : Names.ofList names = catalog.known := by
    refine Names.eq_of_contains fun name => ?_
    rw [Names.contains_ofList, Catalog.known, Names.contains_ofList, Table.mem_keys_iff, members]
  rw [known, houses.entries.read, houses.versions.read, houses.artifacts.read,
    houses.remarks.read, ← same]
  simp only [bind, Except.bind, isNames, read]
  rfl

theorem countOf_eq (houses : db.Houses catalog) (names : Names) :
    db.countOf names.toList = catalog.count names := by
  rw [Catalog.count_eq, ← houses.entries.length_filter houses.sound names,
    ← houses.versions.length_filter houses.sound names,
    ← houses.artifacts.length_filter houses.sound names,
    ← houses.remarks.length_filter houses.sound names]
  rfl

end Database.Houses

/-- A version without a row is found missing. -/
theorem Database.Houses.snapshot_of_missing {db : Database} {catalog : Catalog}
    (houses : db.Houses catalog) {subject : String} {version : UInt32}
    (missing : catalog.row? subject version = none) : db.snapshot subject version = .ok none := by
  have found := find?_eq_of_filter (houses.filter_versions subject version)
  rw [missing] at found
  rw [snapshot, houses.versions.read]
  simp only [bind, Except.bind, found]
  rfl

theorem Database.Mirrors.snapshot_eq {db : Database} {catalog : Catalog}
    (mirrors : db.Mirrors catalog) (subject : String) (version : UInt32) :
    db.snapshot subject version = .ok (catalog.row? subject version) := by
  cases stored : catalog.row? subject version with
  | none => exact mirrors.snapshot_of_missing stored
  | some kept =>
    have found := find?_eq_of_filter (mirrors.filter_versions subject version)
    rw [stored] at found
    obtain ⟨rfl, rfl⟩ := (mirrors.sound.shelves subject).placed version kept stored
    exact snapshot_of_find? mirrors.versions.held found
      (mirrors.storable kept.subject kept.version kept stored)

end SchemaLedger
