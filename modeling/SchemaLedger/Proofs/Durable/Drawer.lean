import SchemaLedger.Proofs.Catalog.Sound
import SchemaLedger.Proofs.Durable.Row

namespace SchemaLedger

/-- How the shelves of a catalog give the rows of a table. An empty shelf gives none, and every row
names the subject of its shelf. -/
structure Drawer (ρ : Type) where
  rows : Shelf → List ρ
  subject : ρ → Cell
  rows_empty : rows .empty = []
  own : ∀ {name : String} {shelf : Shelf}, shelf.Sound name →
    ∀ row ∈ rows shelf, subject row = .text name

namespace Drawer

def entries : Drawer EntryRow where
  rows shelf := (shelf.entry.map .ofEntry).toList
  subject := (·.subject)
  rows_empty := rfl
  own sound row member := by
    obtain ⟨entry, atEntry, rfl⟩ := Option.map_eq_some_iff.1 (Option.mem_toList.1 member)
    rw [EntryRow.ofEntry, sound.own entry atEntry]

def versions : Drawer VersionRow where
  rows shelf := shelf.versions.entries.map fun e => .ofSnapshot e.2
  subject := (·.subject)
  rows_empty := rfl
  own sound row member := by
    obtain ⟨⟨version, snapshot⟩, isEntry, rfl⟩ := List.mem_map.1 member
    have placed := sound.placed version snapshot (Table.find?_eq_some_iff.2 isEntry)
    rw [VersionRow.ofSnapshot, placed.1]

def artifacts : Drawer ArtifactRow where
  rows shelf := shelf.artifacts.map .ofArtifact
  subject := (·.subject)
  rows_empty := rfl
  own sound row member := by
    obtain ⟨artifact, isArtifact, rfl⟩ := List.mem_map.1 member
    rw [ArtifactRow.ofArtifact, sound.artifacts artifact isArtifact]

def remarks : Drawer RemarkRow where
  rows shelf := shelf.remarks.entries.map fun e => .ofRemark e.2
  subject := (·.subject)
  rows_empty := rfl
  own sound row member := by
    obtain ⟨⟨key, remark⟩, isEntry, rfl⟩ := List.mem_map.1 member
    have placed := sound.remarks key remark (Table.find?_eq_some_iff.2 isEntry)
    rw [RemarkRow.ofRemark, placed.1]

variable {ρ : Type} {drawer : Drawer ρ} {catalog : Catalog} {name : String} {shelf : Shelf}

/-- The rows of all shelves. -/
def all (drawer : Drawer ρ) (catalog : Catalog) : List ρ :=
  catalog.shelves.entries.flatMap fun e => drawer.rows e.2

/-- A row lies on a shelf that is there, and names the subject of that shelf. -/
theorem mem_all {row : ρ} (sound : catalog.Sound) : row ∈ drawer.all catalog ↔
    ∃ name shelf, catalog.shelves.find? name = some shelf ∧ row ∈ drawer.rows shelf ∧
      drawer.subject row = .text name := by
  rw [all, List.mem_flatMap]
  constructor
  · rintro ⟨⟨name, shelf⟩, isEntry, member⟩
    have found := Table.find?_eq_some_iff.2 isEntry
    exact ⟨name, shelf, found, member, drawer.own (sound.of_find? found) row member⟩
  · rintro ⟨name, shelf, found, member, -⟩
    exact ⟨(name, shelf), Table.find?_eq_some_iff.1 found, member⟩

/-- Choosing shelves by their subjects is choosing rows by theirs. -/
theorem all_restrict {chosen : String → Bool} {p : ρ → Bool} (sound : catalog.Sound)
    (agree : ∀ name row, drawer.subject row = .text name → p row = chosen name) :
    drawer.all ⟨catalog.shelves.restrict chosen⟩ = (drawer.all catalog).filter p := by
  have each : ∀ e ∈ catalog.shelves.entries, ∀ row ∈ drawer.rows e.2, p row = chosen e.1 := by
    intro e isEntry row member
    have found := Table.find?_eq_some_iff.2 isEntry
    exact agree e.1 row (drawer.own (sound.of_find? found) row member)
  simp only [all, Table.restrict]
  generalize catalog.shelves.entries = shelves at each ⊢
  induction shelves with
  | nil => rfl
  | cons head rest ih =>
    obtain ⟨first, later⟩ := List.forall_mem_cons.1 each
    rw [List.flatMap_cons, List.filter_append, ← ih later]
    cases isChosen : chosen head.1 with
    | true =>
      have front : (drawer.rows head.2).filter p = drawer.rows head.2 :=
        List.filter_eq_self.2 fun row member => (first row member).trans isChosen
      rw [front, List.filter_cons, if_pos isChosen, List.flatMap_cons]
    | false =>
      have front : (drawer.rows head.2).filter p = [] :=
        List.filter_eq_nil_iff.2 fun row member => by simp [first row member, isChosen]
      rw [front, List.filter_cons, if_neg (by simp [isChosen]), List.nil_append]

theorem decide_subject {row : ρ} {other : String} (isOther : drawer.subject row = .text other)
    (name : String) : decide (drawer.subject row = .text name) = decide (other = name) := by
  simp [isOther]

/-- The rows of one subject are those of its shelf. -/
theorem filter_subject (sound : catalog.Sound) (name : String) :
    ((drawer.all catalog).filter fun row => drawer.subject row = .text name) =
      drawer.rows (catalog.shelf name) := by
  have onShelf : drawer.all ⟨catalog.shelves.restrict fun n => decide (n = name)⟩ =
      ((catalog.shelves.find? name).map (name, ·)).toList.flatMap fun e => drawer.rows e.2 :=
    congrArg (List.flatMap _) (Table.filter_key _ _)
  rw [← all_restrict sound fun _ _ isOther => decide_subject isOther name, onShelf, Catalog.shelf]
  cases catalog.shelves.find? name with
  | none => exact drawer.rows_empty.symm
  | some shelf => simp

/-- Rows that concern one subject only are looked for on its shelf. -/
theorem filter_about {p : ρ → Bool} (sound : catalog.Sound)
    (about : ∀ row, p row = true → drawer.subject row = .text name) :
    (drawer.all catalog).filter p = (drawer.rows (catalog.shelf name)).filter p := by
  rw [← filter_subject sound, List.filter_filter]
  refine List.filter_congr fun row _ => ?_
  cases chosen : p row with
  | false => rfl
  | true => simp [about row chosen]

/-- Catalogs that differ on one shelf have the same rows of all other subjects. -/
theorem all_others {other : Catalog} (sound : catalog.Sound) (after : other.Sound)
    (same : ∀ n, n ≠ name → other.shelf n = catalog.shelf n) :
    ((drawer.all other).filter fun row => !decide (drawer.subject row = .text name)) =
      (drawer.all catalog).filter fun row => !decide (drawer.subject row = .text name) := by
  have agree : ∀ n row, drawer.subject row = .text n →
      (!decide (drawer.subject row = .text name)) = !decide (n = name) := fun _ _ isOther =>
    congrArg not (decide_subject isOther name)
  have others : other.shelves.restrict (fun n => !decide (n = name)) =
      catalog.shelves.restrict fun n => !decide (n = name) := by
    refine Table.eq_of_find? fun n => ?_
    rw [Table.find?_restrict, Table.find?_restrict]
    by_cases isName : n = name
    · simp [isName]
    · have found : other.shelves.find? n = catalog.shelves.find? n := Option.ext fun shelf => by
        rw [after.find?_eq_some_iff, sound.find?_eq_some_iff, same n isName]
      rw [found]
  rw [← all_restrict after agree, others, all_restrict sound agree]

/-- The rows of one subject and those of all others. -/
theorem all_split (sound : catalog.Sound) (name : String) :
    (drawer.all catalog).Perm (drawer.rows (catalog.shelf name) ++
      (drawer.all catalog).filter fun row => !decide (drawer.subject row = .text name)) := by
  rw [← filter_subject sound]
  exact (List.filter_append_perm _ _).symm

/-- Setting a shelf replaces the rows of its subject and no others. -/
theorem all_setShelf (sound : catalog.Sound) (after : (catalog.setShelf name shelf).Sound) :
    (drawer.all (catalog.setShelf name shelf)).Perm (drawer.rows shelf ++
      (drawer.all catalog).filter fun row => !decide (drawer.subject row = .text name)) := by
  have split := drawer.all_split after name
  rwa [Catalog.shelf_setShelf_self,
    all_others sound after fun _ => Catalog.shelf_setShelf_of_ne shelf] at split

/-- What comes to one shelf comes to the rows of all. -/
theorem all_grown {other : Catalog} {come : List ρ} (sound : catalog.Sound) (after : other.Sound)
    (same : ∀ n, n ≠ name → other.shelf n = catalog.shelf n)
    (onShelf : (drawer.rows (other.shelf name)).Perm (drawer.rows (catalog.shelf name) ++ come)) :
    (drawer.all other).Perm (drawer.all catalog ++ come) := by
  have split := drawer.all_split after name
  rw [all_others sound after same] at split
  refine (split.trans (onShelf.append_right _)).trans ?_
  rw [List.append_assoc]
  refine (List.perm_append_comm.append_left _).trans ?_
  rw [← List.append_assoc]
  exact (drawer.all_split sound name).symm.append_right come

/-- What happens to the rows of one shelf happens to the rows of all. -/
theorem all_setShelf_of_perm {same : ρ → Bool} {row : ρ} (sound : catalog.Sound)
    (after : (catalog.setShelf name shelf).Sound)
    (about : ∀ row, same row = true → drawer.subject row = .text name)
    (onShelf : (drawer.rows shelf).Perm
      (row :: (drawer.rows (catalog.shelf name)).filter fun r => !same r)) :
    (drawer.all (catalog.setShelf name shelf)).Perm
      (row :: (drawer.all catalog).filter fun r => !same r) := by
  refine (all_setShelf sound after).trans ((onShelf.append_right _).trans ?_)
  rw [List.cons_append, ← filter_subject sound, List.filter_filter]
  refine List.Perm.cons row ?_
  have split := List.filter_append_perm (fun r => decide (drawer.subject r = .text name))
    ((drawer.all catalog).filter fun r => !same r)
  rw [List.filter_filter, List.filter_filter] at split
  have front : ((drawer.all catalog).filter fun r =>
      decide (drawer.subject r = .text name) && !same r) =
      (drawer.all catalog).filter fun r => !same r && decide (drawer.subject r = .text name) :=
    List.filter_congr fun r _ => Bool.and_comm _ _
  have back : ((drawer.all catalog).filter fun r =>
      !decide (drawer.subject r = .text name) && !same r) =
      (drawer.all catalog).filter fun r => !decide (drawer.subject r = .text name) := by
    refine List.filter_congr fun r _ => ?_
    cases isSame : same r with
    | false => simp
    | true => simp [about r isSame]
  rwa [front, back] at split

/-- A table in which a shelf has the rows that it had before stays as it is. -/
theorem all_setShelf_of_eq (sound : catalog.Sound) (after : (catalog.setShelf name shelf).Sound)
    (onShelf : drawer.rows shelf = drawer.rows (catalog.shelf name)) :
    (drawer.all (catalog.setShelf name shelf)).Perm (drawer.all catalog) := by
  refine (all_setShelf sound after).trans ?_
  rw [onShelf, ← filter_subject sound]
  exact List.filter_append_perm _ _

end Drawer

end SchemaLedger
