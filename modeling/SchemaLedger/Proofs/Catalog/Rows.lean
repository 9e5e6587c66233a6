import Mathlib.Algebra.BigOperators.Group.List.Basic
import Mathlib.Algebra.GroupWithZero.Nat
import Mathlib.Data.List.Dedup
import Mathlib.Data.List.Perm.Basic
import SchemaLedger.Proofs.Catalog.Sound

namespace SchemaLedger

/-- The state after requests made one after the other. -/
def Keeper.after {σ : Type} (keeper : Keeper σ) (requests : List Request) (state : σ) : σ :=
  requests.foldl (fun state request => (keeper request state).2) state

/-- Whether a shelf has an entry, as a list that is as long as the number of its entries. -/
def Shelf.entered (shelf : Shelf) : List Unit := shelf.entry.toList.map fun _ => ()

/-- From one shelf to the other `count` versions came and nothing else but changes of the entry. -/
structure Shelf.Fills (old new : Shelf) (count : Nat) : Prop where
  versions : ∃ come, new.versions.keys.Perm (old.versions.keys ++ come) ∧ come.length = count
  artifacts : new.artifacts = old.artifacts
  remarks : new.remarks = old.remarks

namespace Shelf.Fills

variable {a b c : Shelf} {m n : Nat}

theorem refl (shelf : Shelf) : shelf.Fills shelf 0 where
  versions := ⟨[], by rw [List.append_nil], rfl⟩
  artifacts := rfl
  remarks := rfl

theorem trans (first : a.Fills b m) (second : b.Fills c n) : a.Fills c (m + n) where
  versions := by
    obtain ⟨come, before, length⟩ := first.versions
    obtain ⟨more, after, moreLength⟩ := second.versions
    refine ⟨come ++ more, ?_, by rw [List.length_append, length, moreLength]⟩
    rw [← List.append_assoc]
    exact after.trans (before.append_right more)
  artifacts := second.artifacts.trans first.artifacts
  remarks := second.remarks.trans first.remarks

theorem put (shelf : Shelf) (row : Snapshot) :
    shelf.Fills (shelf.put row).2 (if (shelf.put row).1 = .inserted then 1 else 0) where
  versions := by
    unfold Shelf.put
    split
    · exact ⟨[], by rw [List.append_nil], rfl⟩
    · rename_i absent
      have missing : shelf.versions.find? row.version = none :=
        Option.not_isSome_iff_eq_none.1 absent
      refine ⟨[row.version], ?_, rfl⟩
      exact (Table.keys_insert_perm row missing).trans (List.perm_append_singleton _ _).symm
  artifacts := artifacts_put shelf row
  remarks := remarks_put shelf row

/-- With its entry, a shelf shows whether it got its first version. -/
theorem entered {subject : String} (fills : a.Fills b n) (before : a.Sound subject)
    (after : b.Sound subject) : ∃ come, b.entered.Perm (a.entered ++ come) ∧
      come.length = if a.mark = none ∧ 0 < n then 1 else 0 := by
  obtain ⟨come, same, length⟩ := fills.versions
  have isEntered (shelf : Shelf) : shelf.entered = if shelf.entry.isSome then [()] else [] := by
    unfold Shelf.entered
    cases shelf.entry <;> rfl
  have marked : a.mark = none ↔ ¬a.entry.isSome := by
    rw [← before.mark_isSome, Option.not_isSome_iff_eq_none]
  have size := same.length_eq
  rw [List.length_append, length] at size
  have filled (shelf : Shelf) : shelf.versions.keys ≠ [] ↔ 0 < shelf.versions.keys.length :=
    List.length_pos_iff.symm
  rw [isEntered, isEntered]
  have beforeIff := before.entry_isSome_iff.trans (filled a)
  have afterIff := after.entry_isSome_iff.trans (filled b)
  by_cases had : a.entry.isSome
  · have has : b.entry.isSome := afterIff.2 (by have := beforeIff.1 had; omega)
    have noMark : ¬(a.mark = none ∧ 0 < n) := fun fresh => marked.1 fresh.1 had
    rw [if_pos had, if_pos has, if_neg noMark]
    exact ⟨[], .refl _, rfl⟩
  · have empty : ¬0 < a.versions.keys.length := fun some => had (beforeIff.2 some)
    by_cases new : 0 < n
    · have has : b.entry.isSome := afterIff.2 (by omega)
      rw [if_neg had, if_pos has, if_pos ⟨marked.2 had, new⟩]
      exact ⟨[()], .refl _, rfl⟩
    · have hasNot : ¬b.entry.isSome := fun has => by have := afterIff.1 has; omega
      rw [if_neg had, if_neg hasNot, if_neg fun fresh => new fresh.2]
      exact ⟨[], .refl _, rfl⟩

end Shelf.Fills

/-- A request that fills in versions brings at most the one that it puts. -/
theorem Catalog.fills_perform (catalog : Catalog) {request : Request} {subject : String}
    (fills : request.fills? = some subject) : (catalog.shelf subject).Fills
      ((catalog.perform request).2.shelf subject)
      (match request, (catalog.perform request).1 with
        | .put _, .inserted => 1
        | _, _ => 0) := by
  cases request with
  | mark | entry | snapshot | versions => exact .refl _
  | known | count | remove | entries | attach | annotate => cases fills
  | put row =>
    cases Option.some.inj fills
    have put := Shelf.Fills.put (catalog.shelf row.subject) row
    simp only [perform, Catalog.put, shelf_setShelf_self]
    cases outcome : ((catalog.shelf row.subject).put row).1 <;> rw [outcome] at put <;> exact put
  | update name change =>
    cases Option.some.inj fills
    simp only [perform, update_snd]
    exact ⟨⟨[], by rw [List.append_nil], rfl⟩, rfl, rfl⟩

namespace Catalog

variable {β ι : Type} {rows : Shelf → List β} {catalog old new : Catalog}

theorem Sound.after (sound : catalog.Sound) (requests : List Request) :
    (keeper.after requests catalog).Sound := by
  induction requests generalizing catalog with
  | nil => exact sound
  | cons request rest ih => exact ih (sound.perform request)

/-- The rows of one kind that some subjects have, each with its subject. -/
def rowsOf (rows : Shelf → List β) (catalog : Catalog) (subjects : List String) :
    List (String × β) :=
  subjects.flatMap fun subject => (rows (catalog.shelf subject)).map (subject, ·)

/-- All rows of one kind. -/
def allRows (rows : Shelf → List β) (catalog : Catalog) : List (String × β) :=
  rowsOf rows catalog catalog.shelves.keys

/-- From one catalog to another, `lost` rows of a kind go and `gained` rows come. No row does
both. -/
def Changes (rows : Shelf → List β) (old new : Catalog) (lost gained : Nat) : Prop :=
  ∃ kept gone come, (allRows rows old).Perm (kept ++ gone) ∧
    (allRows rows new).Perm (kept ++ come) ∧ gone.Disjoint come ∧ gone.length = lost ∧
    come.length = gained

theorem length_rowsOf (rows : Shelf → List β) (catalog : Catalog) (subjects : List String) :
    (rowsOf rows catalog subjects).length =
      (subjects.map fun subject => (rows (catalog.shelf subject)).length).sum := by
  simp only [rowsOf, List.length_flatMap, List.length_map]

theorem subject_of_rowsOf {subjects : List String} {row : String × β}
    (member : row ∈ rowsOf rows catalog subjects) : row.1 ∈ subjects := by
  obtain ⟨subject, listed, own⟩ := List.mem_flatMap.1 member
  obtain ⟨_, _, rfl⟩ := List.mem_map.1 own
  exact listed

/-- Subjects without rows may be left out. -/
theorem rowsOf_filter (rows : Shelf → List β) (catalog : Catalog) (subjects : List String) :
    rowsOf rows catalog subjects =
      rowsOf rows catalog (subjects.filter fun s => !(rows (catalog.shelf s)).isEmpty) := by
  induction subjects with
  | nil => rfl
  | cons subject rest ih =>
    simp only [rowsOf, List.flatMap_cons, List.filter_cons] at ih ⊢
    rw [ih]
    cases onShelf : rows (catalog.shelf subject) with
    | nil => simp
    | cons row others => simp [onShelf]

/-- Two lists of subjects that have the same rows in them. -/
theorem rowsOf_perm {first second : List String} (distinct : first.Nodup)
    (distinct' : second.Nodup)
    (same : ∀ s, rows (catalog.shelf s) ≠ [] → (s ∈ first ↔ s ∈ second)) :
    (rowsOf rows catalog first).Perm (rowsOf rows catalog second) := by
  rw [rowsOf_filter rows catalog first, rowsOf_filter rows catalog second]
  refine List.Perm.flatMap_right _ ?_
  refine (List.perm_ext_iff_of_nodup (distinct.filter _) (distinct'.filter _)).2 fun s => ?_
  rw [List.mem_filter, List.mem_filter, Bool.not_eq_true', List.isEmpty_eq_false_iff]
  constructor
  · rintro ⟨member, nonempty⟩
    exact ⟨(same s nonempty).1 member, nonempty⟩
  · rintro ⟨member, nonempty⟩
    exact ⟨(same s nonempty).2 member, nonempty⟩

theorem mem_keys_of_rows (none : rows .empty = []) {subject : String}
    (nonempty : rows (catalog.shelf subject) ≠ []) : subject ∈ catalog.shelves.keys := by
  rw [Table.mem_keys_iff]
  cases found : catalog.shelves.find? subject with
  | some shelf => rfl
  | none =>
    rw [shelf, found, Option.getD_none, none] at nonempty
    exact absurd rfl nonempty

/-- Subjects that have work done on their shelves and lose nothing by it. -/
theorem rowsOf_grown {work : List ι} {subject : ι → String} {gained : ι → Nat}
    (grown : ∀ item ∈ work, ∃ come : List β, (rows (new.shelf (subject item))).Perm
      (rows (old.shelf (subject item)) ++ come) ∧ come.length = gained item) :
    ∃ come, (rowsOf rows new (work.map subject)).Perm
        (rowsOf rows old (work.map subject) ++ come) ∧
      come.length = (work.map gained).sum ∧ ∀ row ∈ come, row.1 ∈ work.map subject := by
  induction work with
  | nil => exact ⟨[], .refl _, rfl, nofun⟩
  | cons item rest ih =>
    obtain ⟨⟨own, ownRows, length⟩, others⟩ := List.forall_mem_cons.1 grown
    obtain ⟨come, restRows, restLength, listed⟩ := ih others
    refine ⟨own.map (subject item, ·) ++ come, ?_, ?_, ?_⟩
    · have first := ownRows.map (subject item, ·)
      rw [List.map_append] at first
      have whole := first.append restRows
      simp only [rowsOf, List.map_cons, List.flatMap_cons, List.append_assoc] at whole ⊢
      refine whole.trans (List.Perm.append_left _ ?_)
      rw [← List.append_assoc, ← List.append_assoc]
      exact List.perm_append_comm.append_right _
    · simp [restLength, length]
    · intro row member
      rcases List.mem_append.1 member with front | back
      · obtain ⟨_, _, rfl⟩ := List.mem_map.1 front
        exact List.mem_cons_self
      · exact List.mem_cons_of_mem _ (listed row back)

/-- Some shelves are cleared, work is done on others, and the rest stays as it is. -/
theorem changes_of_shelves (none : rows .empty = []) {cleared : List String} {work : List ι}
    {subject : ι → String} {gained : ι → Nat} (distinct : (cleared ++ work.map subject).Nodup)
    (removed : ∀ s ∈ cleared, new.shelf s = .empty)
    (idle : ∀ s, s ∉ cleared → s ∉ work.map subject →
      rows (new.shelf s) = rows (old.shelf s))
    (grown : ∀ item ∈ work, ∃ come : List β, (rows (new.shelf (subject item))).Perm
      (rows (old.shelf (subject item)) ++ come) ∧ come.length = gained item) :
    Changes rows old new (rowsOf rows old cleared).length (work.map gained).sum := by
  obtain ⟨come, grownRows, length, listed⟩ := rowsOf_grown grown
  let rest := (old.shelves.keys ++ new.shelves.keys).dedup.filter
    fun s => decide (s ∉ cleared ++ work.map subject)
  have restOut {s : String} (member : s ∈ rest) : s ∉ cleared ++ work.map subject :=
    of_decide_eq_true (List.mem_filter.1 member).2
  have distinctAll : ((cleared ++ work.map subject) ++ rest).Nodup := by
    refine List.nodup_append'.2 ⟨distinct, (List.nodup_dedup _).filter _, ?_⟩
    exact fun s front back => restOut back front
  have covers {s : String} (known : s ∈ old.shelves.keys ++ new.shelves.keys) :
      s ∈ (cleared ++ work.map subject) ++ rest := by
    by_cases front : s ∈ cleared ++ work.map subject
    · exact List.mem_append_left _ front
    · exact List.mem_append_right _ (List.mem_filter.2 ⟨List.mem_dedup.2 known, decide_eq_true front⟩)
  have oldRows : (allRows rows old).Perm (rowsOf rows old ((cleared ++ work.map subject) ++ rest)) :=
    rowsOf_perm (Table.keys_nodup _) distinctAll fun s nonempty =>
      have known := mem_keys_of_rows none nonempty
      iff_of_true known (covers (List.mem_append_left _ known))
  have newRows : (allRows rows new).Perm (rowsOf rows new ((cleared ++ work.map subject) ++ rest)) :=
    rowsOf_perm (Table.keys_nodup _) distinctAll fun s nonempty =>
      have known := mem_keys_of_rows none nonempty
      iff_of_true known (covers (List.mem_append_right _ known))
  have noRows : rowsOf rows new cleared = [] := by
    refine List.flatMap_eq_nil_iff.2 fun s member => ?_
    rw [removed s member, none, List.map_nil]
  have restRows : rowsOf rows new rest = rowsOf rows old rest := by
    refine List.flatMap_congr fun s member => ?_
    have outside := restOut member
    rw [List.mem_append, not_or] at outside
    rw [idle s outside.1 outside.2]
  refine ⟨rowsOf rows old (work.map subject) ++ rowsOf rows old rest, rowsOf rows old cleared, come,
    ?_, ?_, ?_, rfl, length⟩
  · refine oldRows.trans ?_
    simp only [rowsOf, List.flatMap_append, List.append_assoc]
    exact List.perm_append_comm.trans (by rw [List.append_assoc])
  · refine newRows.trans ?_
    have split : rowsOf rows new ((cleared ++ work.map subject) ++ rest) =
        rowsOf rows new (work.map subject) ++ rowsOf rows old rest := by
      rw [← restRows, ← List.nil_append (rowsOf rows new (work.map subject)), ← noRows]
      simp only [rowsOf, List.flatMap_append]
    rw [split, List.append_assoc]
    refine (grownRows.append_right _).trans ?_
    rw [List.append_assoc]
    exact List.perm_append_comm.append_left _
  · intro row gone comes
    have front := subject_of_rowsOf gone
    exact (List.nodup_append'.1 distinct).2.2 front (listed row comes)

/-- Counts of shelves are added up kind by kind. -/
theorem foldl_counts (shelves : List (String × Shelf)) (start : RowCounts) :
    shelves.foldl (fun counts e => counts.add e.2.counts) start = start.add
      ⟨(shelves.map fun e => e.2.entered.length).sum,
        (shelves.map fun e => e.2.versions.keys.length).sum,
        (shelves.map fun e => e.2.artifacts.length).sum,
        (shelves.map fun e => e.2.remarks.entries.length).sum⟩ := by
  induction shelves generalizing start with
  | nil => rfl
  | cons head rest ih =>
    have entered : head.2.entered.length = if head.2.entry.isSome then 1 else 0 := by
      unfold Shelf.entered
      cases head.2.entry <;> rfl
    rw [List.foldl_cons, ih]
    simp only [RowCounts.add, Shelf.counts, List.map_cons, List.sum_cons, entered, Table.size,
      Table.keys, List.length_map, Nat.add_assoc]

theorem sum_of_restrict (none : rows .empty = []) (catalog : Catalog) (names : Names) :
    ((catalog.shelves.restrict names.contains).entries.map fun e => (rows e.2).length).sum =
      (rowsOf rows catalog names.toList).length := by
  have find (s : String) := Table.find?_restrict catalog.shelves names.contains s
  have shelves : ((catalog.shelves.restrict names.contains).entries.map
      fun e => (rows e.2).length) = (catalog.shelves.restrict names.contains).keys.map
        fun s => (rows (catalog.shelf s)).length := by
    rw [Table.keys, List.map_map]
    refine List.map_congr_left fun e isEntry => ?_
    have found := Table.find?_eq_some_iff.2 isEntry
    rw [find] at found
    split at found
    · rw [Function.comp_apply, Catalog.shelf, found, Option.getD_some]
    · cases found
  rw [shelves, ← length_rowsOf]
  refine (rowsOf_perm (Table.keys_nodup _) names.toList_nodup fun s nonempty => ?_).length_eq
  have known := Table.mem_keys_iff.1 (mem_keys_of_rows none nonempty)
  rw [Table.mem_keys_iff, find, ← Names.contains_iff_mem_toList]
  cases Table.contains names s with
  | true => exact iff_of_true known rfl
  | false => simp

/-- The count of a catalog is the number of rows that the subjects have, kind by kind. -/
theorem count_eq_rowsOf (catalog : Catalog) (names : Names) :
    catalog.count names = ⟨(rowsOf Shelf.entered catalog names.toList).length,
      (rowsOf (·.versions.keys) catalog names.toList).length,
      (rowsOf (·.artifacts) catalog names.toList).length,
      (rowsOf (·.remarks.entries) catalog names.toList).length⟩ := by
  have sums := foldl_counts (catalog.shelves.restrict names.contains).entries .zero
  simp only [RowCounts.add, RowCounts.zero, Nat.zero_add] at sums
  rw [← sum_of_restrict rfl, ← sum_of_restrict rfl, ← sum_of_restrict rfl, ← sum_of_restrict rfl]
  exact sums

end Catalog

end SchemaLedger
