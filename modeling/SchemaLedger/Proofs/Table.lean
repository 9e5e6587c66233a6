import SchemaLedger.Table

namespace SchemaLedger.Table

variable {κ α β : Type} [LT κ] [DecidableLT κ]

@[simp]
theorem find?_empty (key : κ) : (empty : Table κ α).find? key = none := rfl

theorem lookup_eq_none_of_above {key : κ} {entries : List (κ × α)}
    (above : ∀ e ∈ entries, key < e.1) : lookup key entries = none := by
  cases entries with
  | nil => rfl
  | cons head rest => rw [lookup, if_pos (above head List.mem_cons_self)]

omit [DecidableLT κ] in
theorem keys_ascending (table : Table κ α) : table.keys.Pairwise (· < ·) := by
  simpa [keys, List.pairwise_map] using table.ascending

section Order
variable [KeyOrder κ]

theorem lookup_eq_some_iff {key : κ} {value : α} {entries : List (κ × α)}
    (ascending : entries.Pairwise fun a b => a.1 < b.1) :
    lookup key entries = some value ↔ (key, value) ∈ entries := by
  induction entries with
  | nil => simp [lookup]
  | cons head rest ih =>
    obtain ⟨k, v⟩ := head
    obtain ⟨above, ascending⟩ := List.pairwise_cons.1 ascending
    simp only [lookup]
    split
    · rename_i below
      constructor
      · simp
      · intro member
        rcases List.mem_cons.1 member with same | later
        · cases same
          exact absurd below (KeyOrder.irrefl key)
        · exact absurd (KeyOrder.trans below (above _ later)) (KeyOrder.irrefl key)
    · split
      · rename_i _ beyond
        rw [ih ascending, List.mem_cons]
        constructor
        · exact Or.inr
        · rintro (same | later)
          · cases same
            exact absurd beyond (KeyOrder.irrefl key)
          · exact later
      · rename_i notBelow notBeyond
        have same : key = k := KeyOrder.antisymm notBelow notBeyond
        subst same
        rw [List.mem_cons]
        constructor
        · rintro ⟨⟩
          exact Or.inl rfl
        · rintro (same | later)
          · cases same
            rfl
          · exact absurd (above _ later) (KeyOrder.irrefl key)

theorem find?_eq_some_iff {table : Table κ α} {key : κ} {value : α} :
    table.find? key = some value ↔ (key, value) ∈ table.entries :=
  lookup_eq_some_iff table.ascending

/-- Looking for a key among entries that begin with what may stand at another key. -/
theorem lookup_front {key other : κ} {found : Option α} {rest : List (κ × α)}
    (above : ∀ e ∈ rest, key < e.1) :
    lookup other ((found.map (key, ·)).toList ++ rest) =
      if ¬other < key ∧ ¬key < other then found else lookup other rest := by
  have none_of_lt (low : other < key) : lookup other rest = none :=
    lookup_eq_none_of_above fun e member => KeyOrder.trans low (above e member)
  cases found with
  | none =>
    rw [Option.map_none, Option.toList_none, List.nil_append]
    split
    · rename_i same
      rw [KeyOrder.antisymm same.1 same.2]
      exact lookup_eq_none_of_above above
    · rfl
  | some value =>
    rw [Option.map_some, Option.toList_some, List.singleton_append, lookup]
    by_cases low : other < key
    · simp [low, none_of_lt low]
    · by_cases high : key < other <;> simp [low, high]

theorem lookup_alterEntries {key other : κ} {f : Option α → Option α} {entries : List (κ × α)}
    (ascending : entries.Pairwise fun a b => a.1 < b.1) :
    lookup other (alterEntries key f entries) =
      if ¬other < key ∧ ¬key < other then f (lookup key entries) else lookup other entries := by
  induction entries with
  | nil =>
    have front := @lookup_front κ α _ _ _ key other (f none) [] (by simp)
    rwa [List.append_nil] at front
  | cons head rest ih =>
    obtain ⟨k, v⟩ := head
    obtain ⟨above, ascending⟩ := List.pairwise_cons.1 ascending
    by_cases lower : key < k
    · -- The key stands in front of every entry, so nothing was found under it.
      have later : ∀ e ∈ (k, v) :: rest, key < e.1 :=
        List.forall_mem_cons.2 ⟨lower, fun e member => KeyOrder.trans lower (above e member)⟩
      rw [alterEntries, if_pos lower, lookup_front later, lookup_eq_none_of_above later]
    · by_cases higher : k < key
      · rw [alterEntries, if_neg lower, if_pos higher]
        simp only [lookup, if_neg lower, if_pos higher, ih ascending]
        by_cases below : other < k
        · have low := KeyOrder.trans below higher
          simp [below, low]
        · by_cases beyond : k < other
          · simp [below, beyond]
          · have equal : other = k := KeyOrder.antisymm below beyond
            subst equal
            simp [higher, KeyOrder.irrefl]
      · have equal : key = k := KeyOrder.antisymm lower higher
        subst equal
        have old := @lookup_front κ α _ _ _ key other (some v) rest above
        rw [Option.map_some, Option.toList_some, List.singleton_append] at old
        rw [alterEntries, if_neg lower, if_neg lower, lookup_front above, old, lookup,
          if_neg lower, if_neg lower]
        split <;> rfl

theorem find?_alter_self (table : Table κ α) (key : κ) (f : Option α → Option α) :
    (table.alter key f).find? key = f (table.find? key) := by
  simp only [find?, alter]
  rw [lookup_alterEntries table.ascending, if_pos ⟨KeyOrder.irrefl key, KeyOrder.irrefl key⟩]

theorem find?_alter_of_ne (table : Table κ α) {key other : κ} (f : Option α → Option α)
    (different : other ≠ key) : (table.alter key f).find? other = table.find? other := by
  simp only [find?, alter]
  rw [lookup_alterEntries table.ascending, if_neg]
  rintro ⟨below, beyond⟩
  exact different (KeyOrder.antisymm below beyond)

@[simp]
theorem find?_insert_self (table : Table κ α) (key : κ) (value : α) :
    (table.insert key value).find? key = some value :=
  table.find?_alter_self key _

theorem find?_insert_of_ne (table : Table κ α) {key other : κ} (value : α)
    (different : other ≠ key) : (table.insert key value).find? other = table.find? other :=
  table.find?_alter_of_ne _ different

theorem find?_restrict (table : Table κ α) (chosen : κ → Bool) (key : κ) :
    (table.restrict chosen).find? key = if chosen key then table.find? key else none := by
  have found (value : α) :
      (table.restrict chosen).find? key = some value ↔
        chosen key = true ∧ table.find? key = some value := by
    rw [find?_eq_some_iff, find?_eq_some_iff]
    simp [restrict, and_comm]
  cases atKey : (table.restrict chosen).find? key with
  | some value =>
    obtain ⟨isChosen, before⟩ := (found value).1 atKey
    rw [if_pos isChosen, before]
  | none =>
    split
    · rename_i isChosen
      cases before : table.find? key with
      | none => rfl
      | some value =>
        rw [(found value).2 ⟨isChosen, before⟩] at atKey
        cases atKey
    · rfl

/-- The last entry has the greatest key. -/
theorem find?_of_getLast? {table : Table κ α} {key : κ} {value : α}
    (last : table.entries.getLast? = some (key, value)) :
    table.find? key = some value ∧
      ∀ other, (table.find? other).isSome → other = key ∨ other < key := by
  obtain ⟨init, whole⟩ := List.getLast?_eq_some_iff.1 last
  refine ⟨find?_eq_some_iff.2 (by simp [whole]), fun other found => ?_⟩
  obtain ⟨value', found⟩ := Option.isSome_iff_exists.1 found
  have member := find?_eq_some_iff.1 found
  have ascending := table.ascending
  rw [whole] at member ascending
  rcases List.mem_append.1 member with before | same
  · exact .inr ((List.pairwise_append.1 ascending).2.2 _ before _ List.mem_cons_self)
  · cases List.mem_singleton.1 same
    exact .inl rfl

theorem mem_keys_iff {table : Table κ α} {key : κ} :
    key ∈ table.keys ↔ (table.find? key).isSome := by
  rw [Option.isSome_iff_exists]
  simp only [find?_eq_some_iff, keys, List.mem_map]
  constructor
  · rintro ⟨⟨k, v⟩, member, rfl⟩
    exact ⟨v, member⟩
  · rintro ⟨v, member⟩
    exact ⟨(key, v), member, rfl⟩

theorem contains_eq_true_iff {table : Table κ α} {key : κ} :
    table.contains key = true ↔ key ∈ table.keys := by
  rw [mem_keys_iff, contains]

omit [DecidableLT κ] in
theorem keys_nodup (table : Table κ α) : table.keys.Nodup :=
  table.keys_ascending.imp fun {a b} below same => by
    subst same
    exact KeyOrder.irrefl a below

omit [DecidableLT κ] in
theorem entries_nodup (table : Table κ α) : table.entries.Nodup :=
  List.Pairwise.of_map Prod.fst (fun _ _ different same => different (congrArg _ same))
    table.keys_nodup

/-- The order of the entries leaves no freedom: what is found decides the whole table. -/
theorem eq_of_find? {a b : Table κ α} (same : ∀ key, a.find? key = b.find? key) : a = b := by
  have members (e : κ × α) : e ∈ a.entries ↔ e ∈ b.entries := by
    rw [← find?_eq_some_iff, ← find?_eq_some_iff, same]
  have shuffled : a.entries.Perm b.entries :=
    (List.perm_ext_iff_of_nodup a.entries_nodup b.entries_nodup).2 members
  have equal : a.entries = b.entries :=
    List.Perm.eq_of_pairwise
      (fun x y _ _ below above => absurd (KeyOrder.trans below above) (KeyOrder.irrefl x.1))
      a.ascending b.ascending shuffled
  cases a
  cases b
  cases equal
  rfl

theorem find?_ofList_isSome {entries : List (κ × α)} {key : κ} :
    ((ofList entries).find? key).isSome ↔ ∃ e ∈ entries, e.1 = key := by
  have grown (table : Table κ α) :
      ((entries.foldl (fun table e => table.insert e.1 e.2) table).find? key).isSome ↔
        (table.find? key).isSome ∨ ∃ e ∈ entries, e.1 = key := by
    induction entries generalizing table with
    | nil => simp
    | cons head rest ih =>
      rw [List.foldl_cons, ih]
      by_cases same : key = head.1
      · subst same
        simp
      · rw [find?_insert_of_ne table head.2 same]
        have other : head.1 ≠ key := fun h => same h.symm
        simp [other]
  simpa [ofList] using grown empty

/-- Nothing but what is in a list comes into its table. -/
theorem mem_of_mem_ofList {entries : List (κ × α)} {e : κ × α}
    (member : e ∈ (ofList entries).entries) : e ∈ entries := by
  obtain ⟨key, value⟩ := e
  have grown (table : Table κ α) :
      (entries.foldl (fun table e => table.insert e.1 e.2) table).find? key = some value →
        (key, value) ∈ entries ∨ table.find? key = some value := by
    clear member
    induction entries generalizing table with
    | nil => exact .inr
    | cons head rest ih =>
      intro found
      rcases ih _ found with later | first
      · exact .inl (List.mem_cons_of_mem _ later)
      · by_cases same : key = head.1
        · subst same
          rw [find?_insert_self] at first
          cases first
          exact .inl List.mem_cons_self
        · rw [find?_insert_of_ne table head.2 same] at first
          exact .inr first
  rcases grown empty (find?_eq_some_iff.2 member) with later | nothing
  · exact later
  · cases nothing

/-- Of entries with different keys each is found. -/
theorem find?_ofList_eq_some_iff {entries : List (κ × α)} {key : κ} {value : α}
    (distinct : (entries.map Prod.fst).Nodup) :
    (ofList entries).find? key = some value ↔ (key, value) ∈ entries := by
  have grown (table : Table κ α) :
      (entries.foldl (fun table e => table.insert e.1 e.2) table).find? key = some value ↔
        (key, value) ∈ entries ∨ (key ∉ entries.map Prod.fst ∧ table.find? key = some value) := by
    induction entries generalizing table with
    | nil => simp
    | cons head rest ih =>
      obtain ⟨k, v⟩ := head
      obtain ⟨fresh, distinct⟩ := List.nodup_cons.1 distinct
      rw [List.foldl_cons, ih distinct]
      by_cases same : key = k
      · subst same
        have absent : (key, value) ∉ rest := fun member => fresh (List.mem_map.2 ⟨_, member, rfl⟩)
        simp only [find?_insert_self, absent, fresh, not_false_eq_true, true_and, false_or,
          List.mem_cons, or_false, Prod.mk.injEq, List.map_cons, not_true_eq_false, false_and,
          Option.some.injEq, eq_comm]
      · have other : (key, value) ≠ (k, v) := fun equal => same (congrArg Prod.fst equal)
        simp [find?_insert_of_ne table v same, same, other]
  simpa [ofList] using grown empty

theorem entries_ofList_perm {entries : List (κ × α)} (distinct : (entries.map Prod.fst).Nodup) :
    (ofList entries).entries.Perm entries := by
  have nodup : entries.Nodup :=
    List.Pairwise.of_map Prod.fst (fun _ _ different same => different (congrArg _ same)) distinct
  refine (List.perm_ext_iff_of_nodup (entries_nodup _) nodup).2 fun e => ?_
  rw [← find?_ofList_eq_some_iff distinct, find?_eq_some_iff]

/-- The order of entries with different keys does not matter. -/
theorem ofList_perm {a b : List (κ × α)} (distinct : (a.map Prod.fst).Nodup)
    (shuffled : a.Perm b) : ofList a = ofList b := by
  refine eq_of_find? fun key => Option.ext fun value => ?_
  rw [find?_ofList_eq_some_iff distinct, shuffled.mem_iff,
    find?_ofList_eq_some_iff ((shuffled.map Prod.fst).nodup_iff.1 distinct)]

/-- At most one entry stands at a key. -/
theorem filter_key [DecidableEq κ] (table : Table κ α) (key : κ) :
    table.entries.filter (fun e => decide (e.1 = key)) =
      ((table.find? key).map (key, ·)).toList := by
  have nodup := table.entries_nodup.sublist (List.filter_sublist : table.entries.filter
    (fun e => decide (e.1 = key)) |>.Sublist table.entries)
  have members (e : κ × α) : e ∈ table.entries.filter (fun e => decide (e.1 = key)) ↔
      e ∈ ((table.find? key).map (key, ·)).toList := by
    obtain ⟨k, v⟩ := e
    simp only [List.mem_filter, ← find?_eq_some_iff, decide_eq_true_eq, Option.mem_toList,
      Option.map_eq_some_iff, Prod.mk.injEq]
    constructor
    · rintro ⟨found, rfl⟩
      exact ⟨v, found, rfl, rfl⟩
    · rintro ⟨v, found, rfl, rfl⟩
      exact ⟨found, rfl⟩
  have shuffled := (List.perm_ext_iff_of_nodup nodup (by
    cases table.find? key <;> simp)).2 members
  cases found : table.find? key with
  | none => rw [found] at shuffled; exact List.perm_nil.1 shuffled
  | some v => rw [found] at shuffled; exact List.perm_singleton.1 shuffled

/-- Insertion puts the new entry in the place of the one at its key. -/
theorem insert_perm [DecidableEq κ] (table : Table κ α) (key : κ) (value : α) :
    (table.insert key value).entries.Perm
      ((key, value) :: table.entries.filter fun e => !decide (e.1 = key)) := by
  have fresh : (key, value) ∉ table.entries.filter fun e => !decide (e.1 = key) := by simp
  refine (List.perm_ext_iff_of_nodup (entries_nodup _) (List.nodup_cons.2
    ⟨fresh, table.entries_nodup.sublist List.filter_sublist⟩)).2 fun e => ?_
  obtain ⟨k, v⟩ := e
  rw [← find?_eq_some_iff, List.mem_cons, List.mem_filter, ← find?_eq_some_iff]
  by_cases same : k = key
  · subst same
    simp [eq_comm]
  · simp [find?_insert_of_ne table value same, same]

theorem keys_insert_perm [DecidableEq κ] {table : Table κ α} {key : κ} (value : α)
    (absent : table.find? key = none) :
    (table.insert key value).keys.Perm (key :: table.keys) := by
  have others : table.entries.filter (fun e => !decide (e.1 = key)) = table.entries := by
    refine List.filter_eq_self.2 fun e isEntry => ?_
    have different : e.1 ≠ key := by
      rintro rfl
      rw [find?_eq_some_iff.2 isEntry] at absent
      cases absent
    simp [different]
  have shuffled := (table.insert_perm key value).map Prod.fst
  rwa [others] at shuffled

section Rows

variable [DecidableEq κ] {table : Table κ α} {key : κ} {row : α → β} {p : β → Bool}

/-- Among rows made of the entries, those chosen by their key are at most one. -/
theorem filter_map_key (agree : ∀ e ∈ table.entries, p (row e.2) = decide (e.1 = key)) :
    (table.entries.map fun e => row e.2).filter p = ((table.find? key).map row).toList := by
  have chosen : table.entries.filter (p ∘ fun e => row e.2) =
      table.entries.filter fun e => decide (e.1 = key) := List.filter_congr agree
  rw [List.filter_map, chosen, filter_key]
  cases table.find? key <;> rfl

theorem insert_map_perm (value : α)
    (agree : ∀ e ∈ table.entries, p (row e.2) = decide (e.1 = key)) :
    ((table.insert key value).entries.map fun e => row e.2).Perm
      (row value :: (table.entries.map fun e => row e.2).filter fun r => !p r) := by
  have others : (table.entries.filter fun e => !decide (e.1 = key)).map (fun e => row e.2) =
      (table.entries.map fun e => row e.2).filter fun r => !p r := by
    rw [List.filter_map]
    exact congrArg _ (List.filter_congr fun e isEntry => congrArg not (agree e isEntry).symm)
  rw [← others]
  exact (table.insert_perm key value).map fun e => row e.2

end Rows

omit [KeyOrder κ] in
theorem alterEntries_of_above {key : κ} {value : α} {entries : List (κ × α)}
    (notBelow : ∀ e ∈ entries, ¬key < e.1) (beyond : ∀ e ∈ entries, e.1 < key) :
    alterEntries key (fun _ => some value) entries = entries ++ [(key, value)] := by
  induction entries with
  | nil => rfl
  | cons head rest ih =>
    obtain ⟨notBelow, notBelowRest⟩ := List.forall_mem_cons.1 notBelow
    obtain ⟨beyond, beyondRest⟩ := List.forall_mem_cons.1 beyond
    rw [alterEntries, if_neg notBelow, if_pos beyond, ih notBelowRest beyondRest, List.cons_append]

theorem entries_foldl_insert {entries : List (κ × α)} (table : Table κ α)
    (ascending : (table.entries ++ entries).Pairwise fun a b => a.1 < b.1) :
    (entries.foldl (fun table e => table.insert e.1 e.2) table).entries =
      table.entries ++ entries := by
  induction entries generalizing table with
  | nil => simp
  | cons head rest ih =>
    have beyond : ∀ e ∈ table.entries, e.1 < head.1 := fun e member =>
      (List.pairwise_append.1 ascending).2.2 e member head List.mem_cons_self
    have notBelow : ∀ e ∈ table.entries, ¬head.1 < e.1 := fun e member below =>
      KeyOrder.irrefl _ (KeyOrder.trans below (beyond e member))
    have last : (table.insert head.1 head.2).entries = table.entries ++ [head] :=
      alterEntries_of_above notBelow beyond
    rw [List.append_cons, ← last] at ascending
    rw [List.foldl_cons, ih _ ascending, last, List.append_assoc, List.singleton_append]

/-- An ascending list is the entries of its table. -/
theorem entries_ofList {entries : List (κ × α)}
    (ascending : entries.Pairwise fun a b => a.1 < b.1) : (ofList entries).entries = entries :=
  entries_foldl_insert empty ascending

end Order

end SchemaLedger.Table

namespace SchemaLedger.Names

theorem contains_ofList {names : List String} {name : String} :
    Table.contains (ofList names) name = true ↔ name ∈ names := by
  rw [Table.contains, ofList, Table.find?_ofList_isSome]
  simp

theorem contains_iff_mem_toList {names : Names} {name : String} :
    Table.contains names name = true ↔ name ∈ names.toList :=
  Table.contains_eq_true_iff

theorem mem_toList_ofList {names : List String} {name : String} :
    name ∈ (ofList names).toList ↔ name ∈ names := by
  rw [← contains_iff_mem_toList, contains_ofList]

theorem eq_empty {names : Names} (nothing : names.size = 0) : names = .empty := by
  obtain ⟨entries, ascending⟩ := names
  cases List.length_eq_zero_iff.1 nothing
  rfl

theorem toList_nodup (names : Names) : names.toList.Nodup := Table.keys_nodup names

theorem contains_without {names others : Names} {name : String} :
    Table.contains (names.without others) name = true ↔
      Table.contains names name = true ∧ Table.contains others name = false := by
  simp only [Table.contains, without, Table.find?_restrict]
  split <;> simp_all

/-- Sets of names with the same members are the same set. -/
theorem eq_of_contains {a b : Names}
    (same : ∀ name, Table.contains a name = true ↔ Table.contains b name = true) : a = b := by
  refine Table.eq_of_find? fun name => ?_
  have equal : (a.find? name).isSome = (b.find? name).isSome := Bool.eq_iff_iff.2 (same name)
  cases inA : a.find? name <;> cases inB : b.find? name <;> simp_all

end SchemaLedger.Names
