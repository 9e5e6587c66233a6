namespace SchemaLedger

/-- The order of keys is a strict total one. -/
class KeyOrder (κ : Type) [LT κ] : Prop where
  trans {a b c : κ} : a < b → b < c → a < c
  irrefl (a : κ) : ¬a < a
  antisymm {a b : κ} : ¬a < b → ¬b < a → a = b

instance : KeyOrder String where
  trans := String.lt_trans
  irrefl := String.lt_irrefl
  antisymm below above := String.le_antisymm (String.not_lt.1 above) (String.not_lt.1 below)

instance : KeyOrder UInt32 where
  trans := UInt32.lt_trans
  irrefl := UInt32.lt_irrefl
  antisymm below above := UInt32.le_antisymm (UInt32.not_lt.1 above) (UInt32.not_lt.1 below)

structure Table (κ α : Type) [LT κ] where
  entries : List (κ × α)
  ascending : entries.Pairwise fun a b => a.1 < b.1

namespace Table

variable {κ α β : Type} [LT κ] [DecidableLT κ]

instance [DecidableEq κ] [DecidableEq α] : DecidableEq (Table κ α) := fun a b =>
  decidable_of_iff (a.entries = b.entries)
    ⟨fun h => by cases a; cases b; simp_all, fun h => h ▸ rfl⟩

def empty : Table κ α := ⟨[], .nil⟩

instance : EmptyCollection (Table κ α) := ⟨empty⟩

instance : Inhabited (Table κ α) := ⟨empty⟩

def keys (table : Table κ α) : List κ := table.entries.map (·.1)

def size (table : Table κ α) : Nat := table.entries.length

/-- The search ends at the first greater key. -/
def lookup (key : κ) : List (κ × α) → Option α
  | [] => none
  | (k, v) :: rest =>
    if key < k then none else if k < key then lookup key rest else some v

def find? (table : Table κ α) (key : κ) : Option α := lookup key table.entries

def contains (table : Table κ α) (key : κ) : Bool := (table.find? key).isSome

/-- Replaces what stands at a key by what `f` makes of it, in one pass; `none` is no entry. -/
def alterEntries (key : κ) (f : Option α → Option α) : List (κ × α) → List (κ × α)
  | [] => ((f none).map (key, ·)).toList
  | (k, v) :: rest =>
    if key < k then ((f none).map (key, ·)).toList ++ (k, v) :: rest
    else if k < key then (k, v) :: alterEntries key f rest
    else ((f (some v)).map (k, ·)).toList ++ rest

theorem mem_alterEntries {key : κ} {f : Option α → Option α} {entries : List (κ × α)} {e : κ × α}
    (member : e ∈ alterEntries key f entries) : e.1 = key ∨ ∃ e' ∈ entries, e'.1 = e.1 := by
  induction entries with
  | nil =>
    simp only [alterEntries, Option.mem_toList, Option.map_eq_some_iff] at member
    obtain ⟨v, -, rfl⟩ := member
    exact .inl rfl
  | cons head rest ih =>
    obtain ⟨k, v⟩ := head
    simp only [alterEntries] at member
    split at member
    · rcases List.mem_append.1 member with h | h
      · simp only [Option.mem_toList, Option.map_eq_some_iff] at h
        obtain ⟨w, -, rfl⟩ := h
        exact .inl rfl
      · exact .inr ⟨e, h, rfl⟩
    · split at member
      · rcases List.mem_cons.1 member with rfl | h
        · exact .inr ⟨_, List.mem_cons_self, rfl⟩
        · rcases ih h with h | ⟨e', h, same⟩
          · exact .inl h
          · exact .inr ⟨e', List.mem_cons_of_mem _ h, same⟩
      · rcases List.mem_append.1 member with h | h
        · simp only [Option.mem_toList, Option.map_eq_some_iff] at h
          obtain ⟨w, -, rfl⟩ := h
          exact .inr ⟨_, List.mem_cons_self, rfl⟩
        · exact .inr ⟨e, List.mem_cons_of_mem _ h, rfl⟩

theorem ascending_alterEntries [KeyOrder κ] {key : κ}
    {f : Option α → Option α} {entries : List (κ × α)}
    (ascending : entries.Pairwise fun a b => a.1 < b.1) :
    (alterEntries key f entries).Pairwise fun a b => a.1 < b.1 := by
  induction entries with
  | nil =>
    simp only [alterEntries]
    cases f none <;> simp
  | cons head rest ih =>
    obtain ⟨k, v⟩ := head
    obtain ⟨above, ascending⟩ := List.pairwise_cons.1 ascending
    simp only [alterEntries]
    split
    · rename_i below
      cases f none with
      | none => exact List.pairwise_cons.2 ⟨above, ascending⟩
      | some w =>
        refine List.pairwise_cons.2 ⟨fun e h => ?_, List.pairwise_cons.2 ⟨above, ascending⟩⟩
        rcases List.mem_cons.1 h with rfl | h
        · exact below
        · exact KeyOrder.trans below (above e h)
    · split
      · rename_i beyond
        refine List.pairwise_cons.2 ⟨fun e h => ?_, ih ascending⟩
        rcases mem_alterEntries h with same | ⟨e', h, same⟩
        · exact same ▸ beyond
        · exact same ▸ above e' h
      · cases f (some v) with
        | none => exact ascending
        | some w => exact List.pairwise_cons.2 ⟨above, ascending⟩

section Order
variable [KeyOrder κ]

def alter (table : Table κ α) (key : κ) (f : Option α → Option α) : Table κ α :=
  ⟨alterEntries key f table.entries, ascending_alterEntries table.ascending⟩

def insert (table : Table κ α) (key : κ) (value : α) : Table κ α :=
  table.alter key fun _ => some value

def erase (table : Table κ α) (key : κ) : Table κ α :=
  table.alter key fun _ => none

/-- The last of several entries with one key counts. -/
def ofList (entries : List (κ × α)) : Table κ α :=
  entries.foldl (fun table e => table.insert e.1 e.2) empty

end Order

/-- The entries whose keys are chosen. -/
def restrict (table : Table κ α) (chosen : κ → Bool) : Table κ α :=
  ⟨table.entries.filter fun e => chosen e.1, table.ascending.filter _⟩

end Table

/-- A finite set of texts, in ascending order. Code points order texts as their UTF-8 bytes do. -/
abbrev Names := Table String Unit

namespace Names

def ofList (names : List String) : Names := Table.ofList (names.map (·, ()))

def toList (names : Names) : List String := Table.keys names

/-- The names of the first set that the second lacks. -/
def without (names others : Names) : Names := names.restrict fun n => !others.contains n

end Names

end SchemaLedger
