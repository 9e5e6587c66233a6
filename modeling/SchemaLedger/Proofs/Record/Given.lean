import Mathlib.Data.List.Forall2
import Mathlib.Data.List.Nodup
import SchemaLedger.Proofs.Record.Faithful

namespace SchemaLedger

namespace Document

/-- The document is a string that spells the text. -/
def Says (document : Document) (text : String) : Prop :=
  ∃ quoted, document = .string quoted ∧ Quoted.Spelt text.toList quoted

/-- The document is a numeral without fraction and exponent, and not a zero with a sign. -/
def Counts (document : Document) (value : Int) : Prop :=
  ∃ negative digits, document = .number ⟨negative, digits, none, none⟩ ∧
    ¬(negative = true ∧ decimalNumber digits = 0) ∧
    value = if negative then -(decimalNumber digits : Int) else decimalNumber digits

/-- A document gives the fields with these names: an object by its members, of which no more than
one may have the name of a field, and an array by its items, which may end early. -/
inductive Gives (names : List String) (given : String → Option Document) : Document → Prop
  | object {members : List (Quoted × Document)}
    (legible : ∀ m ∈ members, ∃ key : String, Quoted.Spelt key.toList m.1)
    (fields : ∀ name ∈ names,
      (members.filter fun m => Quoted.Spelt name.toList m.1).map (·.2) = (given name).toList) :
    Gives names given (.object members)
  | array {items : List Document} (few : items.length ≤ names.length)
    (fields : ∀ (i : Nat) (name : String), names[i]? = some name → given name = items[i]?) :
    Gives names given (.array items)

variable {members : List (Quoted × Document)} {named : List (String × Document)} {name : String}

theorem readKeys?_cons {member : Quoted × Document} : readKeys? (member :: members) =
    member.1.text?.bind fun key => (readKeys? members).map ((key, member.2) :: ·) := by
  obtain ⟨quoted, document⟩ := member
  simp only [readKeys?, List.mapM_cons]
  cases quoted.text? with
  | none => rfl
  | some key => exact (Option.map_eq_bind ..).symm

/-- The keys of an object are read when each of them spells a text. -/
theorem exists_readKeys?_iff : (∃ named, readKeys? members = some named) ↔
    ∀ m ∈ members, ∃ key : String, Quoted.Spelt key.toList m.1 := by
  induction members with
  | nil => simp [readKeys?]
  | cons member rest ih =>
    rw [List.forall_mem_cons, ← ih, readKeys?_cons]
    simp only [← Quoted.text?_eq_some_iff]
    cases member.1.text? <;> simp

/-- The members of a name are the same before and after the keys are read. -/
theorem filter_of_readKeys? (read : readKeys? members = some named) :
    (named.filter (·.1 == name)).map (·.2) =
      (members.filter fun m => Quoted.Spelt name.toList m.1).map (·.2) := by
  induction members generalizing named with
  | nil =>
    cases read
    rfl
  | cons member rest ih =>
    rw [readKeys?_cons] at read
    obtain ⟨key, isKey, read⟩ := Option.bind_eq_some_iff.1 read
    obtain ⟨others, later, rfl⟩ := Option.map_eq_some_iff.1 read
    by_cases same : key = name
    · have spelt := Quoted.text?_eq_some_iff.1 (same ▸ isKey)
      simp [same, spelt, ih later]
    · have other : ¬Quoted.Spelt name.toList member.1 := fun spelt =>
        same (Option.some.inj (isKey.symm.trans (Quoted.text?_eq_some_iff.2 spelt)))
      simp [same, other, ih later]

theorem lookup_eq_head?_filter :
    named.lookup name = ((named.filter (·.1 == name)).map (·.2)).head? := by
  induction named with
  | nil => rfl
  | cons member rest ih =>
    obtain ⟨key, document⟩ := member
    by_cases same : key = name
    · simp [same]
    · rw [List.lookup_cons, beq_false_of_ne (Ne.symm same), ih]
      simp [same]

/-- No name of a field stands twice. -/
theorem distinct_iff {known : List String} : Shape.distinct known named = true ↔
    ∀ name ∈ known, (named.filter (·.1 == name)).map (·.2) = (named.lookup name).toList := by
  simp only [Shape.distinct, List.all_eq_true, decide_eq_true_iff, lookup_eq_head?_filter]
  refine forall₂_congr fun name _ => ?_
  generalize named.filter (·.1 == name) = found
  match found with
  | [] | [_] | _ :: _ :: _ => simp

end Document

namespace Shape

/-- Nothing stands in for a field in an object that would not do so in an array. -/
def Even : {ρ : Type} → Shape ρ → Prop
  | _, .done => True
  | _, .field _ _ absence rest => absence.object? = absence.array? ∧ rest.Even

/-- Each field is read from what is given for it, or takes what stands in for it. -/
def Takes (room : Nat) (given : String → Option Document) : {ρ : Type} → Shape ρ → ρ → Prop
  | _, .done, () => True
  | _, .field name codec absence rest, (value, values) =>
    ((given name).elim absence.array? (codec.decode room) = some value) ∧
      rest.Takes room given values

variable {ρ : Type} {room : Nat} {given : String → Option Document}

/-- Among members the fields are found by their names. -/
theorem ofMembers?_eq_some_iff {ρ : Type} {shape : Shape ρ} (even : shape.Even) {values : ρ}
    {members : List (String × Document)}
    (found : ∀ name ∈ shape.names, members.lookup name = given name) :
    shape.ofMembers? room members = some values ↔ shape.Takes room given values := by
  induction shape with
  | done => simp [ofMembers?, Takes]
  | field name codec absence rest ih =>
    obtain ⟨first, later⟩ := List.forall_mem_cons.1 found
    rw [ofMembers?, first, Takes, ← ih even.2 later, ← even.1]
    cases given name <;> exact bind_eq_some_pair_iff

/-- In a row of items the fields are found by their places. -/
theorem ofItems?_eq_some_iff {ρ : Type} {shape : Shape ρ} {values : ρ} {items : List Document}
    (found : ∀ (i : Nat) (name : String), shape.names[i]? = some name → given name = items[i]?) :
    shape.ofItems? room items = some values ↔
      items.length ≤ shape.names.length ∧ shape.Takes room given values := by
  induction shape generalizing items with
  | done => cases items <;> simp [ofItems?, names, Takes]
  | field name codec absence rest ih =>
    have first := found 0 name rfl
    cases items with
    | nil =>
      have later := @ih values.2 [] fun i name isName => found (i + 1) name isName
      rw [ofItems?, bind_eq_some_pair_iff, later, Takes, first]
      simp
    | cons item items =>
      have later := @ih values.2 items fun i name isName => found (i + 1) name isName
      rw [ofItems?, bind_eq_some_pair_iff, later, Takes, first]
      simp [names]
      tauto

/-- A record whose fields may be missing in objects and arrays alike is read from what a document
gives. -/
theorem decode_eq_some_iff {shape : Shape ρ} (even : shape.Even) (single : shape.names.Nodup)
    {document : Document} {values : ρ} : shape.decode (room + 1) document = some values ↔
      ∃ given, document.Gives shape.names given ∧ shape.Takes room given values := by
  constructor
  · intro read
    cases document with
    | object members =>
      obtain ⟨named, keys, read⟩ := Option.bind_eq_some_iff.1 read
      obtain ⟨_, distinct, read⟩ := Option.bind_eq_some_iff.1 read
      have fields := Document.distinct_iff.1 ((Option.guard_eq_some' _).1 distinct)
      refine ⟨fun name => named.lookup name,
        .object (Document.exists_readKeys?_iff.1 ⟨named, keys⟩) ?_,
        (ofMembers?_eq_some_iff even fun _ _ => rfl).1 read⟩
      intro name isName
      rw [← fields name isName, Document.filter_of_readKeys? keys]
    | array items =>
      have found : ∀ (i : Nat) (name : String), shape.names[i]? = some name →
          items[shape.names.idxOf name]? = items[i]? := by
        intro i name isName
        obtain ⟨inside, rfl⟩ := List.getElem?_eq_some_iff.1 isName
        rw [single.idxOf_getElem]
      obtain ⟨few, takes⟩ := (@ofItems?_eq_some_iff room
        (fun name => items[shape.names.idxOf name]?) _ _ _ _ found).1 read
      exact ⟨_, .array few found, takes⟩
    | null | bool | number | string => cases read
  · rintro ⟨given, gives, takes⟩
    cases gives with
    | @object members legible fields =>
      obtain ⟨named, keys⟩ := Document.exists_readKeys?_iff.2 legible
      have found : ∀ name ∈ shape.names, named.lookup name = given name := by
        intro name isName
        rw [Document.lookup_eq_head?_filter, Document.filter_of_readKeys? keys, fields name isName]
        cases given name <;> rfl
      have distinct : Shape.distinct shape.names named = true := by
        refine Document.distinct_iff.2 fun name isName => ?_
        rw [found name isName, Document.filter_of_readKeys? keys, fields name isName]
      rw [decode]
      simp only [keys, Option.bind_eq_bind, Option.bind_some, distinct, guard, if_true,
        Option.pure_def]
      exact (ofMembers?_eq_some_iff even found).2 takes
    | array few fields => exact (ofItems?_eq_some_iff fields).2 ⟨few, takes⟩

theorem record_eq_some_iff {α : Type} {shape : Shape ρ} {make : ρ → α} {fields : α → ρ}
    (even : shape.Even) (single : shape.names.Nodup) {document : Document} {value : α} :
    (shape.record make fields).decode (room + 1) document = some value ↔
      ∃ given, document.Gives shape.names given ∧
        ∃ values, shape.Takes room given values ∧ make values = value := by
  have converted : (shape.record make fields).decode (room + 1) document =
      (shape.decode (room + 1) document).map make := rfl
  rw [converted, Option.map_eq_some_iff]
  simp only [decode_eq_some_iff even single]
  constructor
  · rintro ⟨values, ⟨given, gives, takes⟩, made⟩
    exact ⟨given, gives, values, takes, made⟩
  · rintro ⟨given, gives, values, takes, made⟩
    exact ⟨values, ⟨given, gives, takes⟩, made⟩

end Shape

/-- Integers are written without fraction and exponent, and zero without a sign. -/
theorem Numeral.number?_eq_integer_iff {numeral : Numeral} {value : Int}
    (least : -9223372036854775808 ≤ value) (greatest : value < 18446744073709551616) :
    numeral.number? = some (.integer value least greatest) ↔
      (numeral.fraction = none ∧ numeral.exponent = none) ∧
        ¬(numeral.negative = true ∧ decimalNumber numeral.whole = 0) ∧
        value = if numeral.negative then -(decimalNumber numeral.whole : Int)
          else decimalNumber numeral.whole := by
  have noDouble (found : Option Double) :
      found.map Number.double ≠ some (.integer value least greatest) := by
    cases found <;> simp
  by_cases plain : numeral.fraction = none ∧ numeral.exponent = none
  · by_cases zero : numeral.negative = true ∧ decimalNumber numeral.whole = 0
    · have same : numeral.number? = numeral.decimal.nearest?.map Number.double := by
        simp [number?, guard, zero]
      simp [same, noDouble, zero]
    · generalize isWhole : (if numeral.negative then -(decimalNumber numeral.whole : Int)
        else decimalNumber numeral.whole) = whole
      have same : numeral.number? =
          (Number.ofInt? whole <|> numeral.decimal.nearest?.map Number.double) := by
        simp only [number?, guard, plain, zero, if_true, not_false_eq_true, isWhole]
        rfl
      rw [same, Number.ofInt?]
      split
      · constructor
        · intro same
          cases show some (Number.integer whole _ _) = some (.integer value least greatest) from same
          exact ⟨plain, zero, rfl⟩
        · rintro ⟨_, _, rfl⟩
          rfl
      · rename_i outside
        have other : value ≠ whole := fun same => outside (same ▸ ⟨least, greatest⟩)
        simp [other, noDouble]
  · rw [number?_of_marked plain]
    simp [noDouble, plain]

namespace Codec

variable {α : Type} {codec : Codec α} {room : Nat} {document : Document}

theorem string_eq_some_iff {text : String} :
    string.decode room document = some text ↔ document.Says text := by
  cases document with
  | string quoted => simp [string, Document.Says, Quoted.text?_eq_some_iff]
  | null | bool | number | array | object => simp [string, Document.Says]

theorem integer?_eq_some_iff {value : Int} : integer? document = some value ↔
    document.Counts value ∧ -9223372036854775808 ≤ value ∧ value < 18446744073709551616 := by
  cases document with
  | number numeral =>
    have isInteger : integer? (.number numeral) = some value ↔
        ∃ least greatest, numeral.number? = some (.integer value least greatest) := by
      rw [integer?]
      cases numeral.number? with
      | none => simp
      | some number => cases number with
        | integer found least greatest =>
          simp only [Option.some.injEq, Number.integer.injEq]
          constructor
          · intro same
            exact same ▸ ⟨least, greatest, rfl⟩
          · rintro ⟨_, _, same⟩
            exact same
        | double found => simp
    obtain ⟨negative, digits, fraction, exponent⟩ := numeral
    rw [isInteger]
    simp only [Numeral.number?_eq_integer_iff, Document.Counts]
    constructor
    · rintro ⟨least, greatest, ⟨rfl, rfl⟩, signless, same⟩
      exact ⟨⟨negative, digits, rfl, signless, same⟩, least, greatest⟩
    · rintro ⟨⟨_, _, ⟨⟩, signless, same⟩, least, greatest⟩
      exact ⟨least, greatest, ⟨rfl, rfl⟩, signless, same⟩
  | null | bool | string | array | object => simp [integer?, Document.Counts]

theorem word_eq_some_iff {least greatest : Int} {toInt : α → Int} {ofInt : Int → α} {value : α}
    (same : ∀ value, ofInt (toInt value) = value)
    (exact : ∀ n, least ≤ n → n ≤ greatest → toInt (ofInt n) = n)
    (bounded : ∀ value, least ≤ toInt value ∧ toInt value ≤ greatest)
    (range : -9223372036854775808 ≤ least ∧ greatest < 18446744073709551616) :
    (word least greatest toInt ofInt).decode room document = some value ↔
      document.Counts (toInt value) := by
  constructor
  · intro read
    obtain ⟨n, isInteger, read⟩ := Option.bind_eq_some_iff.1 read
    obtain ⟨_, within, read⟩ := Option.bind_eq_some_iff.1 read
    cases read
    obtain ⟨low, high⟩ := (Option.guard_eq_some' _).1 within
    rw [exact n low high]
    exact (integer?_eq_some_iff.1 isInteger).1
  · intro counts
    have within := bounded value
    have isInteger := integer?_eq_some_iff.2 ⟨counts, by omega, by omega⟩
    simp only [word, isInteger, Option.bind_eq_bind, Option.bind_some, guard, if_pos within,
      Option.pure_def, same]

theorem uint32_eq_some_iff {value : UInt32} :
    uint32.decode room document = some value ↔ document.Counts value.toNat :=
  word_eq_some_iff (by simp) (fun n _ _ => by simp; omega) bounded_uint32 (by decide)

theorem int64_eq_some_iff {value : Int64} :
    int64.decode room document = some value ↔ document.Counts value.toInt :=
  word_eq_some_iff Int64.ofInt_toInt
    (fun n low high => Int64.toInt_ofInt_of_le low (by omega)) bounded_int64 (by decide)

theorem option_eq_some_iff {held : Option α} : codec.option.decode room document = some held ↔
    document = .null ∧ held = none ∨
      document ≠ .null ∧ ∃ value, held = some value ∧ codec.decode room document = some value := by
  cases document with
  | null => simp [option, eq_comm]
  | bool | number | string | array | object => simp [option, and_comm, eq_comm]

theorem mapM_eq_some_iff {β : Type} {read : β → Option α} {list : List β} {values : List α} :
    list.mapM read = some values ↔
      List.Forall₂ (fun b value => read b = some value) list values := by
  induction list generalizing values with
  | nil => simp [eq_comm]
  | cons b rest ih =>
    rw [List.mapM_cons]
    cases first : read b with
    | none => cases values <;> simp [first]
    | some value =>
      cases values with
      | nil => cases rest.mapM read <;> simp
      | cons head values =>
        rw [List.forall₂_cons, ← ih, first]
        cases rest.mapM read <;> simp

theorem list_eq_some_iff {values : List α} :
    (list codec).decode (room + 1) document = some values ↔ ∃ items, document = .array items ∧
      List.Forall₂ (fun item value => codec.decode room item = some value) items values := by
  cases document with
  | array items => simpa [list] using mapM_eq_some_iff
  | null | bool | number | string | object => simp [list]

end Codec

/-- A field that may be left out, or be given as null. -/
def Optionally (given : Option Document) (absent : Prop) (present : Document → Prop) : Prop :=
  ((given = none ∨ given = some .null) ∧ absent) ∨
    ∃ document, given = some document ∧ document ≠ .null ∧ present document

section Fields

variable {α : Type} {codec : Codec α} {room : Nat} {given : Option Document}

theorem required_eq_some_iff {value : α} :
    given.elim (Absence.required : Absence α).array? (codec.decode room) = some value ↔
      ∃ document, given = some document ∧ codec.decode room document = some value := by
  cases given <;> simp [Absence.array?]

theorem free_eq_some_iff {held : Option α} :
    given.elim (Absence.anywhere none).array? (codec.option.decode room) = some held ↔
      Optionally given (held = none) fun document =>
        ∃ value, held = some value ∧ codec.decode room document = some value := by
  cases given with
  | none => simp [Absence.array?, Optionally, eq_comm]
  | some document => simp [Optionally, Codec.option_eq_some_iff]

/-- What a field holds when it is given, taken apart into what is held and what follows from it. -/
theorem optionally_iff_exists_held {absent : Prop} {tells : Document → α → Prop}
    {follows : α → Prop} :
    Optionally given absent (fun document => ∃ value, tells document value ∧ follows value) ↔
      ∃ held : Option α, held.elim absent follows ∧
        Optionally given (held = none) fun document =>
          ∃ value, held = some value ∧ tells document value := by
  constructor
  · rintro (⟨missing, isAbsent⟩ | ⟨document, isGiven, filled, value, isTold, follows⟩)
    · exact ⟨none, isAbsent, .inl ⟨missing, rfl⟩⟩
    · exact ⟨some value, follows, .inr ⟨document, isGiven, filled, value, rfl, isTold⟩⟩
  · rintro ⟨held, holds, ⟨missing, rfl⟩ | ⟨document, isGiven, filled, value, rfl, isTold⟩⟩
    · exact .inl ⟨missing, holds⟩
    · exact .inr ⟨document, isGiven, filled, value, isTold, holds⟩

end Fields

end SchemaLedger
