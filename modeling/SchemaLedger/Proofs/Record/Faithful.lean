import Mathlib.Data.List.Nodup
import SchemaLedger.Proofs.Json.Canonical
import SchemaLedger.Proofs.Record.RoundTrip

namespace SchemaLedger

namespace Json

mutual

/-- How many containers stand inside one another at most. -/
def depth : Json → Nat
  | .array items => itemsDepth items + 1
  | .object members => membersDepth members + 1
  | .null | .bool _ | .number _ | .string _ => 0

def itemsDepth : List Json → Nat
  | [] => 0
  | item :: rest => max item.depth (itemsDepth rest)

def membersDepth : List (String × Json) → Nat
  | [] => 0
  | (_, value) :: rest => max value.depth (membersDepth rest)

end

/-- Every object in a value has one member for each of its keys, in ascending order. -/
def Ordered (value : Json) : Prop := ∃ room, value.Within room

variable {value : Json} {room : Nat}

theorem itemsDepth_le {items : List Json} :
    itemsDepth items ≤ room ↔ ∀ item ∈ items, item.depth ≤ room := by
  induction items with
  | nil => simp [itemsDepth]
  | cons item rest ih => rw [itemsDepth, max_le_iff, ih, List.forall_mem_cons]

theorem membersDepth_le {members : List (String × Json)} :
    membersDepth members ≤ room ↔ ∀ m ∈ members, m.2.depth ≤ room := by
  induction members with
  | nil => simp [membersDepth]
  | cons member rest ih => rw [membersDepth, max_le_iff, ih, List.forall_mem_cons]

theorem depth_int (n : Int) : (Json.int n).depth = 0 := by
  rw [Json.int]
  split <;> rw [depth]

theorem Within.depth_le (within : value.Within room) : value.depth ≤ room := by
  induction within with
  | null | bool | number | string => simp [depth]
  | array _ ih =>
    have each := itemsDepth_le.2 ih
    rw [depth]
    omega
  | object _ _ ih =>
    have each := membersDepth_le.2 ih
    rw [depth]
    omega

/-- The room that a value needs is its depth. -/
theorem Ordered.within (ordered : value.Ordered) (shallow : value.depth ≤ room) :
    value.Within room := by
  obtain ⟨some, within⟩ := ordered
  induction within generalizing room with
  | null => exact .null
  | bool value => exact .bool value
  | number value => exact .number value
  | string value => exact .string value
  | array _ ih =>
    rw [depth] at shallow
    obtain ⟨room, rfl⟩ : ∃ less, room = less + 1 := ⟨room - 1, by omega⟩
    have items := itemsDepth_le.1 (Nat.le_of_add_le_add_right shallow)
    exact .array fun item isItem => ih item isItem (items item isItem)
  | object ascending _ ih =>
    rw [depth] at shallow
    obtain ⟨room, rfl⟩ : ∃ less, room = less + 1 := ⟨room - 1, by omega⟩
    have members := membersDepth_le.1 (Nat.le_of_add_le_add_right shallow)
    exact .object ascending fun m isMember => ih m isMember (members m isMember)

end Json

/-- The whole text that is written for a value. -/
def Codec.text {α : Type} (codec : Codec α) (value : α) : String := (codec.encode value).render

/-- What is read is proper and can be written without more nesting, and what is proper reads back
from any depth that leaves room for it. -/
structure Codec.Faithful {α : Type} (codec : Codec α) (proper : α → Prop) : Prop where
  yields {room : Nat} {document : Document} {value : α}
    (read : codec.decode room document = some value) :
    proper value ∧ (codec.encode value).depth ≤ room
  recovers {room : Nat} {value : α} (isProper : proper value)
    (shallow : (codec.encode value).depth ≤ room) : codec.ReadsBack room value

namespace Codec

variable {α : Type} {codec : Codec α} {proper : α → Prop}

theorem Faithful.ofText?_text {value : α} (faithful : codec.Faithful proper)
    (isProper : proper value) (shallow : (codec.encode value).depth ≤ Json.nestingLimit) :
    codec.ofText? (codec.text value) = some value :=
  (faithful.recovers isProper shallow).ofText?

/-- What was read from a text is read from the text that is written for it. -/
theorem Faithful.reread {text : String} {value : α} (faithful : codec.Faithful proper)
    (read : codec.ofText? text = some value) : codec.ofText? (codec.text value) = some value := by
  obtain ⟨document, -, decoded⟩ := Option.bind_eq_some_iff.1 read
  obtain ⟨isProper, shallow⟩ := faithful.yields decoded
  exact faithful.ofText?_text isProper shallow

/-- A codec that opens no container is faithful when all values read back. -/
theorem faithful_of_flat (flat : ∀ value, (codec.encode value).depth = 0)
    (readsBack : ∀ room value, codec.ReadsBack room value) : codec.Faithful fun _ => True where
  yields _ := ⟨trivial, by rw [flat]; exact Nat.zero_le _⟩
  recovers _ _ := readsBack _ _

theorem faithful_string : string.Faithful fun _ => True :=
  faithful_of_flat (fun _ => by rw [string, Json.depth]) readsBack_string

theorem faithful_bool : bool.Faithful fun _ => True :=
  faithful_of_flat (fun _ => by rw [bool, Json.depth]) readsBack_bool

section Word

variable {least greatest : Int} {toInt : α → Int} {ofInt : Int → α}

theorem depth_word (value : α) : ((word least greatest toInt ofInt).encode value).depth = 0 :=
  Json.depth_int _

theorem encode_word (bounded : ∀ value, least ≤ toInt value ∧ toInt value ≤ greatest)
    (range : -9223372036854775808 ≤ least ∧ greatest < 18446744073709551616) (value : α) :
    ∃ number, (word least greatest toInt ofInt).encode value = .number number := by
  have within : -9223372036854775808 ≤ toInt value ∧ toInt value < 18446744073709551616 :=
    ⟨le_trans range.1 (bounded value).1, lt_of_le_of_lt (bounded value).2 range.2⟩
  refine ⟨.integer (toInt value) within.1 within.2, ?_⟩
  show Json.int (toInt value) = _
  rw [Json.int, Number.ofInt?, dif_pos within]

theorem faithful_word (same : ∀ value, ofInt (toInt value) = value)
    (bounded : ∀ value, least ≤ toInt value ∧ toInt value ≤ greatest)
    (range : -9223372036854775808 ≤ least ∧ greatest < 18446744073709551616) :
    (word least greatest toInt ofInt).Faithful fun _ => True := by
  refine faithful_of_flat depth_word fun room value => ?_
  exact readsBack_word room (same value) (bounded value)
    ⟨le_trans range.1 (bounded value).1, lt_of_le_of_lt (bounded value).2 range.2⟩

end Word

theorem bounded_uint32 (value : UInt32) :
    (0 : Int) ≤ value.toNat ∧ (value.toNat : Int) ≤ 4294967295 := by
  have bound : value.toNat < 4294967296 := value.toNat_lt
  omega

theorem bounded_uint64 (value : UInt64) :
    (0 : Int) ≤ value.toNat ∧ (value.toNat : Int) ≤ 18446744073709551615 := by
  have bound : value.toNat < 18446744073709551616 := value.toNat_lt
  omega

theorem bounded_int64 (value : Int64) :
    -9223372036854775808 ≤ value.toInt ∧ value.toInt ≤ 9223372036854775807 := by
  have least : -9223372036854775808 ≤ value.toInt := value.le_toInt
  have greatest : value.toInt < 9223372036854775808 := value.toInt_lt
  omega

theorem faithful_uint32 : uint32.Faithful fun _ => True :=
  faithful_word (by simp) bounded_uint32 (by decide)

theorem faithful_uint64 : uint64.Faithful fun _ => True :=
  faithful_word (by simp) bounded_uint64 (by decide)

theorem faithful_int64 : int64.Faithful fun _ => True :=
  faithful_word Int64.ofInt_toInt bounded_int64 (by decide)

theorem faithful_double : double.Faithful fun _ => True := by
  refine faithful_of_flat (fun _ => by rw [double, Json.depth]) fun room value => ?_
  have readsBack := (Number.double value).readsBack
  refine ⟨.number readsBack, ?_⟩
  rw [double]
  simp only [Json.document, readsBack.ofWord?.2, Option.map_some, Number.toDouble]

theorem faithful_label {toLabel : α → String} {ofLabel? : String → Option α}
    (same : ∀ value, ofLabel? (toLabel value) = some value) :
    (label toLabel ofLabel?).Faithful fun _ => True := by
  refine faithful_of_flat (fun _ => by rw [label, Json.depth]) fun room value => ?_
  refine ⟨.string _, ?_⟩
  rw [label]
  simp only [Json.document, label?, Quoted.text?_ofText, Option.bind_some, same]

theorem value?_ne_null {room : Nat} {document : Document} {value : Json}
    (given : document ≠ .null) (read : document.value? room = some value) : value ≠ .null := by
  rintro rfl
  cases document with
  | null => exact given rfl
  | bool => cases read
  | number | string =>
    obtain ⟨_, -, written⟩ := Option.map_eq_some_iff.1 read
    cases written
  | array | object =>
    cases room with
    | zero => cases read
    | succ room =>
      obtain ⟨_, -, written⟩ := Option.map_eq_some_iff.1 read
      cases written

theorem faithful_json : json.Faithful Json.Ordered where
  yields {_ document _} read := by
    have within := document.within read
    exact ⟨⟨_, within⟩, within.depth_le⟩
  recovers ordered shallow := readsBack_json (ordered.within shallow).toFits

/-- Null is taken for nothing, so it is the other documents that the codec has to be faithful
about, and none of its values may be written as null. -/
theorem faithful_option
    (yields : ∀ {room document value}, document ≠ .null →
      codec.decode room document = some value → proper value ∧ (codec.encode value).depth ≤ room)
    (recovers : ∀ {room value}, proper value → (codec.encode value).depth ≤ room →
      codec.ReadsBack room value)
    (full : ∀ {value}, proper value → codec.encode value ≠ .null) :
    codec.option.Faithful fun held => ∀ value ∈ held, proper value where
  yields {room document held} read := by
    cases held with
    | none => exact ⟨by simp, by rw [option, Json.depth]; exact Nat.zero_le _⟩
    | some value =>
      have given : document ≠ .null := by
        rintro rfl
        cases read
      obtain ⟨isProper, shallow⟩ := yields given (decode_of_option read)
      exact ⟨by simpa using isProper, shallow⟩
  recovers {room held} isProper shallow := by
    cases held with
    | none => exact ⟨.null, rfl⟩
    | some value =>
      have isProper := isProper value rfl
      have readsBack := recovers isProper shallow
      refine ⟨readsBack.legible, ?_⟩
      have full := full isProper
      have decoded := readsBack.decoded
      rw [option]
      cases written : codec.encode value with
      | null => exact absurd written full
      | _ => simp_all [Json.document]

theorem Faithful.option (faithful : codec.Faithful proper)
    (full : ∀ value, codec.encode value ≠ .null) :
    codec.option.Faithful fun held => ∀ value ∈ held, proper value :=
  faithful_option (fun _ read => faithful.yields read) faithful.recovers fun _ => full _

theorem faithful_optionString : string.option.Faithful fun held => ∀ value ∈ held, True :=
  faithful_string.option fun _ => by simp [string]

theorem faithful_optionUInt32 : uint32.option.Faithful fun held => ∀ value ∈ held, True := by
  refine faithful_uint32.option fun value => ?_
  obtain ⟨number, written⟩ : ∃ number, uint32.encode value = .number number :=
    encode_word bounded_uint32 (by decide) value
  rw [written]
  simp

theorem faithful_optionInt64 : int64.option.Faithful fun held => ∀ value ∈ held, True := by
  refine faithful_int64.option fun value => ?_
  obtain ⟨number, written⟩ : ∃ number, int64.encode value = .number number :=
    encode_word bounded_int64 (by decide) value
  rw [written]
  simp

/-- A free-form value that may be missing is not null when it is there. -/
theorem faithful_optionJson :
    json.option.Faithful fun held => ∀ value ∈ held, value.Ordered ∧ value ≠ .null := by
  refine faithful_option (fun given read => ?_)
    (fun isProper shallow => faithful_json.recovers isProper.1 shallow) fun isProper => isProper.2
  obtain ⟨ordered, shallow⟩ := faithful_json.yields read
  exact ⟨⟨ordered, value?_ne_null given read⟩, shallow⟩

theorem exists_of_mapM {β : Type} {read : β → Option α} {list : List β} {values : List α}
    (reads : list.mapM read = some values) : ∀ value ∈ values, ∃ b ∈ list, read b = some value := by
  induction list generalizing values with
  | nil =>
    cases reads
    simp
  | cons b rest ih =>
    rw [List.mapM_cons] at reads
    obtain ⟨first, readFirst, reads⟩ := Option.bind_eq_some_iff.1 reads
    obtain ⟨later, readLater, reads⟩ := Option.bind_eq_some_iff.1 reads
    cases reads
    refine List.forall_mem_cons.2 ⟨⟨b, List.mem_cons_self, readFirst⟩, fun value isValue => ?_⟩
    obtain ⟨b, isPart, read⟩ := ih readLater value isValue
    exact ⟨b, List.mem_cons_of_mem _ isPart, read⟩

/-- Lists are read from arrays, item by item. -/
theorem exists_of_list {room : Nat} {document : Document} {values : List α}
    (read : (list codec).decode room document = some values) : ∃ less, room = less + 1 ∧
      ∀ value ∈ values, ∃ item, codec.decode less item = some value := by
  cases room with
  | zero => cases document <;> cases read
  | succ less =>
    cases document with
    | array items =>
      refine ⟨less, rfl, fun value isValue => ?_⟩
      obtain ⟨item, -, read⟩ := exists_of_mapM read value isValue
      exact ⟨item, read⟩
    | null | bool | number | string | object => cases read

theorem Faithful.list (faithful : codec.Faithful proper) :
    (list codec).Faithful fun values => ∀ value ∈ values, proper value where
  yields {room document values} read := by
    obtain ⟨less, rfl, items⟩ := exists_of_list read
    have each : ∀ value ∈ values, proper value ∧ (codec.encode value).depth ≤ less := by
      intro value isValue
      obtain ⟨item, read⟩ := items value isValue
      exact faithful.yields read
    refine ⟨fun value isValue => (each value isValue).1, ?_⟩
    have shallow : Json.itemsDepth (values.map codec.encode) ≤ less :=
      Json.itemsDepth_le.2 (List.forall_mem_map.2 fun value isValue => (each value isValue).2)
    exact Nat.add_le_add_right shallow 1
  recovers {room values} isProper shallow := by
    have shallow : Json.itemsDepth (values.map codec.encode) + 1 ≤ room := shallow
    obtain ⟨room, rfl⟩ : ∃ less, room = less + 1 := ⟨room - 1, by omega⟩
    have items := List.forall_mem_map.1
      (Json.itemsDepth_le.1 (Nat.le_of_add_le_add_right shallow))
    exact readsBack_list fun value isValue =>
      faithful.recovers (isProper value isValue) (items value isValue)

theorem faithful_names : names.Faithful fun _ => True where
  yields {room document set} read := by
    obtain ⟨read, fromDocument, -⟩ := Option.map_eq_some_iff.1 read
    obtain ⟨less, rfl, -⟩ := exists_of_list fromDocument
    have flat : Json.itemsDepth (set.toList.map .string) ≤ less :=
      Json.itemsDepth_le.2 (List.forall_mem_map.2 fun name _ => by
        rw [Json.depth]
        exact Nat.zero_le _)
    exact ⟨trivial, Nat.add_le_add_right flat 1⟩
  recovers {room set} _ shallow := by
    have readsBack := faithful_string.list.recovers (by simp) shallow
    refine ⟨readsBack.legible, ?_⟩
    have same : Names.ofList set.toList = set := Names.eq_of_contains fun name => by
      rw [Names.contains_ofList, Names.contains_iff_mem_toList]
    have decoded : names.decode room (names.encode set).document =
        (some set.toList).map Names.ofList :=
      congrArg (Option.map Names.ofList) readsBack.decoded
    rw [decoded, Option.map_some, same]

end Codec

namespace Shape

/-- Fields are faithful together when they are one by one. -/
structure Faithful {ρ : Type} (shape : Shape ρ) (proper : ρ → Prop) : Prop where
  yields {room : Nat} {values : ρ} (read : shape.FieldsRead room values) :
    proper values ∧ ∀ m ∈ shape.encode values, m.2.depth ≤ room
  recovers {room : Nat} {values : ρ} (isProper : proper values)
    (shallow : ∀ m ∈ shape.encode values, m.2.depth ≤ room) : shape.FieldsReadBack room values

section Fields

variable {α ρ : Type} {codec : Codec α} {rest : Shape ρ} {proper : α → Prop} {later : ρ → Prop}

theorem faithful_done : done.Faithful fun _ => True where
  yields _ := ⟨trivial, by simp [encode]⟩
  recovers _ _ := trivial

/-- What stands for a field that is not given is as proper as what is read, and opens nothing. -/
theorem faithful_field {absence : Absence α} {name : String} (faithful : codec.Faithful proper)
    (standsIn : ∀ value ∈ absence.object?, proper value ∧ (codec.encode value).depth = 0)
    (others : rest.Faithful later) :
    (field name codec absence rest).Faithful fun values => proper values.1 ∧ later values.2 where
  yields {room values} read := by
    obtain ⟨isLater, shallowLater⟩ := others.yields read.2
    have first : proper values.1 ∧ (codec.encode values.1).depth ≤ room := by
      rcases read.1 with ⟨document, decoded⟩ | absent
      · exact faithful.yields decoded
      · obtain ⟨isProper, flat⟩ := standsIn values.1 absent
        exact ⟨isProper, by omega⟩
    exact ⟨⟨first.1, isLater⟩, List.forall_mem_cons.2 ⟨first.2, shallowLater⟩⟩
  recovers {room values} isProper shallow := by
    obtain ⟨first, shallowLater⟩ := List.forall_mem_cons.1 shallow
    exact ⟨faithful.recovers isProper.1 first, others.recovers isProper.2 shallowLater⟩

theorem faithful_required {name : String} (faithful : codec.Faithful proper)
    (others : rest.Faithful later) : (required name codec rest).Faithful
      fun values => proper values.1 ∧ later values.2 :=
  faithful_field faithful (by simp [Absence.object?]) others

theorem faithful_optional {name : String}
    (faithful : codec.option.Faithful fun held => ∀ value ∈ held, proper value)
    (others : rest.Faithful later) : (optional name codec rest).Faithful
      fun values => (∀ value ∈ values.1, proper value) ∧ later values.2 :=
  faithful_field faithful (by simp [Absence.object?, Codec.option, Json.depth]) others

/-- A record is faithful when its fields are, have different names and make up the whole of it. -/
theorem Faithful.record {shape : Shape ρ} {make : ρ → α} {fields : α → ρ} {whole : α → Prop}
    (faithful : shape.Faithful later) (distinct : shape.names.Nodup)
    (unmake : ∀ values, fields (make values) = values)
    (remake : ∀ value, whole value → make (fields value) = value)
    (joined : ∀ values, later values → whole (make values))
    (parted : ∀ value, whole value → later (fields value)) :
    (shape.record make fields).Faithful whole where
  yields {room document value} read := by
    obtain ⟨values, decoded, rfl⟩ := Option.map_eq_some_iff.1 read
    obtain ⟨less, rfl⟩ : ∃ less, room = less + 1 := by
      cases room with
      | zero => cases document <;> cases decoded
      | succ less => exact ⟨less, rfl⟩
    obtain ⟨isLater, shallow⟩ := faithful.yields (fieldsRead_of_decode decoded)
    have members := Nat.add_le_add_right (Json.membersDepth_le.2 shallow) 1
    refine ⟨joined values isLater, ?_⟩
    show Json.membersDepth (shape.encode (fields (make values))) + 1 ≤ less + 1
    rwa [unmake]
  recovers {room value} isWhole shallow := by
    have shallow : Json.membersDepth (shape.encode (fields value)) + 1 ≤ room := shallow
    obtain ⟨room, rfl⟩ : ∃ less, room = less + 1 := ⟨room - 1, by omega⟩
    have members := Json.membersDepth_le.1 (Nat.le_of_add_le_add_right shallow)
    exact readsBack_record distinct (remake value isWhole)
      (faithful.recovers (parted value isWhole) members)

end Fields

/-- The documents spell the values of the fields, one by one. -/
def Spelt (room : Nat) : {ρ : Type} → Shape ρ → ρ → List Document → Prop
  | _, .done, (), documents => documents = []
  | _, .field _ codec _ rest, (value, values), documents => ∃ document later,
    documents = document :: later ∧ codec.decode room document = some value ∧
      rest.Spelt room values later

section Forms

variable {ρ : Type} {room : Nat}

theorem Spelt.length {ρ : Type} {shape : Shape ρ} {values : ρ} {documents : List Document}
    (spelt : shape.Spelt room values documents) : documents.length = shape.names.length := by
  induction shape generalizing documents with
  | done =>
    cases spelt
    rfl
  | field name codec absence rest ih =>
    obtain ⟨document, later, rfl, -, spelt⟩ := spelt
    simp [names, ih spelt]

theorem Spelt.ofItems? {ρ : Type} {shape : Shape ρ} {values : ρ} {documents : List Document}
    (spelt : shape.Spelt room values documents) :
    shape.ofItems? room documents = some values := by
  induction shape generalizing documents with
  | done =>
    cases spelt
    rfl
  | field name codec absence rest ih =>
    obtain ⟨document, later, rfl, decoded, spelt⟩ := spelt
    simp [Shape.ofItems?, decoded, ih spelt]

theorem Spelt.ofMembers? {ρ : Type} {shape : Shape ρ} {values : ρ} {documents : List Document}
    {members : List (String × Document)} (spelt : shape.Spelt room values documents)
    (found : ∀ m ∈ shape.names.zip documents, members.lookup m.1 = some m.2) :
    shape.ofMembers? room members = some values := by
  induction shape generalizing documents with
  | done => rfl
  | field name codec absence rest ih =>
    obtain ⟨document, later, rfl, decoded, spelt⟩ := spelt
    obtain ⟨first, found⟩ := List.forall_mem_cons.1 found
    simp [Shape.ofMembers?, first, decoded, ih spelt found]

theorem lookup_of_unique {β : Type} {key : String} {value : β} {members : List (String × β)}
    (isMember : (key, value) ∈ members) (unique : ∀ m ∈ members, m.1 = key → m.2 = value) :
    members.lookup key = some value := by
  induction members with
  | nil => cases isMember
  | cons member rest ih =>
    obtain ⟨other, held⟩ := member
    obtain ⟨first, later⟩ := List.forall_mem_cons.1 unique
    by_cases same : other = key
    · have isValue : held = value := first same
      rw [← same, List.lookup_cons_self, isValue]
    · have inRest : (key, value) ∈ rest := by
        rcases List.mem_cons.1 isMember with isFirst | inRest
        · exact absurd (Prod.mk.inj isFirst).1.symm same
        · exact inRest
      rw [List.lookup_cons, beq_false_of_ne (Ne.symm same), ih inRest later]

/-- A text in which the fields stand as an array, in the order of the record. -/
def InArray (shape : Shape ρ) (values : ρ) (text : String) : Prop :=
  ∃ documents, Document.parse? text = some (.array documents) ∧
    shape.Spelt (Json.nestingLimit - 1) values documents

/-- A text in which the fields stand as the members of an object under their names, in any order and
among any members with other names. -/
def InObject (shape : Shape ρ) (values : ρ) (text : String) : Prop :=
  ∃ members named documents others, Document.parse? text = some (.object members) ∧
    Document.readKeys? members = some named ∧
    named.Perm (shape.names.zip documents ++ others) ∧ (∀ m ∈ others, m.1 ∉ shape.names) ∧
    shape.Spelt (Json.nestingLimit - 1) values documents

variable {shape : Shape ρ} {values : ρ}

theorem InArray.read {text : String} (inArray : shape.InArray values text) :
    shape.codec.ofText? text = some values := by
  obtain ⟨documents, parsed, spelt⟩ := inArray
  rw [Codec.ofText?, parsed, Option.bind_some]
  exact spelt.ofItems?

/-- Known names are given once, whatever stands beside them, so each field is found. -/
theorem InObject.read {text : String} (distinct : shape.names.Nodup)
    (inObject : shape.InObject values text) : shape.codec.ofText? text = some values := by
  obtain ⟨members, named, documents, others, parsed, keys, shuffled, apart, spelt⟩ := inObject
  have columns : (shape.names.zip documents).map (·.1) = shape.names :=
    List.map_fst_zip (by rw [spelt.length])
  have single : ((shape.names.zip documents).map (·.1)).Nodup := columns.symm ▸ distinct
  have once : Shape.distinct shape.names named = true := by
    have among : Shape.distinct shape.names (shape.names.zip documents) = true :=
      distinct_of_nodup single
    refine List.all_eq_true.2 fun name isName => decide_eq_true ?_
    have none : others.filter (·.1 == name) = [] := List.filter_eq_nil_iff.2 fun m isOther => by
      have different : m.1 ≠ name := fun same => apart m isOther (same ▸ isName)
      simpa using different
    rw [(shuffled.filter _).length_eq, List.filter_append, none, List.append_nil]
    exact of_decide_eq_true (List.all_eq_true.1 among name isName)
  have found : ∀ m ∈ shape.names.zip documents, named.lookup m.1 = some m.2 := by
    intro m isField
    refine lookup_of_unique (shuffled.mem_iff.2 (List.mem_append_left _ isField)) ?_
    intro other isMember same
    rcases List.mem_append.1 (shuffled.mem_iff.1 isMember) with isField' | isOther
    · exact congrArg Prod.snd (List.inj_on_of_nodup_map single isField' isField same)
    · have isName : m.1 ∈ shape.names := columns ▸ List.mem_map_of_mem isField
      exact absurd (same ▸ isName) (apart other isOther)
  have decoded : shape.decode Json.nestingLimit (.object members) = some values := by
    simp only [Json.nestingLimit, decode, keys, Option.bind_eq_bind, Option.bind_some, once, guard,
      if_true, Option.pure_def]
    exact spelt.ofMembers? found
  rw [Codec.ofText?, parsed, Option.bind_some]
  exact decoded

end Forms

end Shape

/-- A codec that writes records, with the shape of these. -/
structure Codec.Layout {α : Type} (codec : Codec α) where
  Row : Type
  shape : Shape Row
  make : Row → α
  fields : α → Row
  isRecord : codec = shape.record make fields
  distinct : shape.names.Nodup
  unmake : ∀ row, fields (make row) = row

/-- A record is the same whether it is read from an object or from an array. -/
theorem Codec.Layout.read {α : Type} {codec : Codec α} (layout : codec.Layout) {row : layout.Row}
    {text : String} (given : layout.shape.InObject row text ∨ layout.shape.InArray row text) :
    codec.ofText? text = some (layout.make row) := by
  have fromText : layout.shape.codec.ofText? text = some row := by
    rcases given with inObject | inArray
    · exact inObject.read layout.distinct
    · exact inArray.read
  obtain ⟨document, parsed, decoded⟩ := Option.bind_eq_some_iff.1 fromText
  have made : (layout.shape.record layout.make layout.fields).decode Json.nestingLimit document =
      some (layout.make row) := congrArg (Option.map layout.make) decoded
  rw [Codec.ofText?, parsed, Option.bind_some]
  exact (congrArg (fun c => c.decode Json.nestingLimit document) layout.isRecord).trans made

end SchemaLedger
