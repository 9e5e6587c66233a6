import SchemaLedger.Proofs.Json.Value
import SchemaLedger.Record.Shape

namespace SchemaLedger

/-- What a codec writes for a value can be read, with `room` containers still to be opened, and the
value is read from it. -/
structure Codec.ReadsBack {α : Type} (codec : Codec α) (room : Nat) (value : α) : Prop where
  legible : (codec.encode value).Legible
  decoded : codec.decode room (codec.encode value).document = some value

/-- Reading what is written part by part gives the parts. -/
theorem mapM_map_of_eq {m : Type → Type} [Monad m] [LawfulMonad m] {α β γ : Type} {write : α → β}
    {read : β → m γ} {part : α → γ} {list : List α}
    (each : ∀ a ∈ list, read (write a) = pure (part a)) :
    (list.map write).mapM read = pure (list.map part) := by
  induction list with
  | nil => rfl
  | cons a rest ih =>
    obtain ⟨first, later⟩ := List.forall_mem_cons.1 each
    rw [List.map_cons, List.mapM_cons, first, ih later, pure_bind, pure_bind, List.map_cons]

namespace Codec

variable {α β : Type} {codec : Codec α} {room : Nat}

theorem readsBack_string (room : Nat) (value : String) : string.ReadsBack room value where
  legible := .string value
  decoded := Quoted.text?_ofText value

theorem readsBack_bool (room : Nat) (value : Bool) : bool.ReadsBack room value where
  legible := .bool value
  decoded := rfl

theorem readsBack_json {value : Json} (fits : value.Fits room) : json.ReadsBack room value where
  legible := fits.legible
  decoded := fits.value?_document

/-- Integers of a type within 64 bits read back. The integer is a variable here: of a cast number
its bounds would be computed in unary. -/
theorem readsBack_word {least greatest : Int} {toInt : α → Int} {ofInt : Int → α} (room : Nat)
    {value : α} (same : ofInt (toInt value) = value)
    (bounded : least ≤ toInt value ∧ toInt value ≤ greatest)
    (range : -9223372036854775808 ≤ toInt value ∧ toInt value < 18446744073709551616) :
    (word least greatest toInt ofInt).ReadsBack room value := by
  generalize isInteger : toInt value = integer at same bounded range
  have written : (word least greatest toInt ofInt).encode value =
      .number (.integer integer range.1 range.2) := by
    simp only [word, isInteger, Json.int, Number.ofInt?, dif_pos range]
  have readsBack := Number.readsBack_integer range.1 range.2
  refine ⟨written ▸ .number readsBack, ?_⟩
  have isInteger : integer? (Json.number (.integer integer range.1 range.2)).document =
      some integer := by
    simp only [Json.document, integer?, readsBack.ofWord?.2]
  rw [written, word]
  simp only [isInteger, Option.bind_eq_bind, Option.bind_some, guard, if_pos bounded,
    Option.pure_def, same]

theorem readsBack_uint32 (room : Nat) (value : UInt32) : uint32.ReadsBack room value := by
  have bound : value.toNat < 4294967296 := value.toNat_lt
  exact readsBack_word room (by simp) (by omega) (by omega)

theorem readsBack_list {values : List α} (each : ∀ value ∈ values, codec.ReadsBack room value) :
    (list codec).ReadsBack (room + 1) values where
  legible := .array fun item member => by
    obtain ⟨value, isValue, rfl⟩ := List.mem_map.1 member
    exact (each value isValue).legible
  decoded := by
    have decoded : (values.map fun v => (codec.encode v).document).mapM (codec.decode room) =
        some (values.map id) :=
      mapM_map_of_eq fun value isValue => (each value isValue).decoded
    rw [List.map_id] at decoded
    rw [list]
    simp only [Json.document, Json.itemDocuments_eq_map, List.map_map]
    exact decoded

theorem readsBack_convert {toFun : α → β} {invFun : β → α} {value : β}
    (same : toFun (invFun value) = value) (readsBack : codec.ReadsBack room (invFun value)) :
    (codec.convert toFun invFun).ReadsBack room value where
  legible := readsBack.legible
  decoded := by
    have decoded := readsBack.decoded
    simp only [convert, decoded, Option.map_some, same]

/-- What reads back from a document also reads back from a whole text. -/
theorem ReadsBack.ofText? {value : α} (readsBack : codec.ReadsBack Json.nestingLimit value) :
    codec.ofText? (codec.encode value).render = some value := by
  rw [Codec.ofText?, readsBack.legible.parse?_render, Option.bind_some, readsBack.decoded]

end Codec

namespace Shape

/-- Every field of a record reads back. -/
def FieldsReadBack (room : Nat) : {ρ : Type} → Shape ρ → ρ → Prop
  | _, .done, () => True
  | _, .field _ codec _ rest, (value, values) =>
    codec.ReadsBack room value ∧ rest.FieldsReadBack room values

variable {ρ : Type} {room : Nat}

theorem keys_encode {ρ : Type} (shape : Shape ρ) (values : ρ) :
    (shape.encode values).map (·.1) = shape.names := by
  induction shape with
  | done => rfl
  | field name codec absence rest ih =>
    obtain ⟨value, values⟩ := values
    simp [encode, names, ih]

theorem legible_of_mem {ρ : Type} {shape : Shape ρ} {values : ρ}
    (fields : shape.FieldsReadBack room values) :
    ∀ member ∈ shape.encode values, member.2.Legible := by
  induction shape with
  | done => simp [encode]
  | field name codec absence rest ih =>
    obtain ⟨value, values⟩ := values
    exact List.forall_mem_cons.2 ⟨fields.1.legible, ih fields.2⟩

/-- The fields are found behind any members with other names. -/
theorem ofMembers?_encode {ρ : Type} {shape : Shape ρ} {values : ρ}
    (distinct : shape.names.Nodup) (fields : shape.FieldsReadBack room values)
    (before : List (String × Document)) (apart : ∀ m ∈ before, m.1 ∉ shape.names) :
    shape.ofMembers? room
      (before ++ (shape.encode values).map fun m => (m.1, m.2.document)) = some values := by
  induction shape generalizing before with
  | done => rfl
  | field name codec absence rest ih =>
    obtain ⟨value, values⟩ := values
    obtain ⟨fresh, distinct⟩ := List.nodup_cons.1 distinct
    have missing : before.lookup name = none := by
      refine List.lookup_eq_none_iff.2 fun m member => ?_
      have different : m.1 ≠ name := fun same => apart m member (same ▸ List.mem_cons_self)
      simpa [bne_iff_ne] using different.symm
    have found : (before ++ ((field name codec absence rest).encode (value, values)).map
        fun m => (m.1, m.2.document)).lookup name = some (codec.encode value).document := by
      rw [List.lookup_append, missing, encode, List.map_cons, List.lookup_cons_self]
      rfl
    have later := ih distinct fields.2 (before ++ [(name, (codec.encode value).document)])
      fun m member => by
        rcases List.mem_append.1 member with old | new
        · exact fun isName => apart m old (List.mem_cons_of_mem _ isName)
        · cases List.mem_singleton.1 new
          exact fresh
    rw [List.append_assoc, List.singleton_append] at later
    rw [ofMembers?, found]
    simp only [fields.1.decoded, Option.bind_eq_bind, Option.bind_some]
    rw [encode, List.map_cons, later]
    rfl

/-- No name is given twice among members whose names differ. -/
theorem distinct_of_nodup {known : List String} {members : List (String × Document)}
    (nodup : (members.map (·.1)).Nodup) : Shape.distinct known members = true := by
  refine List.all_eq_true.2 fun name _ => decide_eq_true ?_
  have count := List.nodup_iff_count.1 nodup name
  rwa [List.count, List.countP_map, List.countP_eq_length_filter] at count

/-- A record reads back when its fields do, since their names differ. -/
theorem readsBack_codec {shape : Shape ρ} {values : ρ} (distinct : shape.names.Nodup)
    (fields : shape.FieldsReadBack room values) : shape.codec.ReadsBack (room + 1) values where
  legible := .object (legible_of_mem fields)
  decoded := by
    have keys : Document.readKeys? (Json.memberDocuments (shape.encode values)) =
        some ((shape.encode values).map fun m => (m.1, m.2.document)) := by
      rw [Json.memberDocuments_eq_map, Document.readKeys?]
      exact mapM_map_of_eq fun member _ => by simp
    have nodup : (((shape.encode values).map fun m => (m.1, m.2.document)).map (·.1)).Nodup := by
      rw [List.map_map, Function.comp_def]
      simpa only [keys_encode] using distinct
    have found := ofMembers?_encode distinct fields [] (by simp)
    rw [List.nil_append] at found
    rw [codec]
    simp only [Json.document, decode, keys, Option.bind_eq_bind, Option.bind_some,
      distinct_of_nodup nodup, guard, if_true, Option.pure_def, found]

theorem readsBack_record {α : Type} {shape : Shape ρ} {make : ρ → α} {fields : α → ρ} {value : α}
    (distinct : shape.names.Nodup) (same : make (fields value) = value)
    (each : shape.FieldsReadBack room (fields value)) :
    (shape.record make fields).ReadsBack (room + 1) value :=
  Codec.readsBack_convert same (readsBack_codec distinct each)

/-- The value of each field was read, or it stands for a field that was not given. -/
def FieldsRead (room : Nat) : {ρ : Type} → Shape ρ → ρ → Prop
  | _, .done, () => True
  | _, .field _ codec absence rest, (value, values) =>
    ((∃ document, codec.decode room document = some value) ∨ absence.object? = some value) ∧
      rest.FieldsRead room values

/-- A field and the fields behind it are read one after the other. -/
theorem bind_eq_some_pair_iff {α ρ : Type} {first : Option α} {later : Option ρ} {values : α × ρ} :
    (do
      let value ← first
      let values ← later
      pure (value, values)) = some values ↔ first = some values.1 ∧ later = some values.2 := by
  constructor
  · intro read
    obtain ⟨value, first, read⟩ := Option.bind_eq_some_iff.1 read
    obtain ⟨rest, later, read⟩ := Option.bind_eq_some_iff.1 read
    cases read
    exact ⟨first, later⟩
  · rintro ⟨rfl, rfl⟩
    rfl

theorem fieldsRead_of_members {ρ : Type} {shape : Shape ρ} {members : List (String × Document)}
    {values : ρ} (read : shape.ofMembers? room members = some values) :
    shape.FieldsRead room values := by
  induction shape with
  | done => trivial
  | field name codec absence rest ih =>
    rw [ofMembers?] at read
    cases given : members.lookup name with
    | none =>
      rw [given] at read
      obtain ⟨first, later⟩ := bind_eq_some_pair_iff.1 read
      exact ⟨.inr first, ih later⟩
    | some document =>
      rw [given] at read
      obtain ⟨first, later⟩ := bind_eq_some_pair_iff.1 read
      exact ⟨.inl ⟨document, first⟩, ih later⟩

theorem fieldsRead_of_items {ρ : Type} {shape : Shape ρ} {items : List Document} {values : ρ}
    (read : shape.ofItems? room items = some values) : shape.FieldsRead room values := by
  induction shape generalizing items with
  | done => trivial
  | field name codec absence rest ih =>
    cases items with
    | nil =>
      obtain ⟨first, later⟩ := bind_eq_some_pair_iff.1 read
      refine ⟨.inr ?_, ih later⟩
      cases absence with
      | required | inObject => cases first
      | anywhere => exact first
    | cons item items =>
      obtain ⟨first, later⟩ := bind_eq_some_pair_iff.1 read
      exact ⟨.inl ⟨item, first⟩, ih later⟩

/-- Records are read from objects and from arrays, and always field by field. -/
theorem fieldsRead_of_decode {shape : Shape ρ} {document : Document} {values : ρ}
    (read : shape.decode (room + 1) document = some values) : shape.FieldsRead room values := by
  cases document with
  | object members =>
    obtain ⟨members, -, read⟩ := Option.bind_eq_some_iff.1 read
    obtain ⟨-, -, read⟩ := Option.bind_eq_some_iff.1 read
    exact fieldsRead_of_members read
  | array items => exact fieldsRead_of_items read
  | null | bool | number | string => cases read

theorem fieldsRead_of_ofText? {α : Type} {shape : Shape ρ} {make : ρ → α} {fields : α → ρ}
    {text : String} {value : α} (read : (shape.record make fields).ofText? text = some value) :
    ∃ values, make values = value ∧ shape.FieldsRead (Json.nestingLimit - 1) values := by
  obtain ⟨document, -, decoded⟩ := Option.bind_eq_some_iff.1 read
  obtain ⟨values, fromDocument, made⟩ := Option.map_eq_some_iff.1 decoded
  exact ⟨values, made, fieldsRead_of_decode fromDocument⟩

end Shape

/-- Null is read as nothing, so what is read as something was read as such. -/
theorem Codec.decode_of_option {α : Type} {codec : Codec α} {room : Nat} {document : Document}
    {value : α} (read : codec.option.decode room document = some (some value)) :
    codec.decode room document = some value := by
  cases document with
  | null => cases read
  | bool | number | string | array | object =>
    obtain ⟨_, plain, same⟩ := Option.map_eq_some_iff.1 read
    cases same
    exact plain

end SchemaLedger
