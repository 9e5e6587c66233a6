import SchemaLedger.Catalog.Record
import SchemaLedger.Durable.Settings
import SchemaLedger.Proofs.Record.Faithful
import SchemaLedger.Sync.Tally

namespace SchemaLedger

/-- A free-form value that may be missing; null does not count as one. -/
def Json.IsGiven (held : Option Json) : Prop := ∀ value ∈ held, value.Ordered ∧ value ≠ .null

def FieldList.Proper (list : FieldList) : Prop := ∀ note ∈ list.fields, note.type.Ordered

structure Snapshot.Proper (snapshot : Snapshot) : Prop where
  ruleSet : Json.IsGiven snapshot.ruleSet
  metadata : Json.IsGiven snapshot.metadata
  fields : ∀ list ∈ snapshot.fields, list.Proper
  lintReport : Json.IsGiven snapshot.lintReport

/-- The counts fit into words of 64 bits. -/
structure RowCounts.Proper (counts : RowCounts) : Prop where
  entries : counts.entries < 2 ^ 64
  versions : counts.versions < 2 ^ 64
  artifacts : counts.artifacts < 2 ^ 64
  remarks : counts.remarks < 2 ^ 64

structure Registered.Proper (registered : Registered) : Prop where
  ruleSet : Json.IsGiven registered.ruleSet
  metadata : Json.IsGiven registered.metadata

open Codec Shape

theorem Dialect.faithful : Dialect.codec.Faithful fun _ => True :=
  faithful_label fun dialect => by cases dialect <;> decide +kernel

theorem Reference.faithful : Reference.codec.Faithful fun _ => True :=
  (faithful_required faithful_string <| faithful_required faithful_string <|
    faithful_required faithful_uint32 faithful_done).record (by decide) (fun _ => rfl)
    (fun _ _ => rfl) (by simp) (by simp)

theorem FieldNote.faithful : FieldNote.codec.Faithful fun note => note.type.Ordered :=
  (faithful_required faithful_string <| faithful_required faithful_json <|
    faithful_required faithful_bool faithful_done).record (by decide) (fun _ => rfl)
    (fun _ _ => rfl) (fun _ proper => proper.2.1) (fun _ ordered => by simpa)

theorem FieldList.faithful : FieldList.codec.Faithful FieldList.Proper :=
  (faithful_required FieldNote.faithful.list faithful_done).record (by decide) (fun _ => rfl)
    (fun _ _ => rfl) (fun _ proper => proper.1) fun _ proper => ⟨proper, trivial⟩

theorem Entry.faithful : Entry.codec.Faithful fun _ => True :=
  (faithful_required faithful_string <| faithful_optional faithful_optionUInt32 <|
    faithful_optional faithful_optionString <| faithful_required faithful_bool <|
    faithful_optional faithful_optionString <| faithful_optional faithful_optionString <|
    faithful_required faithful_double <| faithful_required faithful_double faithful_done).record
    (by decide) (fun _ => rfl) (fun _ _ => rfl) (by simp) (by simp)

/-- Lists and records are never written as null. -/
theorem Reference.faithful_optionList : (Codec.list Reference.codec).option.Faithful
    fun held => ∀ list ∈ held, ∀ reference ∈ list, True :=
  Reference.faithful.list.option fun _ => by simp [Codec.list]

theorem Snapshot.faithful : Snapshot.codec.Faithful Snapshot.Proper :=
  (faithful_required faithful_string <| faithful_required faithful_uint32 <|
    faithful_required Dialect.faithful <| faithful_optional faithful_optionInt64 <|
    faithful_required faithful_string <| faithful_required faithful_string <|
    faithful_optional Reference.faithful_optionList <| faithful_optional faithful_optionJson <|
    faithful_optional faithful_optionJson <|
    faithful_optional (FieldList.faithful.option fun _ => by
      simp [FieldList.codec, Shape.record, Codec.convert, Shape.codec]) <|
    faithful_optional faithful_optionJson faithful_done).record (by decide) (fun _ => rfl)
    (fun _ _ => rfl)
    (fun _ ⟨_, _, _, _, _, _, _, ruleSet, metadata, fields, lint, _⟩ =>
      ⟨ruleSet, metadata, fields, lint⟩)
    fun _ proper => by simpa using
      ⟨proper.ruleSet, proper.metadata, proper.fields, proper.lintReport⟩

theorem Artifact.faithful : Artifact.codec.Faithful fun artifact => artifact.payload.Ordered :=
  (faithful_required faithful_string <| faithful_optional faithful_optionUInt32 <|
    faithful_required faithful_string <| faithful_required faithful_json faithful_done).record
    (by decide) (fun _ => rfl) (fun _ _ => rfl) (fun _ proper => proper.2.2.2.1)
    fun _ ordered => by simpa

theorem Remark.faithful : Remark.codec.Faithful fun remark => remark.value.Ordered :=
  (faithful_required faithful_string <| faithful_required faithful_string <|
    faithful_required faithful_json faithful_done).record (by decide) (fun _ => rfl)
    (fun _ _ => rfl) (fun _ proper => proper.2.2.1) fun _ ordered => by simpa

theorem RowCounts.faithful : RowCounts.codec.Faithful RowCounts.Proper := by
  have kept {count : Nat} (small : count < 2 ^ 64) : (UInt64.ofNat count).toNat = count :=
    UInt64.toNat_ofNat_of_lt' small
  refine (faithful_required faithful_uint64 <| faithful_required faithful_uint64 <|
    faithful_required faithful_uint64 <| faithful_required faithful_uint64 faithful_done).record
    (by decide) (fun _ => by simp) (fun counts proper => ?_) (fun values _ => ?_) (by simp)
  · simp only [kept proper.entries, kept proper.versions, kept proper.artifacts,
      kept proper.remarks]
  · exact ⟨values.1.toNat_lt, values.2.1.toNat_lt, values.2.2.1.toNat_lt, values.2.2.2.1.toNat_lt⟩

theorem SchemaBody.faithful : SchemaBody.codec.Faithful fun _ => True :=
  (faithful_optional faithful_optionString <| faithful_required Dialect.faithful <|
    faithful_optional faithful_optionInt64 faithful_done).record (by decide) (fun _ => rfl)
    (fun _ _ => rfl) (by simp) (by simp)

theorem Registered.faithful : Registered.codec.Faithful Registered.Proper :=
  (faithful_required faithful_string <| faithful_required faithful_uint32 <|
    faithful_required SchemaBody.faithful <| faithful_optional Reference.faithful_optionList <|
    faithful_optional faithful_optionJson <|
    faithful_optional faithful_optionJson faithful_done).record (by decide) (fun _ => rfl)
    (fun _ _ => rfl) (fun _ ⟨_, _, _, _, ruleSet, metadata, _⟩ => ⟨ruleSet, metadata⟩)
    fun _ proper => by simpa using ⟨proper.ruleSet, proper.metadata⟩

theorem SubjectConfig.faithful : SubjectConfig.codec.Faithful fun _ => True :=
  (faithful_optional faithful_optionString faithful_done).record (by decide) (fun _ => rfl)
    (fun _ _ => rfl) (by simp) (by simp)

theorem RunReport.faithful : RunReport.codec.Faithful fun _ => True :=
  (faithful_required faithful_uint64 <| faithful_required faithful_uint64 <|
    faithful_required faithful_uint64 <| faithful_required faithful_uint64 <|
    faithful_required faithful_uint64 <| faithful_required faithful_uint64 <|
    faithful_required faithful_uint64 <| faithful_required faithful_uint64 <|
    faithful_required faithful_uint64 <| faithful_required faithful_uint64 <|
    faithful_required faithful_names faithful_done).record (by decide) (fun _ => rfl)
    (fun _ _ => rfl) (by simp) (by simp)

theorem Digest.faithful : Digest.codec.Faithful fun _ => True := by
  have algorithm : Digest.algorithmCodec.Faithful fun _ => True :=
    faithful_label fun algorithm => by cases algorithm; decide +kernel
  exact (faithful_required algorithm <| faithful_required faithful_string faithful_done).record
    (by decide) (fun _ => rfl) (fun _ _ => rfl) (by simp) (by simp)

/-- The three defaults are proper, whatever stands beside them. -/
theorem DurableSettings.faithful : DurableSettings.codec.Faithful fun _ => True := by
  have journal : JournalMode.codec.Faithful fun _ => True :=
    faithful_label fun mode => by cases mode <;> decide +kernel
  have sync : SyncMode.codec.Faithful fun _ => True :=
    faithful_label fun mode => by cases mode <;> decide +kernel
  have flat {α : Type} {codec : Codec α} {preset : α} (same : (codec.encode preset).depth = 0) :
      ∀ value ∈ (Absence.anywhere preset).object?, True ∧ (codec.encode value).depth = 0 := by
    simpa [Absence.object?] using same
  exact (faithful_required faithful_string <|
    faithful_field faithful_uint64 (flat (by rw [uint64, depth_word])) <|
    faithful_field journal (flat (by rw [JournalMode.codec, label, Json.depth])) <|
    faithful_field sync (flat (by rw [SyncMode.codec, label, Json.depth])) faithful_done).record
    (by decide) (fun _ => rfl) (fun _ _ => rfl) (by simp) (by simp)

/-- A mode of its own label is only read where an object may be opened. -/
theorem SubjectMode.faithful : SubjectMode.codec.Faithful fun _ => True where
  yields {room document mode} read := by
    refine ⟨trivial, ?_⟩
    cases mode with
    | readOnly => exact Nat.zero_le _
    | other label =>
      cases room with
      | zero =>
        simp only [SubjectMode.codec] at read
        split at read <;> simp_all
      | succ room =>
        have shallow : Json.membersDepth [("Other", Json.string label)] ≤ room := by
          simp [Json.membersDepth, Json.depth]
        exact Nat.add_le_add_right shallow 1
  recovers {room mode} _ shallow := by
    cases mode with
    | readOnly => exact ⟨.string _, by simp [SubjectMode.codec, Json.document]⟩
    | other label =>
      have shallow : Json.membersDepth [("Other", Json.string label)] + 1 ≤ room := shallow
      obtain ⟨room, rfl⟩ : ∃ less, room = less + 1 := ⟨room - 1, by omega⟩
      refine ⟨.object (by simpa using .string label), ?_⟩
      simp [SubjectMode.codec, Json.document, Json.memberDocuments]

/-- The types of which values are recorded. -/
inductive RecordType
  | dialect | reference | fieldNote | fieldList | entry | snapshot | artifact | remark | rowCounts
  | schemaBody | registered | subjectConfig | subjectMode | runReport | digest | durableSettings

namespace RecordType

def Held : RecordType → Type
  | dialect => Dialect
  | reference => Reference
  | fieldNote => FieldNote
  | fieldList => FieldList
  | entry => Entry
  | snapshot => Snapshot
  | artifact => Artifact
  | remark => Remark
  | rowCounts => RowCounts
  | schemaBody => SchemaBody
  | registered => Registered
  | subjectConfig => SubjectConfig
  | subjectMode => SubjectMode
  | runReport => RunReport
  | digest => Digest
  | durableSettings => DurableSettings

def codec : (type : RecordType) → Codec type.Held
  | dialect => Dialect.codec
  | reference => Reference.codec
  | fieldNote => FieldNote.codec
  | fieldList => FieldList.codec
  | entry => Entry.codec
  | snapshot => Snapshot.codec
  | artifact => Artifact.codec
  | remark => Remark.codec
  | rowCounts => RowCounts.codec
  | schemaBody => SchemaBody.codec
  | registered => Registered.codec
  | subjectConfig => SubjectConfig.codec
  | subjectMode => SubjectMode.codec
  | runReport => RunReport.codec
  | digest => Digest.codec
  | durableSettings => DurableSettings.codec

/-- The fields of a type, where it has named ones. -/
def layout? : (type : RecordType) → Option type.codec.Layout
  | dialect | subjectMode => none
  | reference => some ⟨_, _, _, _, rfl, by decide, fun _ => rfl⟩
  | fieldNote => some ⟨_, _, _, _, rfl, by decide, fun _ => rfl⟩
  | fieldList => some ⟨_, _, _, _, rfl, by decide, fun _ => rfl⟩
  | entry => some ⟨_, _, _, _, rfl, by decide, fun _ => rfl⟩
  | snapshot => some ⟨_, _, _, _, rfl, by decide, fun _ => rfl⟩
  | artifact => some ⟨_, _, _, _, rfl, by decide, fun _ => rfl⟩
  | remark => some ⟨_, _, _, _, rfl, by decide, fun _ => rfl⟩
  | rowCounts => some ⟨_, _, _, _, rfl, by decide, fun _ => by simp⟩
  | schemaBody => some ⟨_, _, _, _, rfl, by decide, fun _ => rfl⟩
  | registered => some ⟨_, _, _, _, rfl, by decide, fun _ => rfl⟩
  | subjectConfig => some ⟨_, _, _, _, rfl, by decide, fun _ => rfl⟩
  | runReport => some ⟨_, _, _, _, rfl, by decide, fun _ => rfl⟩
  | digest => some ⟨_, _, _, _, rfl, by decide, fun _ => rfl⟩
  | durableSettings => some ⟨_, _, _, _, rfl, by decide, fun _ => rfl⟩

/-- What a value has to be like for JSON to hold it; for most types any value will do. -/
def Proper : (type : RecordType) → type.Held → Prop
  | fieldNote, held => FieldNote.type held |>.Ordered
  | fieldList, held => FieldList.Proper held
  | snapshot, held => Snapshot.Proper held
  | artifact, held => Artifact.payload held |>.Ordered
  | remark, held => Remark.value held |>.Ordered
  | rowCounts, held => RowCounts.Proper held
  | registered, held => Registered.Proper held
  | _, _ => True

theorem faithful (type : RecordType) : type.codec.Faithful type.Proper := by
  cases type with
  | dialect => exact Dialect.faithful
  | reference => exact Reference.faithful
  | fieldNote => exact FieldNote.faithful
  | fieldList => exact FieldList.faithful
  | entry => exact Entry.faithful
  | snapshot => exact Snapshot.faithful
  | artifact => exact Artifact.faithful
  | remark => exact Remark.faithful
  | rowCounts => exact RowCounts.faithful
  | schemaBody => exact SchemaBody.faithful
  | registered => exact Registered.faithful
  | subjectConfig => exact SubjectConfig.faithful
  | subjectMode => exact SubjectMode.faithful
  | runReport => exact RunReport.faithful
  | digest => exact Digest.faithful
  | durableSettings => exact DurableSettings.faithful

/-- What is read from any text is written so that it is read again and written the same way. The
fields of a record give the same value as the members of an object, in any order and among others,
and as the items of an array. A proper value whose text stays within the limit of nesting is read
from that text. -/
theorem roundTrips (type : RecordType) :
    (∀ text value, type.codec.ofText? text = some value →
      (type.codec.ofText? (type.codec.text value)).map
          (fun again => (again, type.codec.text again)) =
        some (value, type.codec.text value)) ∧
    (∀ layout ∈ type.layout?, ∀ row text,
      layout.shape.InObject row text ∨ layout.shape.InArray row text →
        type.codec.ofText? text = some (layout.make row)) ∧
    ∀ value, type.Proper value → (type.codec.encode value).depth ≤ Json.nestingLimit →
      type.codec.ofText? (type.codec.text value) = some value := by
  refine ⟨fun text value read => ?_, fun layout _ row text given => layout.read given,
    fun value proper shallow => type.faithful.ofText?_text proper shallow⟩
  rw [type.faithful.reread read, Option.map_some]

/-- The same finding in two forms, and the text that is written for it. It belongs to no version,
and what was found is free-form. -/
theorem roundTrips_of_artifact :
    let found : Artifact := ⟨"s", none, "k", .object [("a", .array [.int 7, .null])]⟩
    Artifact.codec.ofText? ("\x7b\"x\":[[]],\"payload\":\x7b\"a\":[7,null]\x7d," ++
        "\"kind\":\"k\",\"version\":null,\"subject\":\"s\"\x7d") = some found ∧
      Artifact.codec.ofText? "[\"s\",null,\"k\",\x7b\"a\":[7,null]\x7d]" = some found ∧
      Artifact.codec.ofText? (Artifact.codec.text found) = some found := by
  intro found
  obtain ⟨-, forms, written⟩ := roundTrips artifact
  let payload : Document :=
    .object [(Quoted.ofText "a", .array [.number ⟨false, ['7'], none, none⟩, .null])]
  let documents : List Document :=
    [.string (Quoted.ofText "s"), .null, .string (Quoted.ofText "k"), payload]
  let row : String × Option UInt32 × String × Json × Unit :=
    (found.subject, found.version, found.kind, found.payload, ())
  have subjects : string.decode 127 (.string (Quoted.ofText "s")) = some "s" := by decide +kernel
  have kinds : string.decode 127 (.string (Quoted.ofText "k")) = some "k" := by decide +kernel
  have payloads : json.decode 127 payload = some found.payload := rfl
  have ordered : found.payload.Ordered := (faithful_json.yields payloads).1
  refine ⟨forms _ rfl row _ (.inl ?_), forms _ rfl row _ (.inr ?_), written _ ordered (by decide)⟩
  · refine ⟨_, _, documents, [("x", .array [.array []])], rfl, rfl, List.reverse_perm _, ?_, ?_⟩
    · simp [required, Shape.optional, Shape.names]
    · exact ⟨_, _, rfl, subjects, _, _, rfl, rfl, _, _, rfl, kinds, _, _, rfl, payloads, rfl⟩
  · exact ⟨documents, rfl, _, _, rfl, subjects, _, _, rfl, rfl, _, _, rfl, kinds, _, _, rfl,
      payloads, rfl⟩

end RecordType

end SchemaLedger
