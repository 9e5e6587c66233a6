import SchemaLedger.Durable.Store
import SchemaLedger.Proofs.Record.RoundTrip

namespace SchemaLedger

theorem Reference.readsBack (room : Nat) (reference : Reference) :
    Reference.codec.ReadsBack (room + 1) reference :=
  Shape.readsBack_record (by decide) rfl ⟨Codec.readsBack_string room reference.name,
    Codec.readsBack_string room reference.subject, Codec.readsBack_uint32 room reference.version,
    trivial⟩

theorem FieldNote.readsBack {room : Nat} {note : FieldNote} (fits : note.type.Fits room) :
    FieldNote.codec.ReadsBack (room + 1) note :=
  Shape.readsBack_record (by decide) rfl ⟨Codec.readsBack_string room note.name,
    Codec.readsBack_json fits, Codec.readsBack_bool room note.personal, trivial⟩

theorem FieldList.readsBack {room : Nat} {list : FieldList}
    (fits : ∀ note ∈ list.fields, note.type.Fits room) :
    FieldList.codec.ReadsBack (room + 3) list :=
  Shape.readsBack_record (by decide) rfl
    ⟨Codec.readsBack_list fun note member => FieldNote.readsBack (fits note member), trivial⟩

theorem Dialect.ofLabel?_label (dialect : Dialect) : ofLabel? dialect.label = some dialect := by
  cases dialect <;> decide +kernel

namespace Cell

@[simp]
theorem asText_text (value : String) : asText (.text value) = .ok value := rfl

@[simp]
theorem asWord_ofWord (value : UInt32) : asWord (.ofWord value) = .ok value := by
  have bounded : 0 ≤ (value.toNat : Int) ∧ (value.toNat : Int) < 4294967296 := by
    have := value.toNat_lt
    omega
  rw [ofWord, asWord, if_pos bounded]
  simp

theorem asInt64_toInt (value : Int64) : asInt64 (.integer value.toInt) = .ok value := by
  have bounded : -9223372036854775808 ≤ value.toInt ∧ value.toInt < 9223372036854775808 :=
    ⟨value.le_toInt, value.toInt_lt⟩
  rw [asInt64, if_pos bounded, Int64.ofInt_toInt]

@[simp]
theorem asBool_ofBool (value : Bool) : asBool (.ofBool value) = .ok value := by
  cases value <;> rfl

theorem optional_of_ne_null {α : Type} {read : Cell → Except Fault α} {cell : Cell}
    (full : cell ≠ .null) : optional read cell = (read cell).map some := by
  cases cell with
  | null => exact absurd rfl full
  | integer _ => rfl
  | real _ => rfl
  | text _ => rfl

@[simp]
theorem optional_text (value : Option String) :
    optional asText (ofOption .text value) = .ok value := by
  cases value <;> rfl

@[simp]
theorem optional_word (value : Option UInt32) :
    optional asWord (ofOption .ofWord value) = .ok value := by
  cases value with
  | none => rfl
  | some value =>
    rw [ofOption, optional_of_ne_null (by simp [ofWord]), asWord_ofWord]
    rfl

@[simp]
theorem optional_int64 (value : Option Int64) :
    optional asInt64 (ofOption .integer (value.map Int64.toInt)) = .ok value := by
  cases value with
  | none => rfl
  | some value =>
    rw [Option.map_some, ofOption, optional_of_ne_null (by simp), asInt64_toInt]
    rfl

end Cell

/-- The row of an entry. -/
def EntryRow.ofEntry (entry : Entry) : EntryRow where
  subject := .text entry.subject
  mark := .ofOption .ofWord entry.mark
  compatibilityLevel := .ofOption .text entry.compatibilityLevel
  readOnly := .ofBool entry.readOnly
  environment := .ofOption .text entry.environment
  ownerTeam := .ofOption .text entry.ownerTeam
  personalScore := .real entry.personalScore
  riskScore := .real entry.riskScore

/-- The row of an artifact. -/
def ArtifactRow.ofArtifact (artifact : Artifact) : ArtifactRow where
  subject := .text artifact.subject
  version := .ofOption .ofWord artifact.version
  kind := .text artifact.kind
  payload := jsonCell .json (some artifact.payload)

/-- The row of a remark. -/
def RemarkRow.ofRemark (remark : Remark) : RemarkRow where
  subject := .text remark.subject
  key := .text remark.key
  value := jsonCell .json (some remark.value)

/-- Everything that the columns of a snapshot hold as JSON text can be read back from it. Three
containers stand around the type of a field. -/
structure Snapshot.Storable (snapshot : Snapshot) : Prop where
  ruleSet : ∀ value ∈ snapshot.ruleSet, value.Fits Json.nestingLimit
  metadata : ∀ value ∈ snapshot.metadata, value.Fits Json.nestingLimit
  fields : ∀ list ∈ snapshot.fields, ∀ note ∈ list.fields, note.type.Fits (Json.nestingLimit - 3)
  lintReport : ∀ value ∈ snapshot.lintReport, value.Fits Json.nestingLimit

namespace Database

@[simp]
theorem column_ok {α : Type} (index : Nat) (name : String) (value : α) :
    column index name (.ok value) = .ok value := rfl

/-- A column of JSON text is read in two steps. -/
theorem decodeColumn_jsonCell {α : Type} {codec : Codec α} (index : Nat) (name : String)
    (value : Option α) (readsBack : ∀ v ∈ value, codec.ReadsBack Json.nestingLimit v) :
    ∃ text, column index name ((jsonCell codec value).optional Cell.asText) = .ok text ∧
      decodeColumn name codec text = .ok value := by
  refine ⟨value.map fun v => (codec.encode v).render, ?_, ?_⟩
  · rw [jsonCell, Cell.optional_text, column_ok]
  · cases value with
    | none => rfl
    | some v => rw [Option.map_some, decodeColumn, (readsBack v rfl).ofText?]

/-- A snapshot is read from its row. -/
theorem snapshotOfRow_ofSnapshot {snapshot : Snapshot} (storable : snapshot.Storable) :
    snapshotOfRow snapshot.subject snapshot.version (.ofSnapshot snapshot) = .ok snapshot := by
  obtain ⟨references, readReferences, gotReferences⟩ :=
    decodeColumn_jsonCell 4 "references_json" snapshot.references fun list _ =>
      Codec.readsBack_list fun reference _ => Reference.readsBack 125 reference
  obtain ⟨ruleSet, readRuleSet, gotRuleSet⟩ :=
    decodeColumn_jsonCell 5 "rule_set_json" snapshot.ruleSet fun value isValue =>
      Codec.readsBack_json (storable.ruleSet value isValue)
  obtain ⟨metadata, readMetadata, gotMetadata⟩ :=
    decodeColumn_jsonCell 6 "metadata_json" snapshot.metadata fun value isValue =>
      Codec.readsBack_json (storable.metadata value isValue)
  obtain ⟨fields, readFields, gotFields⟩ :=
    decodeColumn_jsonCell 7 "fields_meta_json" snapshot.fields fun list isList =>
      FieldList.readsBack (storable.fields list isList)
  obtain ⟨lintReport, readLintReport, gotLintReport⟩ :=
    decodeColumn_jsonCell 8 "lint_report_json" snapshot.lintReport fun value isValue =>
      Codec.readsBack_json (storable.lintReport value isValue)
  simp only [snapshotOfRow, VersionRow.ofSnapshot, Cell.asText_text, Cell.optional_int64, column_ok,
    Dialect.ofLabel?_label, readReferences, readRuleSet, readMetadata, readFields, readLintReport,
    bind, Except.bind, gotReferences, gotRuleSet, gotMetadata, gotFields, gotLintReport]
  rfl

/-- A snapshot is read from the first row of its version. -/
theorem snapshot_of_find? {db : Database} {snapshot : Snapshot} {rows : List VersionRow}
    (held : db.versions = .held rows)
    (found : (rows.find? fun r => r.subject = .text snapshot.subject &&
      r.version = .ofWord snapshot.version) = some (.ofSnapshot snapshot))
    (storable : snapshot.Storable) :
    db.snapshot snapshot.subject snapshot.version = .ok (some snapshot) := by
  rw [Database.snapshot, held]
  simp only [Stored.read, bind, Except.bind, found, snapshotOfRow_ofSnapshot storable]
  rfl

theorem entryOfRow_ofEntry (entry : Entry) : entryOfRow (.ofEntry entry) = .ok entry := by
  simp only [entryOfRow, EntryRow.ofEntry, Cell.asText_text, Cell.optional_word, Cell.optional_text,
    Cell.asBool_ofBool, Cell.asDouble, column_ok]
  rfl

end Database

end SchemaLedger
