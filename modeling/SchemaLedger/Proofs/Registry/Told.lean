import SchemaLedger.Proofs.Record.Given
import SchemaLedger.Proofs.Text.Search
import SchemaLedger.Registry.Payload

namespace SchemaLedger

/-- A document that is a reference. -/
def Reference.ToldBy (reference : Reference) (document : Document) : Prop :=
  ∃ given, document.Gives ["name", "subject", "version"] given ∧
    (∃ name, given "name" = some name ∧ name.Says reference.name) ∧
    (∃ subject, given "subject" = some subject ∧ subject.Says reference.subject) ∧
    ∃ version, given "version" = some version ∧ version.Counts reference.version.toNat

/-- A version as it follows from the fields that are given for it: the subject is the one asked for
when none is given, and so is the dialect of records; an empty text is none; labels of dialects
count in any case of their letters. -/
structure Registered.Follows (asked : String) (given : String → Option Document)
    (registered : Registered) : Prop where
  subject : Optionally (given "subject") (registered.subject = asked) fun document =>
    ∃ subject, document.Says subject ∧ registered.subject = subject
  version : ∃ document, given "version" = some document ∧
    document.Counts registered.version.toNat
  id : Optionally (given "id") (registered.schema.id = none) fun document =>
    ∃ id : Int64, document.Counts id.toInt ∧ registered.schema.id = some id
  text : Optionally (given "schema") (registered.schema.text = none) fun document =>
    ∃ text, document.Says text ∧ registered.schema.text = if text = "" then none else some text
  dialect : Optionally (given "schemaType") (registered.schema.dialect = .avro) fun document =>
    ∃ label, document.Says label ∧
      List.Forall₂ SameLetter label.toList registered.schema.dialect.label.toList
  references : Optionally (given "references") (registered.references = none) fun document =>
    ∃ references, (∃ items, document = .array items ∧
      List.Forall₂ (fun item reference => Reference.ToldBy reference item) items references) ∧
        registered.references = some references
  metadata : Optionally (given "metadata") (registered.metadata = none) fun document =>
    ∃ value, document.value? 126 = some value ∧ registered.metadata = some value
  ruleSet : Optionally (given "ruleSet") (registered.ruleSet = none) fun document =>
    ∃ value, document.value? 126 = some value ∧ registered.ruleSet = some value

/-- A body that is a version, for those who asked for a subject. -/
def Registered.ToldBy (asked : String) (body : List UInt8) (registered : Registered) : Prop :=
  ∃ document given, Document.Written document (Utf8.runes body) ∧
    document.Gives ["subject", "version", "id", "schema", "schemaType", "references", "metadata",
      "ruleSet"] given ∧ registered.Follows asked given

theorem Codec.ofBytes?_eq_some_iff {α : Type} {codec : Codec α} {bytes : List UInt8} {value : α} :
    codec.ofBytes? bytes = some value ↔ ∃ document : Document,
      document.Written (Utf8.runes bytes) ∧
        codec.decode Json.nestingLimit document = some value := by
  simp only [ofBytes?, Option.bind_eq_some_iff, Document.ofBytes?, Document.ofRunes?_eq_some_iff]

theorem Reference.decode_eq_some_iff {room : Nat} {document : Document} {reference : Reference} :
    Reference.codec.decode (room + 1) document = some reference ↔ reference.ToldBy document := by
  have even : Shape.Even (Shape.required "name" .string <| .required "subject" .string <|
      .required "version" .uint32 .done) := ⟨rfl, rfl, rfl, trivial⟩
  rw [Reference.codec, Shape.record_eq_some_iff even (by decide)]
  refine exists_congr fun given => and_congr Iff.rfl ?_
  constructor
  · rintro ⟨⟨name, subject, version, ⟨⟩⟩, ⟨isName, isSubject, isVersion, -⟩, rfl⟩
    obtain ⟨_, first, isName⟩ := required_eq_some_iff.1 isName
    obtain ⟨_, second, isSubject⟩ := required_eq_some_iff.1 isSubject
    obtain ⟨_, third, isVersion⟩ := required_eq_some_iff.1 isVersion
    exact ⟨⟨_, first, Codec.string_eq_some_iff.1 isName⟩,
      ⟨_, second, Codec.string_eq_some_iff.1 isSubject⟩,
      ⟨_, third, Codec.uint32_eq_some_iff.1 isVersion⟩⟩
  · rintro ⟨⟨_, first, isName⟩, ⟨_, second, isSubject⟩, ⟨_, third, isVersion⟩⟩
    exact ⟨(reference.name, reference.subject, reference.version, ()),
      ⟨required_eq_some_iff.2 ⟨_, first, Codec.string_eq_some_iff.2 isName⟩,
      required_eq_some_iff.2 ⟨_, second, Codec.string_eq_some_iff.2 isSubject⟩,
      required_eq_some_iff.2 ⟨_, third, Codec.uint32_eq_some_iff.2 isVersion⟩, trivial⟩, rfl⟩

/-- The fields of a payload as they are given. -/
structure VersionPayload.Given (given : String → Option Document) (payload : VersionPayload) :
    Prop where
  subject : Optionally (given "subject") (payload.subject = none) fun document =>
    ∃ subject, payload.subject = some subject ∧ document.Says subject
  version : ∃ document, given "version" = some document ∧ document.Counts payload.version.toNat
  id : Optionally (given "id") (payload.id = none) fun document =>
    ∃ id, payload.id = some id ∧ document.Counts id.toInt
  text : Optionally (given "schema") (payload.text = none) fun document =>
    ∃ text, payload.text = some text ∧ document.Says text
  dialect : Optionally (given "schemaType") (payload.dialect = none) fun document =>
    ∃ label, payload.dialect = some label ∧ document.Says label
  references : Optionally (given "references") (payload.references = none) fun document =>
    ∃ references, payload.references = some references ∧ ∃ items, document = .array items ∧
      List.Forall₂ (fun item reference => Reference.ToldBy reference item) items references
  metadata : Optionally (given "metadata") (payload.metadata = none) fun document =>
    ∃ value, payload.metadata = some value ∧ document.value? 126 = some value
  ruleSet : Optionally (given "ruleSet") (payload.ruleSet = none) fun document =>
    ∃ value, payload.ruleSet = some value ∧ document.value? 126 = some value

theorem VersionPayload.decode_eq_some_iff {document : Document} {payload : VersionPayload} :
    VersionPayload.codec.decode Json.nestingLimit document = some payload ↔
      ∃ given, document.Gives ["subject", "version", "id", "schema", "schemaType", "references",
        "metadata", "ruleSet"] given ∧ payload.Given given := by
  have even : Shape.Even (Shape.free "subject" .string <| .required "version" .uint32 <|
      .free "id" .int64 <| .free "schema" .string <| .free "schemaType" .string <|
      .free "references" (.list Reference.codec) <| .free "metadata" .json <|
      .free "ruleSet" .json .done) := ⟨rfl, rfl, rfl, rfl, rfl, rfl, rfl, rfl, trivial⟩
  rw [VersionPayload.codec, Json.nestingLimit, Shape.record_eq_some_iff even (by decide)]
  refine exists_congr fun given => and_congr Iff.rfl ?_
  constructor
  · rintro ⟨⟨subject, version, id, text, dialect, references, metadata, ruleSet, ⟨⟩⟩, takes, rfl⟩
    simp only [Shape.Takes, Shape.free, Shape.required, free_eq_some_iff, required_eq_some_iff,
      Codec.string_eq_some_iff, Codec.uint32_eq_some_iff, Codec.int64_eq_some_iff,
      Codec.list_eq_some_iff, Reference.decode_eq_some_iff] at takes
    obtain ⟨a, b, c, d, e, f, g, h, -⟩ := takes
    exact ⟨a, b, c, d, e, f, g, h⟩
  · intro fields
    refine ⟨(payload.subject, payload.version, payload.id, payload.text, payload.dialect,
      payload.references, payload.metadata, payload.ruleSet, ()), ?_, rfl⟩
    simp only [Shape.Takes, Shape.free, Shape.required, free_eq_some_iff, required_eq_some_iff,
      Codec.string_eq_some_iff, Codec.uint32_eq_some_iff, Codec.int64_eq_some_iff,
      Codec.list_eq_some_iff, Reference.decode_eq_some_iff]
    exact ⟨fields.subject, fields.version, fields.id, fields.text, fields.dialect,
      fields.references, fields.metadata, fields.ruleSet, trivial⟩

theorem Dialect.ofLabel?_eq_some_iff {label : String} {dialect : Dialect} :
    ofLabel? label = some dialect ↔
      List.Forall₂ SameLetter label.toList dialect.label.toList := by
  have capital : ∀ c ∈ dialect.label.toList, c.isUpper = true :=
    List.all_eq_true.1 (by cases dialect <;> decide)
  rw [← toUpper_eq_iff_sameLetters capital, ofLabel?, ofExactLabel?]
  generalize label.toUpper = exact
  constructor
  · intro known
    split at known
    · cases known
      assumption
    · split at known
      · cases known
        assumption
      · split at known
        · cases known
          assumption
        · cases known
  · rintro rfl
    cases dialect <;> rfl

theorem VersionPayload.registered?_eq_some_iff {asked : String} {payload : VersionPayload}
    {registered : Registered} : payload.registered? asked = some registered ↔
      ∃ dialect, payload.dialect.elim (some default) Dialect.ofLabel? = some dialect ∧
        registered = ⟨payload.subject.getD asked, payload.version,
          ⟨payload.text.filter (· ≠ ""), dialect, payload.id⟩, payload.references, payload.ruleSet,
          payload.metadata⟩ := by
  have known (found : Option Dialect) : (do
      let dialect ← found
      pure (⟨payload.subject.getD asked, payload.version,
        ⟨payload.text.filter (· ≠ ""), dialect, payload.id⟩, payload.references, payload.ruleSet,
        payload.metadata⟩ : Registered)) = some registered ↔ ∃ dialect, found = some dialect ∧
        registered = ⟨payload.subject.getD asked, payload.version,
          ⟨payload.text.filter (· ≠ ""), dialect, payload.id⟩, payload.references, payload.ruleSet,
          payload.metadata⟩ := by
    cases found <;> simp [eq_comm]
  rw [registered?]
  cases payload.dialect <;> exact known _

section Held

variable {α : Type}

theorem elim_eq_getD {held : Option α} {value other : α} :
    held.elim (value = other) (value = ·) ↔ value = held.getD other := by
  cases held <;> rfl

theorem elim_eq_held {held value : Option α} :
    held.elim (value = none) (value = some ·) ↔ value = held := by
  cases held <;> rfl

theorem elim_eq_filter {held value : Option String} :
    (held.elim (value = none) fun text => value = if text = "" then none else some text) ↔
      value = held.filter (· ≠ "") := by
  cases held with
  | none => rfl
  | some text => by_cases empty : text = "" <;> simp [Option.filter, empty]

theorem elim_eq_ofLabel? {held : Option String} {dialect : Dialect} :
    (held.elim (dialect = .avro) fun label =>
      List.Forall₂ SameLetter label.toList dialect.label.toList) ↔
        held.elim (some default) Dialect.ofLabel? = some dialect := by
  cases held with
  | none => exact ⟨fun same => same ▸ rfl, fun same => (Option.some.inj same).symm⟩
  | some label => exact Dialect.ofLabel?_eq_some_iff.symm

end Held

/-- A version follows from the fields of a payload that tells of it. -/
theorem Registered.follows_iff {asked : String} {given : String → Option Document}
    {registered : Registered} : registered.Follows asked given ↔
      ∃ payload : VersionPayload, payload.Given given ∧
        payload.registered? asked = some registered := by
  constructor
  · intro follows
    obtain ⟨subject, isSubject, givesSubject⟩ := optionally_iff_exists_held.1 follows.subject
    obtain ⟨id, isId, givesId⟩ := optionally_iff_exists_held.1 follows.id
    obtain ⟨text, isText, givesText⟩ := optionally_iff_exists_held.1 follows.text
    obtain ⟨label, isLabel, givesLabel⟩ := optionally_iff_exists_held.1 follows.dialect
    obtain ⟨references, isReferences, givesReferences⟩ :=
      optionally_iff_exists_held.1 follows.references
    obtain ⟨metadata, isMetadata, givesMetadata⟩ := optionally_iff_exists_held.1 follows.metadata
    obtain ⟨ruleSet, isRuleSet, givesRuleSet⟩ := optionally_iff_exists_held.1 follows.ruleSet
    refine ⟨⟨subject, registered.version, id, text, label, references, metadata, ruleSet⟩,
      ⟨givesSubject, follows.version, givesId, givesText, givesLabel, givesReferences, givesMetadata,
        givesRuleSet⟩, VersionPayload.registered?_eq_some_iff.2 ⟨_, elim_eq_ofLabel?.1 isLabel, ?_⟩⟩
    rw [← elim_eq_getD.1 isSubject, ← elim_eq_held.1 isId, ← elim_eq_filter.1 isText,
      ← elim_eq_held.1 isReferences, ← elim_eq_held.1 isMetadata, ← elim_eq_held.1 isRuleSet]
  · rintro ⟨payload, fields, known⟩
    obtain ⟨dialect, isDialect, rfl⟩ := VersionPayload.registered?_eq_some_iff.1 known
    exact {
      subject := optionally_iff_exists_held.2 ⟨_, elim_eq_getD.2 rfl, fields.subject⟩
      version := fields.version
      id := optionally_iff_exists_held.2 ⟨_, elim_eq_held.2 rfl, fields.id⟩
      text := optionally_iff_exists_held.2 ⟨_, elim_eq_filter.2 rfl, fields.text⟩
      dialect := optionally_iff_exists_held.2 ⟨_, elim_eq_ofLabel?.2 isDialect, fields.dialect⟩
      references := optionally_iff_exists_held.2 ⟨_, elim_eq_held.2 rfl, fields.references⟩
      metadata := optionally_iff_exists_held.2 ⟨_, elim_eq_held.2 rfl, fields.metadata⟩
      ruleSet := optionally_iff_exists_held.2 ⟨_, elim_eq_held.2 rfl, fields.ruleSet⟩ }

/-- A body is read as a version exactly where it is one. -/
theorem Registered.toldBy_iff {asked : String} {body : List UInt8} {registered : Registered} :
    registered.ToldBy asked body ↔ (VersionPayload.codec.ofBytes? body).bind
      (·.registered? asked) = some registered := by
  simp only [Option.bind_eq_some_iff, Codec.ofBytes?_eq_some_iff,
    VersionPayload.decode_eq_some_iff, ToldBy, follows_iff]
  constructor
  · rintro ⟨document, given, written, gives, payload, fields, known⟩
    exact ⟨payload, ⟨document, written, given, gives, fields⟩, known⟩
  · rintro ⟨payload, ⟨document, written, given, gives, fields⟩, known⟩
    exact ⟨document, given, written, gives, payload, fields, known⟩

/-- A body is one version at most. -/
theorem Registered.ToldBy.unique {asked : String} {body : List UInt8} {a b : Registered}
    (first : a.ToldBy asked body) (second : b.ToldBy asked body) : a = b :=
  Option.some.inj ((toldBy_iff.1 first).symm.trans (toldBy_iff.1 second))

/-- The mode that a label means: one label has a meaning, in any case of its letters. -/
def SubjectMode.Means (mode : SubjectMode) (label : String) : Prop :=
  (List.Forall₂ SameLetter label.toList "READONLY".toList ∧ mode = .readOnly) ∨
    (¬List.Forall₂ SameLetter label.toList "READONLY".toList ∧ mode = .other label)

/-- A body that is a mode. -/
def SubjectMode.ToldBy (body : List UInt8) (mode : SubjectMode) : Prop :=
  ∃ document given, Document.Written document (Utf8.runes body) ∧
    document.Gives ["mode"] given ∧
    ∃ held label, given "mode" = some held ∧ held.Says label ∧ mode.Means label

theorem SubjectMode.means_iff {mode : SubjectMode} {label : String} :
    mode.Means label ↔ ofLabel label = mode := by
  have capital : ∀ c ∈ "READONLY".toList, c.isUpper = true :=
    List.all_eq_true.1 (by decide)
  rw [Means, ← toUpper_eq_iff_sameLetters capital, ofLabel]
  split <;> simp [*, @eq_comm _ mode]

theorem ModePayload.decode_eq_some_iff {document : Document} {payload : ModePayload} :
    ModePayload.codec.decode Json.nestingLimit document = some payload ↔
      ∃ given, document.Gives ["mode"] given ∧
        ∃ held, given "mode" = some held ∧ held.Says payload.mode := by
  have even : Shape.Even (Shape.required "mode" .string .done) := ⟨rfl, trivial⟩
  rw [ModePayload.codec, Json.nestingLimit, Shape.record_eq_some_iff even (by decide)]
  refine exists_congr fun given => and_congr Iff.rfl ?_
  constructor
  · rintro ⟨⟨mode, ⟨⟩⟩, ⟨isMode, -⟩, rfl⟩
    obtain ⟨held, isGiven, isMode⟩ := required_eq_some_iff.1 isMode
    exact ⟨held, isGiven, Codec.string_eq_some_iff.1 isMode⟩
  · rintro ⟨held, isGiven, isMode⟩
    exact ⟨(payload.mode, ()),
      ⟨required_eq_some_iff.2 ⟨held, isGiven, Codec.string_eq_some_iff.2 isMode⟩, trivial⟩, rfl⟩

/-- A body is read as a mode exactly where it is one. -/
theorem SubjectMode.toldBy_iff {body : List UInt8} {mode : SubjectMode} : mode.ToldBy body ↔
    (ModePayload.codec.ofBytes? body).map (.ofLabel ·.mode) = some mode := by
  simp only [Option.map_eq_some_iff, Codec.ofBytes?_eq_some_iff, ModePayload.decode_eq_some_iff,
    ToldBy, means_iff]
  constructor
  · rintro ⟨document, given, written, gives, held, label, isGiven, isLabel, same⟩
    exact ⟨⟨label⟩, ⟨document, written, given, gives, held, isGiven, isLabel⟩, same⟩
  · rintro ⟨payload, ⟨document, written, given, gives, held, isGiven, isLabel⟩, same⟩
    exact ⟨document, given, written, gives, held, payload.mode, isGiven, isLabel, same⟩

end SchemaLedger
