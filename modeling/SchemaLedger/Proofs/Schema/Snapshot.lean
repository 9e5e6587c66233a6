import SchemaLedger.Proofs.Json.Canonical
import SchemaLedger.Schema.Snapshot

namespace SchemaLedger

theorem FieldNote.within_of_ofJson? {field : Json} {note : FieldNote} {room : Nat}
    (within : field.Within room) (isNote : FieldNote.ofJson? field = some note) :
    note.type.Within (room - 1) := by
  obtain ⟨name, -, isNote⟩ := Option.bind_eq_some_iff.1 isNote
  obtain ⟨text, -, isNote⟩ := Option.bind_eq_some_iff.1 isNote
  cases isNote
  dsimp only
  cases typed : field.member? "type" with
  | none => exact .null
  | some type => exact within.member? typed

theorem FieldList.within_of_ofBody? {body : String} {list : FieldList}
    (listed : FieldList.ofBody? body = some list) :
    ∀ note ∈ list.fields, note.type.Within (Json.nestingLimit - 3) := by
  obtain ⟨schema, read, listed⟩ := Option.bind_eq_some_iff.1 listed
  obtain ⟨value, isMember, listed⟩ := Option.bind_eq_some_iff.1 listed
  obtain ⟨items, isArray, listed⟩ := Option.bind_eq_some_iff.1 listed
  cases listed
  obtain ⟨document, -, isValue⟩ := Option.bind_eq_some_iff.1 read
  have within := (document.within isValue).member? isMember
  intro note isNote
  obtain ⟨field, isField, isNote⟩ := List.mem_filterMap.1 isNote
  exact FieldNote.within_of_ofJson? (within.items? isArray field isField) isNote

namespace Snapshot

variable {subject : String} {version : UInt32} {registered : Registered} {row : Snapshot}

theorem ofRegistered?_subject (built : ofRegistered? subject version registered = some row) :
    row.subject = subject ∧ row.version = version := by
  obtain ⟨body, _, rest⟩ := Option.bind_eq_some_iff.1 built
  cases Option.some.inj rest
  exact ⟨rfl, rfl⟩

/-- What a row has of the answer that it was built from, and what it has of itself. -/
structure Renders (row : Snapshot) (registered : Registered) : Prop where
  text : registered.schema.text = some row.body
  bodied : row.body ≠ ""
  hash : row.hash = fingerprint row.body
  dialect : row.dialect = registered.schema.dialect
  fields : row.fields = if row.dialect.listsFields then FieldList.ofBody? row.body else none
  registryId : row.registryId = registered.schema.id
  references : row.references = registered.references
  ruleSet : row.ruleSet = registered.ruleSet
  metadata : row.metadata = registered.metadata
  lintReport : row.lintReport = none

theorem renders_of_ofRegistered? (built : ofRegistered? subject version registered = some row) :
    row.Renders registered := by
  obtain ⟨body, filtered, rest⟩ := Option.bind_eq_some_iff.1 built
  cases Option.some.inj rest
  obtain ⟨text, bodied⟩ := Option.filter_eq_some_iff.1 filtered
  exact ⟨text, of_decide_eq_true bodied, rfl, rfl, rfl, rfl, rfl, rfl, rfl, rfl⟩

end Snapshot

end SchemaLedger
