import SchemaLedger.Json.Printer
import SchemaLedger.Proofs.Json.Document
import SchemaLedger.Proofs.Json.Lexeme
import SchemaLedger.Proofs.Table

namespace SchemaLedger

/-- The numeral that is written for a number. -/
def Number.numeral (number : Number) : Numeral :=
  (Numeral.ofWord? (number.render .plain).toList).getD ⟨false, [], none, none⟩

mutual

/-- The document that is written for a value. -/
def Json.document : Json → Document
  | .null => .null
  | .bool value => .bool value
  | .number value => .number value.numeral
  | .string value => .string (Quoted.ofText value)
  | .array items => .array (Json.itemDocuments items)
  | .object members => .object (Json.memberDocuments members)

def Json.itemDocuments : List Json → List Document
  | [] => []
  | item :: rest => item.document :: Json.itemDocuments rest

def Json.memberDocuments : List (String × Json) → List (Quoted × Document)
  | [] => []
  | (key, value) :: rest => (Quoted.ofText key, value.document) :: Json.memberDocuments rest

end

/-- All numbers in a value read back. -/
inductive Json.Legible : Json → Prop
  | null : Legible .null
  | bool (value : Bool) : Legible (.bool value)
  | number {value : Number} (readsBack : value.ReadsBack) : Legible (.number value)
  | string (value : String) : Legible (.string value)
  | array {items : List Json} (each : ∀ item ∈ items, Legible item) : Legible (.array items)
  | object {members : List (String × Json)} (each : ∀ member ∈ members, Legible member.2) :
    Legible (.object members)

/-- All numbers in a value read back, no more than `room` containers stand around anything, and an
object has one member for each of its keys, in ascending order, as in all values that were read. -/
inductive Json.Fits : Nat → Json → Prop
  | null {room : Nat} : Fits room .null
  | bool {room : Nat} (value : Bool) : Fits room (.bool value)
  | number {room : Nat} {value : Number} (readsBack : value.ReadsBack) : Fits room (.number value)
  | string {room : Nat} (value : String) : Fits room (.string value)
  | array {room : Nat} {items : List Json} (each : ∀ item ∈ items, Fits room item) :
    Fits (room + 1) (.array items)
  | object {room : Nat} {members : List (String × Json)}
    (ascending : members.Pairwise fun a b => a.1 < b.1)
    (each : ∀ member ∈ members, Fits room member.2) : Fits (room + 1) (.object members)

theorem Number.ReadsBack.ofWord? {number : Number} (readsBack : number.ReadsBack) :
    Numeral.ofWord? (number.render .plain).toList = some number.numeral ∧
      number.numeral.number? = some number := by
  obtain ⟨numeral, read, isNumber⟩ := Option.bind_eq_some_iff.1 readsBack
  have same : number.numeral = numeral := by rw [Number.numeral, read, Option.getD_some]
  rw [same]
  exact ⟨read, isNumber⟩

namespace Json

theorem renderItems_eq_map (items : List Json) : renderItems items = items.map render := by
  induction items with
  | nil => rfl
  | cons item rest ih => rw [renderItems, ih, List.map_cons]

theorem renderMembers_eq_map (members : List (String × Json)) :
    renderMembers members = members.map fun m => Quoted.render m.1 ++ ":" ++ m.2.render := by
  induction members with
  | nil => rfl
  | cons member rest ih => rw [renderMembers, ih, List.map_cons]

theorem itemDocuments_eq_map (items : List Json) : itemDocuments items = items.map document := by
  induction items with
  | nil => rfl
  | cons item rest ih => rw [itemDocuments, ih, List.map_cons]

theorem memberDocuments_eq_map (members : List (String × Json)) :
    memberDocuments members = members.map fun m => (Quoted.ofText m.1, m.2.document) := by
  induction members with
  | nil => rfl
  | cons member rest ih => rw [memberDocuments, ih, List.map_cons]

variable {value : Json} {room : Nat}

theorem Fits.legible (fits : Fits room value) : value.Legible := by
  induction fits with
  | null => exact .null
  | bool value => exact .bool value
  | number readsBack => exact .number readsBack
  | string value => exact .string value
  | array _ ih => exact .array ih
  | object _ _ ih => exact .object ih

/-- The text of a value is a way to write its document. -/
theorem Legible.written (legible : value.Legible) :
    value.document.Written (value.render.toList.map some) := by
  induction legible with
  | null => exact (Lexeme.Written.word .null).row
  | bool value => cases value <;> exact (Lexeme.Written.word (.bool _)).row
  | @number value readsBack =>
    exact (Lexeme.Written.word (.number (Numeral.ofWord?_eq_some_iff.1 readsBack.ofWord?.1))).row
  | string value =>
    rw [render, Quoted.render, String.toList_ofList]
    exact Lexeme.row_spelt (Quoted.spelt_ofText value)
  | @array items _ ih =>
    simpa [render, document, renderItems_eq_map, itemDocuments_eq_map, String.toList_intercalate,
      Function.comp_def] using Document.written_array ih
  | @object members _ ih =>
    have each : ∀ member ∈ members, Lexeme.Row
        (.string (Quoted.ofText member.1) :: .colon :: member.2.document.lexemes)
        ((Quoted.render member.1 ++ ":" ++ member.2.render).toList.map some) := by
      intro member isMember
      have key := Lexeme.row_spelt (Quoted.spelt_ofText member.1)
      have colon : Lexeme.Row [.colon] [some ':'] := Lexeme.row_mark (by decide)
      simpa [Quoted.render] using key.append (colon.append (ih member isMember))
    simpa [render, document, renderMembers_eq_map, memberDocuments_eq_map,
      String.toList_intercalate, Function.comp_def] using Document.written_object each

/-- The text of a value spells its document. -/
theorem Legible.parse?_render (legible : value.Legible) :
    Document.parse? value.render = some value.document :=
  Document.ofRunes?_eq_some_iff.2 legible.written

theorem itemValues?_map {α : Type} {document : α → Document} {read : α → Json} {list : List α}
    (each : ∀ a ∈ list, Document.value? room (document a) = some (read a)) :
    Document.itemValues? room (list.map document) = some (list.map read) := by
  induction list with
  | nil => rfl
  | cons a rest ih =>
    obtain ⟨first, later⟩ := List.forall_mem_cons.1 each
    rw [List.map_cons, Document.itemValues?, first, ih later]
    rfl

theorem memberValues?_map {α : Type} {key : α → Quoted} {document : α → Document}
    {name : α → String} {read : α → Json} {list : List α}
    (keys : ∀ a ∈ list, (key a).text? = some (name a))
    (each : ∀ a ∈ list, Document.value? room (document a) = some (read a)) :
    Document.memberValues? room (list.map fun a => (key a, document a)) =
      some (list.map fun a => (name a, read a)) := by
  induction list with
  | nil => rfl
  | cons a rest ih =>
    obtain ⟨named, others⟩ := List.forall_mem_cons.1 keys
    obtain ⟨first, later⟩ := List.forall_mem_cons.1 each
    rw [List.map_cons, Document.memberValues?, named, first, ih others later]
    rfl

theorem Fits.value?_document (fits : Fits room value) :
    Document.value? room value.document = some value := by
  induction fits with
  | null => rfl
  | bool value => rfl
  | number readsBack => rw [document, Document.value?, readsBack.ofWord?.2, Option.map_some]
  | string value => rw [document, Document.value?, Quoted.text?_ofText, Option.map_some]
  | array _ ih =>
    rw [document, Document.value?, itemDocuments_eq_map, itemValues?_map ih, Option.map_some,
      List.map_id']
  | object ascending _ ih =>
    rw [document, Document.value?, memberDocuments_eq_map,
      memberValues?_map (fun m _ => Quoted.text?_ofText m.1) ih, Option.map_some, List.map_id',
      Table.entries_ofList ascending]

end Json

end SchemaLedger
