import SchemaLedger.Proofs.Digest.Faithful
import SchemaLedger.Proofs.Json.Rendering
import SchemaLedger.Proofs.Text.Search
import SchemaLedger.Schema.Inference

namespace SchemaLedger

namespace Json

variable {a b : Json}

theorem Alike.member? (alike : a.Alike b) (key : String) :
    Option.Rel Alike (a.member? key) (b.member? key) := by
  cases alike with
  | @object members each =>
    show Option.Rel Alike (List.lookup key _) (List.lookup key _)
    induction members with
    | nil => exact .none
    | cons member rest ih =>
      obtain ⟨first, later⟩ := List.forall_mem_cons.1 each
      rw [List.map_cons, List.map_cons, List.lookup_cons, List.lookup_cons]
      cases key == member.1 with
      | true => exact .some first
      | false => exact ih later
  | null | bool | number | string | array => exact .none

theorem Alike.items? (alike : a.Alike b) :
    Option.Rel (List.Forall₂ Alike) a.items? b.items? := by
  cases alike with
  | array each =>
    exact .some <| List.forall₂_map_left_iff.2 <| List.forall₂_map_right_iff.2 <|
      List.forall₂_same.2 each
  | null | bool | number | string | object => exact .none

theorem Alike.string?_eq (alike : a.Alike b) : a.string? = b.string? := by
  cases alike <;> rfl

end Json

/-- Fields with one name and one mark, and the same type but for the spelling of numbers. -/
structure FieldNote.Alike (a b : FieldNote) : Prop where
  name : a.name = b.name
  type : a.type.Alike b.type
  personal : a.personal = b.personal

theorem FieldNote.alike_of_ofJson? {a b : Json} (alike : a.Alike b) :
    Option.Rel FieldNote.Alike (ofJson? a) (ofJson? b) := by
  have names := alike.member? "name"
  have types := alike.member? "type"
  unfold ofJson?
  generalize a.member? "name" = name at names
  generalize b.member? "name" = name' at names
  cases names with
  | none => exact .none
  | @some value value' named =>
    simp only [Option.bind_eq_bind, Option.bind_some, ← named.string?_eq]
    cases value.string? with
    | none => exact .none
    | some text =>
      refine .some ⟨rfl, ?_, rfl⟩
      generalize a.member? "type" = type at types
      generalize b.member? "type" = type' at types
      cases types with
      | none => exact .null
      | some typed => exact typed

/-- The same fields in the same order, as many of them with a mark, but for the spelling of numbers
in their types. -/
structure FieldList.Alike (a b : FieldList) : Prop where
  names : a.fields.map (·.name) = b.fields.map (·.name)
  marks : a.fields.map (·.personal) = b.fields.map (·.personal)
  types : List.Forall₂ Json.Alike (a.fields.map (·.type)) (b.fields.map (·.type))
  count : a.personalCount = b.personalCount

namespace FieldList

theorem Alike.of_fields {a b : FieldList} (each : List.Forall₂ FieldNote.Alike a.fields b.fields) :
    a.Alike b := by
  have marks : a.fields.map (·.personal) = b.fields.map (·.personal) := by
    rw [← List.forall₂_eq_eq_eq, List.forall₂_map_left_iff, List.forall₂_map_right_iff]
    exact each.imp fun _ _ alike => alike.personal
  refine ⟨?_, marks, ?_, ?_⟩
  · rw [← List.forall₂_eq_eq_eq, List.forall₂_map_left_iff, List.forall₂_map_right_iff]
    exact each.imp fun _ _ alike => alike.name
  · rw [List.forall₂_map_left_iff, List.forall₂_map_right_iff]
    exact each.imp fun _ _ alike => alike.type
  · have counted (list : FieldList) :
        list.personalCount = (list.fields.map (·.personal)).countP id := by
      rw [personalCount, ← List.countP_eq_length_filter, List.countP_map]
      rfl
    rw [counted, counted, marks]

theorem alike_of_ofJson? {a b : Json} (alike : a.Alike b) :
    Option.Rel FieldList.Alike (ofJson? a) (ofJson? b) := by
  have fields := alike.member? "fields"
  unfold ofJson?
  generalize a.member? "fields" = value at fields
  generalize b.member? "fields" = value' at fields
  cases fields with
  | none => exact .none
  | @some value value' listed =>
    have items := listed.items?
    simp only [Option.bind_eq_bind, Option.bind_some]
    generalize value.items? = list at items
    generalize value'.items? = list' at items
    cases items with
    | none => exact .none
    | some each =>
      have notes := List.rel_filterMap (fun _ _ alike => FieldNote.alike_of_ofJson? alike) each
      exact .some (.of_fields notes)

variable {a b text : String}

/-- Bodies with one canonical text declare the same fields, or neither of them declares any. -/
theorem alike_of_canonicalText? (canonical : canonicalText? a = some text)
    (canonical' : canonicalText? b = some text) :
    Option.Rel FieldList.Alike (ofBody? a) (ofBody? b) := by
  obtain ⟨value, read, rfl⟩ := Option.map_eq_some_iff.1 canonical
  obtain ⟨value', read', same⟩ := Option.map_eq_some_iff.1 canonical'
  have alike := (Json.within_of_parse? read).alike_of_canonical_eq (Json.within_of_parse? read')
    same.symm
  rw [ofBody?, ofBody?, read, read', Option.bind_some, Option.bind_some]
  exact alike_of_ofJson? alike

theorem alike_canonical {body : String} {value : Json} (read : Json.parse? body = some value) :
    ∃ text, canonicalText? body = some text ∧
      Option.Rel FieldList.Alike (ofBody? body) (ofBody? text) := by
  obtain ⟨_, -, -, fixed⟩ := canonicalText?_canonical read
  have canonical := canonicalText?_of_parse? read
  exact ⟨_, canonical, alike_of_canonicalText? canonical fixed⟩

/-- Renderings of one document declare the same fields. -/
theorem eq_of_respelt {document other : Document} (isDocument : Document.parse? a = some document)
    (isOther : Document.parse? b = some other) (same : document.Respelt other) :
    ofBody? a = ofBody? b := by
  rw [ofBody?, ofBody?, Json.parse?, Json.parse?, isDocument, isOther, Option.bind_some,
    Option.bind_some, same.value?_eq]

theorem eq_of_written {content : Content} (distinct : content.Distinct)
    (written : content.Written a.toList) (written' : content.Written b.toList) :
    ofBody? a = ofBody? b := by
  obtain ⟨plain, respelt⟩ := distinct.respelt
  obtain ⟨document, isDocument, spelled⟩ := written.parse?_document
  obtain ⟨other, isOther, spelled'⟩ := written'.parse?_document
  rw [String.ofList_toList] at isDocument isOther
  exact eq_of_respelt isDocument isOther
    (.trans (respelt document spelled) (respelt other spelled').symm)

end FieldList

theorem suggestsPersonalData_of_sameLetters {name other : String}
    (same : List.Forall₂ SameLetter name.toList other.toList) :
    suggestsPersonalData name = suggestsPersonalData other := by
  rw [suggestsPersonalData, suggestsPersonalData, toLower_eq_of_sameLetters same]

theorem suggestsPersonalData_append {name : String} (marked : suggestsPersonalData name = true)
    (before after : String) : suggestsPersonalData (before ++ name ++ after) = true := by
  obtain ⟨keyword, isKeyword, occurs⟩ := List.any_eq_true.1 marked
  rw [suggestsPersonalData, toLower_append, toLower_append]
  exact List.any_eq_true.2 ⟨keyword, isKeyword, occursIn_append occurs _ _⟩

/-- A body that is JSON and its canonical text both declare fields or neither does, and they are the
same fields but for the spelling of numbers in their types. So it is for any two bodies with one
canonical text; and two renderings of one document, with any white space, order of members and
escapes, declare the same fields to the letter, where members of one name, if there are several,
keep their order. The mark of a field stays when letters of its name change their case, and when the
name is made longer. -/
theorem declared_fields_follow_canonical_text :
    (∀ body value, Json.parse? body = some value → ∃ text, canonicalText? body = some text ∧
      Option.Rel FieldList.Alike (FieldList.ofBody? body) (FieldList.ofBody? text)) ∧
    (∀ a b text, canonicalText? a = some text → canonicalText? b = some text →
      Option.Rel FieldList.Alike (FieldList.ofBody? a) (FieldList.ofBody? b)) ∧
    (∀ (content : Content) (a b : String), content.Distinct → content.Written a.toList →
      content.Written b.toList → FieldList.ofBody? a = FieldList.ofBody? b) ∧
    (∀ a b document other, Document.parse? a = some document → Document.parse? b = some other →
      document.Respelt other → FieldList.ofBody? a = FieldList.ofBody? b) ∧
    (∀ name other : String, List.Forall₂ SameLetter name.toList other.toList →
      suggestsPersonalData name = suggestsPersonalData other) ∧
    (∀ before name after, suggestsPersonalData name = true →
      suggestsPersonalData (before ++ name ++ after) = true) :=
  ⟨fun _ _ read => FieldList.alike_canonical read,
    fun _ _ _ canonical canonical' => FieldList.alike_of_canonicalText? canonical canonical',
    fun _ _ _ distinct written written' => FieldList.eq_of_written distinct written written',
    fun _ _ _ _ isDocument isOther same => FieldList.eq_of_respelt isDocument isOther same,
    fun _ _ same => suggestsPersonalData_of_sameLetters same,
    fun before _ after marked => suggestsPersonalData_append marked before after⟩

/-- Of two members of one name the last counts, and a name may be written with escapes. -/
theorem declared_fields_follow_canonical_text_of_doubled :
    Option.Rel FieldList.Alike
      (FieldList.ofBody? "\x7b\"fields\":[],\"fields\":[\x7b\"name\":\"e\\u006dail\"\x7d]\x7d")
      (FieldList.ofBody? "\x7b \"fields\" : [\x7b\"name\":\"email\"\x7d]\x7d") ∧
    suggestsPersonalData "workEmail2" = true := by
  obtain ⟨-, bodies, -, -, letters, longer⟩ := declared_fields_follow_canonical_text
  refine ⟨bodies _ _ "\x7b\"fields\":[\x7b\"name\":\"email\"\x7d]\x7d" (by decide +kernel)
    (by decide +kernel), ?_⟩
  have small := letters "Email" "email"
    (.cons (.inr (.inl rfl)) (List.forall₂_same.2 fun _ _ => .inl rfl))
  exact longer "work" "Email" "2" (small.trans (by decide +kernel))

end SchemaLedger
