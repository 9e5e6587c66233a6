import Mathlib.Data.List.Forall2
import Mathlib.Data.List.Perm.Basic
import SchemaLedger.Json.Canonical
import SchemaLedger.Proofs.Json.Content

namespace SchemaLedger

/-- The numeral that is the canonical text of a number. -/
def Number.canonicalNumeral (number : Number) : Numeral :=
  (Numeral.ofWord? (number.render .canonical).toList).getD ⟨false, [], none, none⟩

theorem Number.canonicalNumeral_spec (number : Number) :
    number.canonicalNumeral.Spelt (number.render .canonical).toList ∧
      ∃ again, number.canonicalNumeral.number? = some again ∧ again.Alike number := by
  obtain ⟨numeral, again, spelt, denotes, text, -⟩ := number.canonical_spelt
  have same : number.canonicalNumeral = numeral := by
    rw [canonicalNumeral, spelt.ofWord?, Option.getD_some]
  rw [same]
  exact ⟨spelt, again, denotes, .of_text text⟩

mutual

/-- What the canonical text of a value says. -/
def Json.content : Json → Content
  | .null => .null
  | .bool value => .bool value
  | .number value => .number value.canonicalNumeral
  | .string value => .string value
  | .array items => .array (Json.itemContents items)
  | .object members => .object (Json.memberContents members)

def Json.itemContents : List Json → List Content
  | [] => []
  | item :: rest => item.content :: Json.itemContents rest

def Json.memberContents : List (String × Json) → List (String × Content)
  | [] => []
  | (key, value) :: rest => (key, value.content) :: Json.memberContents rest

end

/-- What a value that was read may look like: no more than `room` containers stand around anything,
and members ascend by their keys. -/
inductive Json.Within : Nat → Json → Prop
  | null {room : Nat} : Within room .null
  | bool {room : Nat} (value : Bool) : Within room (.bool value)
  | number {room : Nat} (value : Number) : Within room (.number value)
  | string {room : Nat} (value : String) : Within room (.string value)
  | array {room : Nat} {items : List Json} (each : ∀ item ∈ items, Within room item) :
    Within (room + 1) (.array items)
  | object {room : Nat} {members : List (String × Json)}
    (ascending : members.Pairwise fun a b => a.1 < b.1) (each : ∀ m ∈ members, Within room m.2) :
    Within (room + 1) (.object members)

/-- Equal but for the spelling of numbers. -/
inductive Json.Alike : Json → Json → Prop
  | null : Alike .null .null
  | bool (value : Bool) : Alike (.bool value) (.bool value)
  | number {a b : Number} (alike : a.Alike b) : Alike (.number a) (.number b)
  | string (value : String) : Alike (.string value) (.string value)
  | array {pairs : List (Json × Json)} (each : ∀ p ∈ pairs, Alike p.1 p.2) :
    Alike (.array (pairs.map (·.1))) (.array (pairs.map (·.2)))
  | object {members : List (String × Json × Json)} (each : ∀ m ∈ members, Alike m.2.1 m.2.2) :
    Alike (.object (members.map fun m => (m.1, m.2.1))) (.object (members.map fun m => (m.1, m.2.2)))

namespace Document

mutual

/-- Every value that is read from a document looks as such values do. -/
theorem within (document : Document) {room : Nat} {value : Json}
    (read : value? room document = some value) : value.Within room := by
  cases document with
  | null =>
    cases read
    exact .null
  | bool =>
    cases read
    exact .bool _
  | number =>
    obtain ⟨_, -, rfl⟩ := Option.map_eq_some_iff.1 read
    exact .number _
  | string =>
    obtain ⟨_, -, rfl⟩ := Option.map_eq_some_iff.1 read
    exact .string _
  | array items =>
    cases room with
    | zero => cases read
    | succ room =>
      obtain ⟨values, reads, rfl⟩ := Option.map_eq_some_iff.1 read
      exact .array (items_within items reads)
  | object members =>
    cases room with
    | zero => cases read
    | succ room =>
      obtain ⟨values, reads, rfl⟩ := Option.map_eq_some_iff.1 read
      exact .object (Table.ofList values).ascending fun m isMember =>
        members_within members reads m (Table.mem_of_mem_ofList isMember)

theorem items_within (items : List Document) {room : Nat} {values : List Json}
    (read : itemValues? room items = some values) : ∀ value ∈ values, value.Within room := by
  cases items with
  | nil =>
    cases read
    simp
  | cons item rest =>
    obtain ⟨value, first, read⟩ := Option.bind_eq_some_iff.1 read
    obtain ⟨values, later, read⟩ := Option.bind_eq_some_iff.1 read
    cases read
    exact List.forall_mem_cons.2 ⟨within item first, items_within rest later⟩

theorem members_within (members : List (Quoted × Document)) {room : Nat}
    {values : List (String × Json)} (read : memberValues? room members = some values) :
    ∀ m ∈ values, m.2.Within room := by
  cases members with
  | nil =>
    cases read
    simp
  | cons member rest =>
    obtain ⟨key, -, read⟩ := Option.bind_eq_some_iff.1 read
    obtain ⟨value, first, read⟩ := Option.bind_eq_some_iff.1 read
    obtain ⟨values, later, read⟩ := Option.bind_eq_some_iff.1 read
    cases read
    exact List.forall_mem_cons.2 ⟨within member.2 first, members_within rest later⟩

end

end Document

theorem Quoted.render_injective {a b : String} (same : render a = render b) : a = b := by
  have quoted : ofText a = ofText b := by simpa [render] using congrArg String.toList same
  have read := Quoted.text?_ofText a
  rw [quoted, text?_ofText] at read
  exact (Option.some.inj read).symm

namespace Json

theorem itemContents_eq_map (items : List Json) : itemContents items = items.map content := by
  induction items with
  | nil => rfl
  | cons item rest ih => rw [itemContents, ih, List.map_cons]

theorem memberContents_eq_map (members : List (String × Json)) :
    memberContents members = members.map fun m => (m.1, m.2.content) := by
  induction members with
  | nil => rfl
  | cons member rest ih => rw [memberContents, ih, List.map_cons]

theorem canonicalItems_eq_map (items : List Json) : canonicalItems items = items.map canonical := by
  induction items with
  | nil => rfl
  | cons item rest ih => rw [canonicalItems, ih, List.map_cons]

theorem canonicalMembers_eq_map (members : List (String × Json)) :
    canonicalMembers members = members.map fun m => (Quoted.render m.1, m.2.canonical) := by
  induction members with
  | nil => rfl
  | cons member rest ih => rw [canonicalMembers, ih, List.map_cons]

theorem different_of_ascending {α : Type} {members : List (String × α)}
    (ascending : members.Pairwise fun a b => a.1 < b.1) : members.Pairwise fun a b => a.1 ≠ b.1 :=
  ascending.imp fun {a b} below same => by
    rw [same] at below
    exact String.lt_irrefl _ below

/-- The members of an object stand in its canonical text in some order. -/
theorem canonical_members {members : List (String × Json)}
    (ascending : members.Pairwise fun a b => a.1 < b.1) : ∃ written : List (String × Json),
    members.Perm written ∧ (Table.ofList (canonicalMembers members)).entries =
      written.map fun m => (Quoted.render m.1, m.2.canonical) := by
  have distinct : ((canonicalMembers members).map Prod.fst).Nodup := by
    rw [canonicalMembers_eq_map, List.map_map]
    exact List.pairwise_map.2 ((different_of_ascending ascending).imp fun different same =>
      different (Quoted.render_injective same))
  have shuffled := Table.entries_ofList_perm distinct
  rw [canonicalMembers_eq_map] at shuffled ⊢
  have each : List.Forall₂ (fun e m => e = (Quoted.render m.1, m.2.canonical))
      (members.map fun m => (Quoted.render m.1, m.2.canonical)) members :=
    List.forall₂_map_left_iff.2 (List.forall₂_same.2 fun _ _ => rfl)
  obtain ⟨written, same, perm⟩ := List.perm_comp_forall₂ shuffled each
  refine ⟨written, perm.symm, ?_⟩
  rw [← List.forall₂_eq_eq_eq]
  exact List.forall₂_map_right_iff.2 same

variable {value : Json} {room : Nat}

theorem Within.fits (within : value.Within room) : value.content.Fits room := by
  induction within with
  | null => exact .null
  | bool value => exact .bool value
  | number value => exact .number _
  | string value => exact .string value
  | array _ ih =>
    rw [content, itemContents_eq_map]
    exact .array (List.forall_mem_map.2 ih)
  | object ascending _ ih =>
    rw [content, memberContents_eq_map]
    refine .object ?_ (List.forall_mem_map.2 ih)
    rw [List.map_map]
    exact List.pairwise_map.2 (different_of_ascending ascending)

theorem Within.mono {more : Nat} (within : value.Within room) (le : room ≤ more) :
    value.Within more := by
  induction within generalizing more with
  | null => exact .null
  | bool value => exact .bool value
  | number value => exact .number value
  | string value => exact .string value
  | array _ ih =>
    obtain ⟨more, rfl⟩ := Nat.exists_eq_add_of_le' (Nat.le_of_add_left_le le)
    exact .array fun item isItem => ih item isItem (Nat.le_of_add_le_add_right le)
  | object ascending _ ih =>
    obtain ⟨more, rfl⟩ := Nat.exists_eq_add_of_le' (Nat.le_of_add_left_le le)
    exact .object ascending fun m isMember => ih m isMember (Nat.le_of_add_le_add_right le)

/-- What was read once can be written and read again. -/
theorem Within.toFits (within : value.Within room) : value.Fits room := by
  induction within with
  | null => exact .null
  | bool value => exact .bool value
  | number value => exact .number value.readsBack
  | string value => exact .string value
  | array _ ih => exact .array ih
  | object ascending _ ih => exact .object ascending ih

theorem Within.member? {key : String} {item : Json} (within : value.Within room)
    (found : value.member? key = some item) : item.Within (room - 1) := by
  cases within with
  | object _ each =>
    obtain ⟨before, after, rfl, -⟩ := List.lookup_eq_some_iff.1 found
    exact each (key, item) (List.mem_append_cons_self)
  | null | bool | number | string | array => cases found

theorem Within.items? {items : List Json} (within : value.Within room)
    (found : value.items? = some items) : ∀ item ∈ items, item.Within (room - 1) := by
  cases within with
  | array each =>
    cases found
    exact each
  | null | bool | number | string | object => cases found

theorem Within.bounded (within : value.Within room) : value.content.Bounded := by
  induction within with
  | null => exact .null
  | bool value => exact .bool value
  | number value =>
    obtain ⟨-, again, denotes, -⟩ := value.canonicalNumeral_spec
    exact .number (by rw [denotes]; rfl)
  | string value => exact .string value
  | array _ ih =>
    rw [content, itemContents_eq_map]
    exact .array (List.forall_mem_map.2 ih)
  | object _ _ ih =>
    rw [content, memberContents_eq_map]
    exact .object (List.forall_mem_map.2 ih)

/-- A member as it is written in the canonical text. -/
def memberText (member : String × Json) : Content.Member :=
  ⟨member.1, Quoted.ofText member.1, [], [], member.2.content, member.2.canonical.toList⟩

/-- The canonical text is one of the texts that say what it says. -/
theorem Within.written (within : value.Within room) :
    value.content.Written value.canonical.toList := by
  induction within with
  | null => exact .null
  | bool value => cases value <;> exact .bool _
  | number value => exact .number value.canonicalNumeral_spec.1
  | string value =>
    rw [canonical, Quoted.render, String.toList_ofList]
    exact .string (Quoted.spelt_ofText value)
  | @array _ items _ ih =>
    have each : ∀ part ∈ items.map fun item => (item.content, item.canonical.toList),
        Content.Written part.1 part.2 := List.forall_mem_map.2 ih
    have written := Content.Written.array each
    simpa [content, canonical, itemContents_eq_map, canonicalItems_eq_map, Function.comp_def,
      String.toList_intercalate] using written
  | @object _ members ascending _ ih =>
    obtain ⟨order, shuffled, entries⟩ := canonical_members ascending
    have keys : ∀ m ∈ order.map memberText, IsBlank m.before ∧
        Quoted.Spelt m.key.toList m.quoted ∧ IsBlank m.after := List.forall_mem_map.2 fun m _ =>
      ⟨List.forall_mem_nil _, Quoted.spelt_ofText m.1, List.forall_mem_nil _⟩
    have each : ∀ m ∈ order.map memberText, Content.Written m.content m.text :=
      List.forall_mem_map.2 fun m isMember => ih m (shuffled.mem_iff.2 isMember)
    have perm : (memberContents members).Perm
        ((order.map memberText).map fun m => (m.key, m.content)) := by
      rw [memberContents_eq_map, List.map_map]
      exact shuffled.map _
    have written := Content.Written.object keys each perm
    simpa [content, canonical, entries, memberText, Content.Member.whole, Quoted.render,
      Function.comp_def, String.toList_intercalate] using written

/-- The canonical text is read again, as the value that it says. -/
theorem Within.parse?_canonical (within : value.Within nestingLimit) :
    parse? value.canonical = some value.content.value := by
  have read := within.written.parse? within.fits within.bounded
  rwa [String.ofList_toList] at read

theorem value_array (items : List Json) :
    (content (.array items)).value = .array (items.map fun item => item.content.value) := by
  rw [content, Content.value, Content.itemValues_eq_map, itemContents_eq_map, List.map_map]
  rfl

/-- Members that ascend stay in their order. -/
theorem value_object {members : List (String × Json)}
    (ascending : members.Pairwise fun a b => a.1 < b.1) :
    (content (.object members)).value = .object (members.map fun m => (m.1, m.2.content.value)) := by
  have values : (members.map fun m => (m.1, m.2.content.value)).Pairwise fun a b => a.1 < b.1 :=
    List.pairwise_map.2 ascending
  rw [content, Content.value, Content.memberValues_eq_map, memberContents_eq_map, List.map_map]
  exact congrArg object (Table.entries_ofList values)

theorem value_number (number : Number) :
    ∃ again, (content (.number number)).value = .number again ∧ again.Alike number := by
  obtain ⟨-, again, denotes, alike⟩ := number.canonicalNumeral_spec
  exact ⟨again, by rw [content, Content.value, denotes]; rfl, alike⟩

/-- What the canonical text is read as is the value but for the spelling of numbers. -/
theorem Within.alike (within : value.Within room) : value.content.value.Alike value := by
  induction within with
  | null => exact .null
  | bool value => exact .bool value
  | number value =>
    obtain ⟨again, same, alike⟩ := value_number value
    rw [same]
    exact .number alike
  | string value => exact .string value
  | @array _ items _ ih =>
    have each : ∀ p ∈ items.map fun item => (item.content.value, item), Alike p.1 p.2 :=
      List.forall_mem_map.2 ih
    have alike := Alike.array each
    rw [value_array]
    simpa only [List.map_map, Function.comp_def, List.map_id'] using alike
  | @object _ members ascending _ ih =>
    have each : ∀ m ∈ members.map fun m => (m.1, m.2.content.value, m.2), Alike m.2.1 m.2.2 :=
      List.forall_mem_map.2 ih
    have alike := Alike.object each
    rw [value_object ascending]
    simpa only [List.map_map, Function.comp_def, List.map_id'] using alike

/-- Values that are alike have one canonical text. -/
theorem Alike.canonical_eq {a b : Json} (alike : a.Alike b) : a.canonical = b.canonical := by
  induction alike with
  | null => rfl
  | bool value => rfl
  | number alike => exact alike.text
  | string value => rfl
  | array _ ih =>
    simp only [canonical, canonicalItems_eq_map, List.map_map, Function.comp_def,
      List.map_congr_left ih]
  | @object members _ ih =>
    have same : members.map (fun m => (Quoted.render m.1, m.2.1.canonical)) =
        members.map fun m => (Quoted.render m.1, m.2.2.canonical) :=
      List.map_congr_left fun m isMember => by rw [ih m isMember]
    simp only [canonical, canonicalMembers_eq_map, List.map_map, Function.comp_def, same]

/-- Two lists with the same images come from one list of pairs. -/
theorem exists_pairs {α β γ : Type} {f : α → γ} {g : β → γ} {as : List α} {bs : List β}
    (same : as.map f = bs.map g) : ∃ pairs : List (α × β), as = pairs.map (·.1) ∧
      bs = pairs.map (·.2) ∧ ∀ p ∈ pairs, f p.1 = g p.2 := by
  induction as generalizing bs with
  | nil =>
    cases bs with
    | nil => exact ⟨[], rfl, rfl, by simp⟩
    | cons b bs => cases same
  | cons a as ih =>
    cases bs with
    | nil => cases same
    | cons b bs =>
      obtain ⟨first, later⟩ := List.cons.inj same
      obtain ⟨pairs, rfl, rfl, each⟩ := ih later
      exact ⟨(a, b) :: pairs, rfl, rfl, List.forall_mem_cons.2 ⟨first, each⟩⟩

/-- What an array is like is an array with items that are alike, one by one. -/
theorem Alike.items {items : List Json} {b : Json} (alike : (Json.array items).Alike b) :
    ∃ pairs : List (Json × Json), items = pairs.map (·.1) ∧ b = .array (pairs.map (·.2)) ∧
      ∀ p ∈ pairs, p.1.Alike p.2 := by
  generalize shape : Json.array items = a at alike
  cases alike with
  | array each => exact ⟨_, Json.array.inj shape, rfl, each⟩
  | _ => cases shape

theorem Alike.members {members : List (String × Json)} {b : Json}
    (alike : (Json.object members).Alike b) : ∃ pairs : List (String × Json × Json),
      members = pairs.map (fun m => (m.1, m.2.1)) ∧
        b = .object (pairs.map fun m => (m.1, m.2.2)) ∧ ∀ m ∈ pairs, m.2.1.Alike m.2.2 := by
  generalize shape : Json.object members = a at alike
  cases alike with
  | object each => exact ⟨_, Json.object.inj shape, rfl, each⟩
  | _ => cases shape

/-- Values that one value is like are alike. -/
theorem Alike.join {a b c : Json} (first : c.Alike a) (second : c.Alike b) : a.Alike b := by
  induction first generalizing b with
  | null =>
    cases second
    exact .null
  | bool value =>
    cases second
    exact .bool value
  | number alike =>
    cases second with
    | number alike' => exact .number (.of_text (alike.text.symm.trans alike'.text))
  | string value =>
    cases second
    exact .string value
  | array _ ih =>
    obtain ⟨pairs, shape, rfl, each⟩ := second.items
    obtain ⟨joint, rfl, rfl, same⟩ := exists_pairs shape
    have alike : ∀ p ∈ joint.map fun p => (p.1.2, p.2.2), p.1.Alike p.2 :=
      List.forall_mem_map.2 fun p isPair => ih p.1 (List.mem_map_of_mem isPair) (by
        rw [same p isPair]
        exact each p.2 (List.mem_map_of_mem isPair))
    simpa only [List.map_map, Function.comp_def] using Alike.array alike
  | object _ ih =>
    obtain ⟨members, shape, rfl, each⟩ := second.members
    obtain ⟨joint, rfl, rfl, same⟩ := exists_pairs shape
    have alike : ∀ m ∈ joint.map fun p => (p.1.1, p.1.2.2, p.2.2.2), m.2.1.Alike m.2.2 :=
      List.forall_mem_map.2 fun p isPair => ih p.1 (List.mem_map_of_mem isPair) (by
        rw [(Prod.mk.inj (same p isPair)).2]
        exact each p.2 (List.mem_map_of_mem isPair))
    have keys : joint.map (fun p => (p.1.1, p.2.2.2)) = joint.map fun p => (p.2.1, p.2.2.2) :=
      List.map_congr_left fun p isPair => by rw [(Prod.mk.inj (same p isPair)).1]
    have joined := Alike.object alike
    simp only [List.map_map, Function.comp_def] at joined ⊢
    rwa [keys] at joined

/-- No two values share a canonical text unless they are alike. -/
theorem Within.alike_of_canonical_eq {a b : Json} (within : a.Within nestingLimit)
    (within' : b.Within nestingLimit) (same : a.canonical = b.canonical) : a.Alike b := by
  have read := within.parse?_canonical
  rw [same, within'.parse?_canonical] at read
  have alike := within.alike
  rw [← Option.some.inj read] at alike
  exact alike.join within'.alike

end Json

end SchemaLedger
