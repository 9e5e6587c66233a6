import Mathlib.Tactic.Choose
import SchemaLedger.Proofs.Json.Numeral
import SchemaLedger.Proofs.Json.Value

namespace SchemaLedger

/-- A JSON value with its numerals as they are written. The order of members says nothing. -/
inductive Content
  | null
  | bool (value : Bool)
  | number (value : Numeral)
  | string (value : String)
  | array (items : List Content)
  | object (members : List (String × Content))
deriving Inhabited

mutual

/-- The value that is meant; a numeral beyond the doubles means nothing. -/
def Content.value : Content → Json
  | .null => .null
  | .bool value => .bool value
  | .number value => (value.number?.map Json.number).getD .null
  | .string value => .string value
  | .array items => .array (Content.itemValues items)
  | .object members => .object (Table.ofList (Content.memberValues members)).entries

def Content.itemValues : List Content → List Json
  | [] => []
  | item :: rest => item.value :: Content.itemValues rest

def Content.memberValues : List (String × Content) → List (String × Json)
  | [] => []
  | (key, item) :: rest => (key, item.value) :: Content.memberValues rest

end

namespace Content

/-- A member as it is written: white space around the key, and the text of the value. -/
structure Member where
  key : String
  quoted : Quoted
  before : List Char
  after : List Char
  content : Content
  text : List Char

/-- The key between its quotes, the colon and the value. -/
def Member.whole (member : Member) : List Char :=
  member.before ++ '"' :: (member.quoted ++ '"' :: (member.after ++ ':' :: member.text))

/-- The texts that say something. -/
inductive Written : Content → List Char → Prop
  | null : Written .null ['n', 'u', 'l', 'l']
  | bool (value : Bool) :
    Written (.bool value) (if value then ['t', 'r', 'u', 'e'] else ['f', 'a', 'l', 's', 'e'])
  | number {numeral : Numeral} {word : List Char} (spelt : numeral.Spelt word) :
    Written (.number numeral) word
  | string {value : String} {quoted : Quoted} (spelt : Quoted.Spelt value.toList quoted) :
    Written (.string value) ('"' :: (quoted ++ ['"']))
  | padded {content : Content} {before text after : List Char} (front : IsBlank before)
    (written : Written content text) (back : IsBlank after) :
    Written content (before ++ (text ++ after))
  | emptyArray {inner : List Char} (blank : IsBlank inner) :
    Written (.array []) ('[' :: (inner ++ [']']))
  | array {items : List (Content × List Char)} (each : ∀ item ∈ items, Written item.1 item.2) :
    Written (.array (items.map (·.1))) ('[' :: ([','].intercalate (items.map (·.2)) ++ [']']))
  | emptyObject {inner : List Char} (blank : IsBlank inner) :
    Written (.object []) ('\x7b' :: (inner ++ ['\x7d']))
  | object {members : List (String × Content)} {written : List Member}
    (keys : ∀ m ∈ written, IsBlank m.before ∧ Quoted.Spelt m.key.toList m.quoted ∧ IsBlank m.after)
    (each : ∀ m ∈ written, Written m.content m.text)
    (shuffled : members.Perm (written.map fun m => (m.key, m.content))) :
    Written (.object members) ('\x7b' :: ([','].intercalate (written.map Member.whole) ++ ['\x7d']))

/-- The documents that say something: strings in any spelling, and members in any order. -/
inductive Spelled : Content → Document → Prop
  | null : Spelled .null .null
  | bool (value : Bool) : Spelled (.bool value) (.bool value)
  | number (value : Numeral) : Spelled (.number value) (.number value)
  | string {value : String} {quoted : Quoted} (text : quoted.text? = some value) :
    Spelled (.string value) (.string quoted)
  | array {items : List (Content × Document)} (each : ∀ item ∈ items, Spelled item.1 item.2) :
    Spelled (.array (items.map (·.1))) (.array (items.map (·.2)))
  | object {members : List (String × Content)}
    {written : List ((String × Content) × (Quoted × Document))}
    (named : ∀ m ∈ written, m.2.1.text? = some m.1.1) (each : ∀ m ∈ written, Spelled m.1.2 m.2.2)
    (shuffled : members.Perm (written.map (·.1))) :
    Spelled (.object members) (.object (written.map (·.2)))

/-- Keys are distinct in each object, and no more than `room` containers stand around anything. -/
inductive Fits : Nat → Content → Prop
  | null {room : Nat} : Fits room .null
  | bool {room : Nat} (value : Bool) : Fits room (.bool value)
  | number {room : Nat} (value : Numeral) : Fits room (.number value)
  | string {room : Nat} (value : String) : Fits room (.string value)
  | array {room : Nat} {items : List Content} (each : ∀ item ∈ items, Fits room item) :
    Fits (room + 1) (.array items)
  | object {room : Nat} {members : List (String × Content)}
    (distinct : (members.map Prod.fst).Nodup) (each : ∀ m ∈ members, Fits room m.2) :
    Fits (room + 1) (.object members)

/-- All numbers lie within the doubles. -/
inductive Bounded : Content → Prop
  | null : Bounded .null
  | bool (value : Bool) : Bounded (.bool value)
  | number {value : Numeral} (within : value.number?.isSome) : Bounded (.number value)
  | string (value : String) : Bounded (.string value)
  | array {items : List Content} (each : ∀ item ∈ items, Bounded item) : Bounded (.array items)
  | object {members : List (String × Content)} (each : ∀ m ∈ members, Bounded m.2) :
    Bounded (.object members)

theorem Bounded.number? {numeral : Numeral} (bounded : Bounded (.number numeral)) :
    numeral.number?.isSome := by
  cases bounded with | number within => exact within

theorem Bounded.items {items : List Content} (bounded : Bounded (.array items)) :
    ∀ item ∈ items, Bounded item := by
  cases bounded with | array each => exact each

theorem Bounded.members {members : List (String × Content)} (bounded : Bounded (.object members)) :
    ∀ m ∈ members, Bounded m.2 := by
  cases bounded with | object each => exact each

theorem itemValues_eq_map (items : List Content) : itemValues items = items.map value := by
  induction items with
  | nil => rfl
  | cons item rest ih => rw [itemValues, ih, List.map_cons]

theorem memberValues_eq_map (members : List (String × Content)) :
    memberValues members = members.map fun m => (m.1, m.2.value) := by
  induction members with
  | nil => rfl
  | cons member rest ih => rw [memberValues, ih, List.map_cons]

end Content

namespace Content

variable {content : Content} {text : List Char}

/-- Whatever text says something is a way to write a document that says it. -/
theorem Written.spelled (written : Written content text) :
    ∃ document : Document, content.Spelled document ∧ document.Written (text.map some) := by
  induction written with
  | null => exact ⟨.null, .null, (Lexeme.Written.word .null).row⟩
  | bool value => exact ⟨.bool value, .bool value, (Lexeme.Written.word (.bool value)).row⟩
  | @number numeral word spelt =>
    exact ⟨.number numeral, .number numeral, (Lexeme.Written.word (.number spelt)).row⟩
  | @string value quoted spelt =>
    refine ⟨.string quoted, .string ?_, Lexeme.row_spelt spelt⟩
    rw [spelt.text?, String.ofList_toList]
  | padded front _ back ih =>
    obtain ⟨document, spelled, row⟩ := ih
    refine ⟨document, spelled, ?_⟩
    have whole := (Lexeme.row_blank front).append (row.append (Lexeme.row_blank back))
    simpa [Document.Written] using whole
  | emptyArray blank =>
    refine ⟨.array [], @Spelled.array [] (List.forall_mem_nil _), ?_⟩
    have opens : Lexeme.Row [.openBracket] [some '['] := Lexeme.row_mark (by decide)
    have closes : Lexeme.Row [.closeBracket] [some ']'] := Lexeme.row_mark (by decide)
    have whole := opens.append ((Lexeme.row_blank blank).append closes)
    simpa [Document.Written, Document.lexemes, Document.itemLexemes] using whole
  | @array items _ ih =>
    choose! document spelled row using ih
    refine ⟨.array (items.map document), ?_, ?_⟩
    · have each : ∀ part ∈ items.map fun item => (item.1, document item), part.1.Spelled part.2 :=
        List.forall_mem_map.2 spelled
      simpa only [List.map_map, Function.comp_def] using Spelled.array each
    · exact Document.written_array row
  | emptyObject blank =>
    refine ⟨.object [], @Spelled.object [] [] (List.forall_mem_nil _) (List.forall_mem_nil _)
      (.refl _), ?_⟩
    have opens : Lexeme.Row [.openBrace] [some '\x7b'] := Lexeme.row_mark (by decide)
    have closes : Lexeme.Row [.closeBrace] [some '\x7d'] := Lexeme.row_mark (by decide)
    have whole := opens.append ((Lexeme.row_blank blank).append closes)
    simpa [Document.Written, Document.lexemes, Document.memberLexemes] using whole
  | @object members written keys _ shuffled ih =>
    choose! document spelled row using ih
    refine ⟨.object (written.map fun m => (m.quoted, document m)), ?_, ?_⟩
    · have named : ∀ part ∈ written.map fun m => ((m.key, m.content), m.quoted, document m),
          part.2.1.text? = some part.1.1 := List.forall_mem_map.2 fun m isMember => by
        rw [(keys m isMember).2.1.text?, String.ofList_toList]
      have each : ∀ part ∈ written.map fun m => ((m.key, m.content), m.quoted, document m),
          part.1.2.Spelled part.2.2 := List.forall_mem_map.2 spelled
      have whole : Spelled (.object members) _ := .object named each (by
        simpa only [List.map_map, Function.comp_def] using shuffled)
      simpa only [List.map_map, Function.comp_def] using whole
    · refine Document.written_object fun m isMember => ?_
      obtain ⟨front, spelt, back⟩ := keys m isMember
      have key := (Lexeme.row_blank front).append (Lexeme.row_spelt spelt)
      have colon : Lexeme.Row [.colon] [some ':'] := Lexeme.row_mark (by decide)
      have whole := key.append (((Lexeme.row_blank back).append colon).append (row m isMember))
      simpa [Member.whole] using whole

/-- A document is read as the value that is meant. -/
theorem Spelled.value? {document : Document} {room : Nat} (spelled : content.Spelled document)
    (fits : content.Fits room) (bounded : content.Bounded) :
    Document.value? room document = some content.value := by
  induction spelled generalizing room with
  | null => rfl
  | bool value => rfl
  | number value =>
    obtain ⟨number, denotes⟩ := Option.isSome_iff_exists.1 bounded.number?
    rw [Document.value?, Content.value, denotes]
    rfl
  | string text =>
    rw [Document.value?, text]
    rfl
  | @array items _ ih =>
    cases fits with | array fit =>
    have each := fun item isItem => ih item isItem (fit _ (List.mem_map_of_mem isItem))
      (bounded.items _ (List.mem_map_of_mem isItem))
    rw [Document.value?, Json.itemValues?_map each, value, itemValues_eq_map, List.map_map]
    rfl
  | @object members written named _ shuffled ih =>
    cases fits with | object distinct fit =>
    have isMember : ∀ part ∈ written, part.1 ∈ members := fun part isPart =>
      shuffled.mem_iff.2 (List.mem_map_of_mem isPart)
    have each := fun part isPart => ih part isPart (fit _ (isMember part isPart))
      (bounded.members _ (isMember part isPart))
    have values : (members.map fun m => (m.1, m.2.value)).Perm
        (written.map fun part => (part.1.1, part.1.2.value)) := by
      simpa only [List.map_map, Function.comp_def] using
        shuffled.map fun m : String × Content => (m.1, m.2.value)
    have names : ((members.map fun m => (m.1, m.2.value)).map Prod.fst).Nodup := by
      simpa only [List.map_map, Function.comp_def] using distinct
    rw [Document.value?, Json.memberValues?_map named each, value, memberValues_eq_map,
      Table.ofList_perm names values, Option.map_some]

theorem exists_of_itemValues? {documents : List Document} {values : List Json} {room : Nat}
    (read : Document.itemValues? room documents = some values) :
    ∀ d ∈ documents, ∃ value, Document.value? room d = some value := by
  induction documents generalizing values with
  | nil => exact List.forall_mem_nil _
  | cons document rest ih =>
    obtain ⟨value, own, later⟩ := Option.bind_eq_some_iff.1 read
    obtain ⟨others, later, -⟩ := Option.bind_eq_some_iff.1 later
    exact List.forall_mem_cons.2 ⟨⟨value, own⟩, ih later⟩

theorem exists_of_memberValues? {members : List (Quoted × Document)} {values : List (String × Json)}
    {room : Nat} (read : Document.memberValues? room members = some values) :
    ∀ m ∈ members, ∃ value, Document.value? room m.2 = some value := by
  induction members generalizing values with
  | nil => exact List.forall_mem_nil _
  | cons member rest ih =>
    obtain ⟨key, -, later⟩ := Option.bind_eq_some_iff.1 read
    obtain ⟨value, own, later⟩ := Option.bind_eq_some_iff.1 later
    obtain ⟨others, later, -⟩ := Option.bind_eq_some_iff.1 later
    exact List.forall_mem_cons.2 ⟨⟨value, own⟩, ih later⟩

/-- Nothing is read that a number beyond the doubles stands in. -/
theorem Spelled.bounded {document : Document} {room : Nat} {json : Json}
    (spelled : content.Spelled document) (read : Document.value? room document = some json) :
    content.Bounded := by
  induction spelled generalizing room json with
  | null => exact .null
  | bool value => exact .bool value
  | number value =>
    obtain ⟨number, denotes, -⟩ := Option.map_eq_some_iff.1 read
    exact .number (Option.isSome_iff_exists.2 ⟨number, denotes⟩)
  | string text => exact .string _
  | @array items _ ih =>
    cases room with
    | zero => cases read
    | succ room =>
      obtain ⟨values, read, -⟩ := Option.map_eq_some_iff.1 read
      have each := List.forall_mem_map.1 (exists_of_itemValues? read)
      refine .array (List.forall_mem_map.2 fun item isItem => ?_)
      obtain ⟨value, read⟩ := each item isItem
      exact ih item isItem read
  | @object members written _ _ shuffled ih =>
    cases room with
    | zero => cases read
    | succ room =>
      obtain ⟨values, read, -⟩ := Option.map_eq_some_iff.1 read
      have each := List.forall_mem_map.1 (exists_of_memberValues? read)
      refine .object fun m isMember => ?_
      obtain ⟨part, isPart, rfl⟩ := List.mem_map.1 (shuffled.mem_iff.1 isMember)
      obtain ⟨value, read⟩ := each part isPart
      exact ih part isPart read

/-- The document is what the text is taken for. -/
theorem Written.parse?_document (written : Written content text) : ∃ document,
    Document.parse? (String.ofList text) = some document ∧ content.Spelled document := by
  obtain ⟨document, spelled, row⟩ := written.spelled
  refine ⟨document, ?_, spelled⟩
  rw [Document.parse?, String.toList_ofList]
  exact Document.ofRunes?_eq_some_iff.2 row

/-- A text that says something within the limits is read as the value. -/
theorem Written.parse? (written : Written content text) (fits : content.Fits Json.nestingLimit)
    (bounded : content.Bounded) : Json.parse? (String.ofList text) = some content.value := by
  obtain ⟨document, isDocument, spelled⟩ := written.parse?_document
  rw [Json.parse?, isDocument, Option.bind_some, spelled.value? fits bounded]

theorem Written.bounded_of_parse? {json : Json} (written : Written content text)
    (read : Json.parse? (String.ofList text) = some json) : content.Bounded := by
  obtain ⟨document, isDocument, spelled⟩ := written.parse?_document
  rw [Json.parse?, isDocument, Option.bind_some] at read
  exact spelled.bounded read

end Content

end SchemaLedger
