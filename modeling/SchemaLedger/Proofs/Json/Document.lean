import SchemaLedger.Json.Document
import SchemaLedger.Proofs.Json.Lexeme

namespace SchemaLedger

mutual

/-- The lexemes of a document. -/
def Document.lexemes : Document → List Lexeme
  | .null => [.null]
  | .bool value => [.bool value]
  | .number value => [.number value]
  | .string value => [.string value]
  | .array items =>
    .openBracket :: ([.comma].intercalate (Document.itemLexemes items) ++ [.closeBracket])
  | .object members =>
    .openBrace :: ([.comma].intercalate (Document.memberLexemes members) ++ [.closeBrace])

def Document.itemLexemes : List Document → List (List Lexeme)
  | [] => []
  | item :: rest => item.lexemes :: Document.itemLexemes rest

def Document.memberLexemes : List (Quoted × Document) → List (List Lexeme)
  | [] => []
  | (key, value) :: rest =>
    (.string key :: .colon :: value.lexemes) :: Document.memberLexemes rest

end

namespace Document

theorem itemLexemes_eq_map (items : List Document) : itemLexemes items = items.map lexemes := by
  induction items with
  | nil => rfl
  | cons item rest ih => rw [itemLexemes, ih, List.map_cons]

theorem memberLexemes_eq_map (members : List (Quoted × Document)) :
    memberLexemes members = members.map fun m => .string m.1 :: .colon :: m.2.lexemes := by
  induction members with
  | nil => rfl
  | cons member rest ih => rw [memberLexemes, ih, List.map_cons]

/-- No document begins with the end of an array. -/
theorem lexemes_eq_cons (document : Document) :
    ∃ first rest, document.lexemes = first :: rest ∧ first ≠ .closeBracket := by
  cases document with
  | null => exact ⟨_, _, by rw [lexemes], by simp⟩
  | bool value => exact ⟨_, _, by rw [lexemes], by simp⟩
  | number value => exact ⟨_, _, by rw [lexemes], by simp⟩
  | string value => exact ⟨_, _, by rw [lexemes], by simp⟩
  | array items => exact ⟨_, _, by rw [lexemes], by simp⟩
  | object members => exact ⟨_, _, by rw [lexemes], by simp⟩

/-- The first item of an array is read as one behind a comma would be. -/
theorem Building.next?_atFirstItem (frames : List Frame) {lexeme : Lexeme}
    (goesOn : lexeme ≠ .closeBracket) :
    next? (.atFirstItem frames) lexeme = next? (.atValue (.items [] :: frames)) lexeme := by
  cases lexeme <;> first | rfl | exact absurd rfl goesOn

/-- Behind the lexemes of a document stands the document. -/
def Builds (document : Document) : Prop := ∀ frames,
  document.lexemes.foldlM Building.next? (.atValue frames) = some (.behind frames document)

/-- Behind the lexemes of a row of items stands the last of them; the others are in the frame. -/
theorem foldlM_itemLexemes {item : Document} {rest : List Document}
    (each : ∀ d ∈ item :: rest, d.Builds) (before : List Document) (frames : List Frame) :
    ∃ others last, ([Lexeme.comma].intercalate (itemLexemes (item :: rest))).foldlM Building.next?
        (.atValue (.items before :: frames)) = some (.behind (.items others :: frames) last) ∧
      (last :: others).reverse = before.reverse ++ item :: rest := by
  induction rest generalizing item before with
  | nil =>
    refine ⟨before, item, ?_, List.reverse_cons⟩
    rw [itemLexemes, itemLexemes, List.intercalate_singleton]
    exact each item List.mem_cons_self _
  | cons next rest ih =>
    obtain ⟨first, later⟩ := List.forall_mem_cons.1 each
    obtain ⟨others, last, read, whole⟩ := ih later (item :: before)
    refine ⟨others, last, ?_, by rw [whole]; simp⟩
    rw [itemLexemes] at read
    rw [itemLexemes, itemLexemes, List.intercalate_cons_cons, List.foldlM_append,
      List.foldlM_append, first]
    exact read

theorem foldlM_memberLexemes {member : Quoted × Document} {rest : List (Quoted × Document)}
    (each : ∀ m ∈ member :: rest, m.2.Builds) (before : List (Quoted × Document))
    (frames : List Frame) : ∃ others key last,
      ([Lexeme.comma].intercalate (memberLexemes (member :: rest))).foldlM Building.next?
          (.atKey frames before) = some (.behind (.members others key :: frames) last) ∧
        ((key, last) :: others).reverse = before.reverse ++ member :: rest := by
  induction rest generalizing member before with
  | nil =>
    refine ⟨before, member.1, member.2, ?_, List.reverse_cons⟩
    rw [memberLexemes, memberLexemes, List.intercalate_singleton]
    exact each member List.mem_cons_self _
  | cons next rest ih =>
    obtain ⟨first, later⟩ := List.forall_mem_cons.1 each
    obtain ⟨others, key, last, read, whole⟩ := ih later (member :: before)
    refine ⟨others, key, last, ?_, by rw [whole]; simp⟩
    have front : (Lexeme.string member.1 :: .colon :: member.2.lexemes).foldlM Building.next?
        (.atKey frames before) = some (.behind (.members before member.1 :: frames) member.2) :=
      first _
    rw [memberLexemes] at read
    rw [memberLexemes, memberLexemes, List.intercalate_cons_cons, List.foldlM_append,
      List.foldlM_append, front]
    exact read

/-- A row with commas begins with its first part. -/
theorem intercalate_eq_cons {first : Lexeme} {part : List Lexeme} (rest : List (List Lexeme)) :
    ∃ others, [Lexeme.comma].intercalate ((first :: part) :: rest) = first :: others := by
  cases rest with
  | nil => exact ⟨_, List.intercalate_singleton⟩
  | cons _ _ => exact ⟨_, List.intercalate_cons_cons⟩

theorem builds_array {items : List Document} (each : ∀ d ∈ items, d.Builds) :
    (array items).Builds := by
  intro frames
  cases items with
  | nil => rw [lexemes]; rfl
  | cons item rest =>
    obtain ⟨before, last, read, whole⟩ := foldlM_itemLexemes each [] frames
    obtain ⟨first, others, shape, goesOn⟩ := item.lexemes_eq_cons
    have begins : ∃ others, [Lexeme.comma].intercalate (itemLexemes (item :: rest)) =
        first :: others := by
      rw [itemLexemes, shape]
      exact intercalate_eq_cons _
    obtain ⟨others, begins⟩ := begins
    have step : Building.next? (.atValue frames) .openBracket = some (.atFirstItem frames) := rfl
    rw [begins, List.foldlM_cons, ← Building.next?_atFirstItem frames goesOn, ← List.foldlM_cons,
      ← begins] at read
    rw [lexemes, List.foldlM_cons, step, Option.bind_eq_bind, Option.bind_some,
      List.foldlM_append, read, Option.bind_eq_bind, Option.bind_some]
    simp [Building.next?, whole]

theorem builds_object {members : List (Quoted × Document)} (each : ∀ m ∈ members, m.2.Builds) :
    (object members).Builds := by
  intro frames
  cases members with
  | nil => rw [lexemes]; rfl
  | cons member rest =>
    obtain ⟨before, key, last, read, whole⟩ := foldlM_memberLexemes each [] frames
    have begins : ∃ others, [Lexeme.comma].intercalate (memberLexemes (member :: rest)) =
        .string member.1 :: others := by
      rw [memberLexemes]
      exact intercalate_eq_cons _
    obtain ⟨others, begins⟩ := begins
    have opened : Building.next? (.atFirstKey frames) (.string member.1) =
        Building.next? (.atKey frames []) (.string member.1) := rfl
    have step : Building.next? (.atValue frames) .openBrace = some (.atFirstKey frames) := rfl
    rw [begins, List.foldlM_cons, ← opened, ← List.foldlM_cons, ← begins] at read
    rw [lexemes, List.foldlM_cons, step, Option.bind_eq_bind, Option.bind_some,
      List.foldlM_append, read, Option.bind_eq_bind, Option.bind_some]
    simp [Building.next?, whole]

mutual

theorem builds : (document : Document) → document.Builds
  | .null => fun _ => by rw [lexemes]; rfl
  | .bool _ => fun _ => by rw [lexemes]; rfl
  | .number _ => fun _ => by rw [lexemes]; rfl
  | .string _ => fun _ => by rw [lexemes]; rfl
  | .array items => builds_array (builds_items items)
  | .object members => builds_object (builds_members members)

theorem builds_items : (items : List Document) → ∀ d ∈ items, d.Builds
  | [] => by simp
  | item :: rest => List.forall_mem_cons.2 ⟨builds item, builds_items rest⟩

theorem builds_members : (members : List (Quoted × Document)) → ∀ m ∈ members, m.2.Builds
  | [] => by simp
  | (_, value) :: rest => List.forall_mem_cons.2 ⟨builds value, builds_members rest⟩

end

/-- Every document is read from its lexemes. -/
theorem ofLexemes?_lexemes (document : Document) :
    ofLexemes? document.lexemes = some document := by
  rw [ofLexemes?, builds]

/-- The lexemes of the items or members that stand in front, each with a comma behind it. -/
def closedItems (before : List Document) : List Lexeme :=
  before.reverse.flatMap fun d => d.lexemes ++ [.comma]

def closedMembers (before : List (Quoted × Document)) : List Lexeme :=
  before.reverse.flatMap fun m => .string m.1 :: .colon :: (m.2.lexemes ++ [.comma])

/-- The lexemes up to the place in an open container where its next value is to stand. -/
def Frame.lexemes : Frame → List Lexeme
  | .items before => .openBracket :: closedItems before
  | .members before key => .openBrace :: (closedMembers before ++ [.string key, .colon])

/-- The frames are given from the inside out. -/
def framesLexemes : List Frame → List Lexeme
  | [] => []
  | frame :: frames => framesLexemes frames ++ frame.lexemes

/-- The lexemes that were read before something may come next. -/
def Building.past : Building → List Lexeme
  | .atValue frames => framesLexemes frames
  | .atFirstItem frames => framesLexemes frames ++ [.openBracket]
  | .atFirstKey frames => framesLexemes frames ++ [.openBrace]
  | .atKey frames before => framesLexemes frames ++ .openBrace :: closedMembers before
  | .atColon frames before key =>
    framesLexemes frames ++ .openBrace :: (closedMembers before ++ [.string key])
  | .behind frames document => framesLexemes frames ++ document.lexemes

theorem intercalate_closed {α : Type} (lexemes : α → List Lexeme) (before : List α) (last : α) :
    [Lexeme.comma].intercalate ((before ++ [last]).map lexemes) =
      (before.flatMap fun a => lexemes a ++ [.comma]) ++ lexemes last := by
  induction before with
  | nil => simp
  | cons first rest ih =>
    obtain ⟨next, others, shape⟩ : ∃ next others, rest ++ [last] = next :: others :=
      List.exists_cons_of_ne_nil (by simp)
    rw [List.cons_append, List.map_cons, shape, List.map_cons, List.intercalate_cons_cons,
      ← List.map_cons, ← shape, ih]
    simp

theorem lexemes_array_reverse (last : Document) (before : List Document) :
    (array (last :: before).reverse).lexemes =
      .openBracket :: (closedItems before ++ (last.lexemes ++ [.closeBracket])) := by
  rw [lexemes, itemLexemes_eq_map, List.reverse_cons, intercalate_closed, closedItems,
    List.append_assoc]

theorem lexemes_object_reverse (key : Quoted) (last : Document)
    (before : List (Quoted × Document)) : (object ((key, last) :: before).reverse).lexemes =
      .openBrace :: (closedMembers before ++
        (.string key :: .colon :: (last.lexemes ++ [.closeBrace]))) := by
  rw [lexemes, memberLexemes_eq_map, List.reverse_cons, intercalate_closed, closedMembers,
    List.append_assoc]
  rfl

theorem Building.past_begin? {frames : List Frame} {lexeme : Lexeme} {after : Building}
    (read : begin? frames lexeme = some after) : after.past = framesLexemes frames ++ [lexeme] := by
  cases lexeme <;> cases read <;> simp [past, lexemes]

theorem Building.past_next? {building after : Building} {lexeme : Lexeme}
    (read : building.next? lexeme = some after) : after.past = building.past ++ [lexeme] := by
  unfold next? at read
  split at read
  · exact past_begin? read
  · cases read; simp [past, lexemes, itemLexemes]
  · simpa [past, framesLexemes, Frame.lexemes, closedItems] using past_begin? read
  · cases read; simp [past, lexemes, memberLexemes]
  · cases read; simp [past, closedMembers]
  · cases read; simp [past]
  · cases read; simp [past, framesLexemes, Frame.lexemes]
  · cases read; simp [past, framesLexemes, Frame.lexemes, closedItems]
  · cases read; rw [past, lexemes_array_reverse]; simp [past, framesLexemes, Frame.lexemes]
  · cases read; simp [past, framesLexemes, Frame.lexemes, closedMembers]
  · cases read; rw [past, lexemes_object_reverse]; simp [past, framesLexemes, Frame.lexemes]
  · cases read

theorem Building.past_foldlM {building after : Building} {row : List Lexeme}
    (read : row.foldlM next? building = some after) : after.past = building.past ++ row := by
  induction row generalizing building with
  | nil =>
    cases read
    rw [List.append_nil]
  | cons lexeme rest ih =>
    obtain ⟨next, first, later⟩ := Option.bind_eq_some_iff.1 read
    rw [ih later, past_next? first, List.append_assoc, List.singleton_append]

/-- A document is read from its lexemes and from no others. -/
theorem ofLexemes?_eq_some_iff {row : List Lexeme} {document : Document} :
    ofLexemes? row = some document ↔ row = document.lexemes := by
  refine ⟨fun read => ?_, by rintro rfl; exact ofLexemes?_lexemes document⟩
  unfold ofLexemes? at read
  split at read
  · rename_i built
    cases read
    exact (Building.past_foldlM built).symm
  · cases read

section Apart
open Lexeme

theorem apart_append {a b : List Lexeme} (first : Apart a) (second : Apart b)
    (mark : ∀ l ∈ b.head?, l.isWord = false) : Apart (a ++ b) :=
  List.IsChain.append first second fun _ _ next isNext both => by
    cases both.2.symm.trans (mark next isNext)

theorem apart_cons {mark : Lexeme} {row : List Lexeme} (noWord : mark.isWord = false)
    (later : Apart row) : Apart (mark :: row) :=
  List.IsChain.cons later fun _ _ both => by cases both.1.symm.trans noWord

theorem apart_intercalate {parts : List (List Lexeme)} (each : ∀ part ∈ parts, Apart part) :
    Apart ([.comma].intercalate parts) := by
  induction parts with
  | nil => exact .nil
  | cons first rest ih =>
    obtain ⟨front, later⟩ := List.forall_mem_cons.1 each
    cases rest with
    | nil => rwa [List.intercalate_singleton]
    | cons next rest =>
      rw [List.intercalate_cons_cons, List.append_assoc]
      exact apart_append front (apart_cons rfl (ih later)) (by rintro _ ⟨⟩; rfl)

theorem apart_enclosed {opening closing : Lexeme} {parts : List (List Lexeme)}
    (opens : opening.isWord = false) (closes : closing.isWord = false)
    (each : ∀ part ∈ parts, Apart part) :
    Apart (opening :: ([.comma].intercalate parts ++ [closing])) := by
  refine apart_cons opens (apart_append (apart_intercalate each) (.singleton closing) ?_)
  rintro _ ⟨⟩
  exact closes

mutual

/-- In a document a mark stands between any two words. -/
theorem apart_lexemes : (document : Document) → Apart document.lexemes
  | .null => by rw [lexemes]; exact .singleton _
  | .bool _ => by rw [lexemes]; exact .singleton _
  | .number _ => by rw [lexemes]; exact .singleton _
  | .string _ => by rw [lexemes]; exact .singleton _
  | .array items => by rw [lexemes]; exact apart_enclosed rfl rfl (apart_items items)
  | .object members => by rw [lexemes]; exact apart_enclosed rfl rfl (apart_members members)

theorem apart_items : (items : List Document) → ∀ part ∈ itemLexemes items, Apart part
  | [] => by simp [itemLexemes]
  | item :: rest => by
    rw [itemLexemes]
    exact List.forall_mem_cons.2 ⟨apart_lexemes item, apart_items rest⟩

theorem apart_members :
    (members : List (Quoted × Document)) → ∀ part ∈ memberLexemes members, Apart part
  | [] => by simp [memberLexemes]
  | (_, value) :: rest => by
    rw [memberLexemes]
    exact List.forall_mem_cons.2
      ⟨apart_cons rfl (apart_cons rfl (apart_lexemes value)), apart_members rest⟩

end

end Apart

/-- The ways to write a document: its lexemes, with any white space around them. -/
def Written (document : Document) (runes : List (Option Char)) : Prop :=
  Lexeme.Row document.lexemes runes

theorem written_array {α : Type} {text : α → List Char} {document : α → Document} {list : List α}
    (each : ∀ a ∈ list, (document a).Written ((text a).map some)) :
    (array (list.map document)).Written
      (('[' :: ([','].intercalate (list.map text) ++ [']'])).map some) := by
  rw [Written, lexemes, itemLexemes_eq_map, List.map_map]
  exact Lexeme.row_enclosed (by decide) (by decide) each

theorem written_object {α : Type} {text : α → List Char} {key : α → Quoted}
    {document : α → Document} {list : List α} (each : ∀ a ∈ list,
      Lexeme.Row (.string (key a) :: .colon :: (document a).lexemes) ((text a).map some)) :
    (object (list.map fun a => (key a, document a))).Written
      (('\x7b' :: ([','].intercalate (list.map text) ++ ['\x7d'])).map some) := by
  rw [Written, lexemes, memberLexemes_eq_map, List.map_map]
  exact Lexeme.row_enclosed (by decide) (by decide) each

/-- A document is read from what it is written as and from nothing else. -/
theorem ofRunes?_eq_some_iff {runes : List (Option Char)} {document : Document} :
    ofRunes? runes = some document ↔ document.Written runes := by
  constructor
  · intro read
    obtain ⟨row, scanned, built⟩ := Option.bind_eq_some_iff.1 read
    obtain rfl := ofLexemes?_eq_some_iff.1 built
    exact Lexeme.row_of_scan? scanned
  · intro written
    rw [ofRunes?, Lexeme.scan?_of_row written document.apart_lexemes]
    exact ofLexemes?_lexemes document

end Document

end SchemaLedger
