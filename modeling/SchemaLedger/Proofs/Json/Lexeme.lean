import Mathlib.Data.List.Chain
import SchemaLedger.Proofs.Json.Numeral
import SchemaLedger.Proofs.Json.Quoted

namespace SchemaLedger

/-- White space of JSON. -/
def IsBlank (text : List Char) : Prop := ∀ c ∈ text, c ∈ [' ', '\t', '\n', '\r']

instance (text : List Char) : Decidable (IsBlank text) :=
  List.decidableBAll _ _

namespace Lexeme

/-- The characters that are lexemes. -/
def marks : List (Char × Lexeme) :=
  [('\x7b', .openBrace), ('\x7d', .closeBrace), ('[', .openBracket), (']', .closeBracket),
    (',', .comma), (':', .colon)]

/-- The lexemes that are words. -/
inductive Word : Lexeme → List Char → Prop
  | null : Word .null ['n', 'u', 'l', 'l']
  | bool (value : Bool) :
    Word (.bool value) (if value then ['t', 'r', 'u', 'e'] else ['f', 'a', 'l', 's', 'e'])
  | number {numeral : Numeral} {word : List Char} (spelt : numeral.Spelt word) :
    Word (.number numeral) word

/-- The ways to write a lexeme. -/
inductive Written : Lexeme → List (Option Char) → Prop
  | mark {c : Char} {lexeme : Lexeme} (isMark : (c, lexeme) ∈ marks) : Written lexeme [some c]
  | word {lexeme : Lexeme} {word : List Char} (isWord : Word lexeme word) :
    Written lexeme (word.map some)
  | string {quoted : Quoted} {runes : List (Option Char)} (held : quoted.Held runes) :
    Written (.string quoted) (some '"' :: (runes ++ [some '"']))

/-- The ways to write a row of lexemes, with any white space around them. -/
inductive Row : List Lexeme → List (Option Char) → Prop
  | nil : Row [] []
  | blank {c : Char} {lexemes : List Lexeme} {runes : List (Option Char)}
    (isBlank : c ∈ [' ', '\t', '\n', '\r']) (later : Row lexemes runes) :
    Row lexemes (some c :: runes)
  | cons {lexeme : Lexeme} {lexemes : List Lexeme} {text runes : List (Option Char)}
    (first : Written lexeme text) (later : Row lexemes runes) :
    Row (lexeme :: lexemes) (text ++ runes)

def isWord : Lexeme → Bool
  | .null | .bool _ | .number _ => true
  | _ => false

/-- No word stands right behind another, where the two would be one. -/
def Apart (lexemes : List Lexeme) : Prop :=
  lexemes.IsChain fun a b => ¬(a.isWord = true ∧ b.isWord = true)

variable {lexeme : Lexeme} {lexemes others : List Lexeme} {runes behind text : List (Option Char)}
  {word : List Char} {c : Char}

theorem Row.append (first : Row lexemes runes) (second : Row others behind) :
    Row (lexemes ++ others) (runes ++ behind) := by
  induction first with
  | nil => exact second
  | blank isBlank _ ih => exact .blank isBlank ih
  | cons first _ ih =>
    rw [List.cons_append, List.append_assoc]
    exact .cons first ih

theorem Written.row (written : Written lexeme text) : Row [lexeme] text := by
  have row := Row.cons written .nil
  rwa [List.append_nil] at row

theorem row_mark (isMark : (c, lexeme) ∈ marks) : Row [lexeme] [some c] := (Written.mark isMark).row

theorem row_blank {space : List Char} (isBlank : IsBlank space) : Row [] (space.map some) := by
  induction space with
  | nil => exact .nil
  | cons c rest ih =>
    obtain ⟨first, later⟩ := List.forall_mem_cons.1 isBlank
    exact .blank first (ih later)

theorem row_spelt {characters quoted : List Char} (spelt : Quoted.Spelt characters quoted) :
    Row [.string quoted] (('"' :: (quoted ++ ['"'])).map some) := by
  have row := (Written.string spelt.held).row
  simpa using row

/-- Parts with commas between them stand one after the other. -/
theorem row_intercalate {α : Type} {text : α → List Char} {lexemes : α → List Lexeme} {list : List α}
    (each : ∀ a ∈ list, Row (lexemes a) ((text a).map some)) :
    Row ([.comma].intercalate (list.map lexemes)) (([','].intercalate (list.map text)).map some) := by
  induction list with
  | nil => exact .nil
  | cons first rest ih =>
    obtain ⟨front, later⟩ := List.forall_mem_cons.1 each
    cases rest with
    | nil => simpa using front
    | cons next rest =>
      have comma : Row [.comma] [some ','] := row_mark (by decide)
      have separated := front.append (comma.append (ih later))
      simpa [List.intercalate_cons_cons] using separated

/-- Parts with commas between them and marks around them. -/
theorem row_enclosed {α : Type} {text : α → List Char} {lexemes : α → List Lexeme} {list : List α}
    {first last : Char} {opening closing : Lexeme} (opens : (first, opening) ∈ marks)
    (closes : (last, closing) ∈ marks) (each : ∀ a ∈ list, Row (lexemes a) ((text a).map some)) :
    Row (opening :: ([.comma].intercalate (list.map lexemes) ++ [closing]))
      ((first :: ([','].intercalate (list.map text) ++ [last])).map some) := by
  have whole := (row_mark opens).append ((row_intercalate each).append (row_mark closes))
  simpa using whole

theorem Word.isWord (isWord : Word lexeme word) : lexeme.isWord = true := by
  cases isWord <;> rfl

theorem Word.characters (isWord : Word lexeme word) :
    word ≠ [] ∧ ∀ c ∈ word, isWordCharacter c = true := by
  cases isWord with
  | null => exact ⟨nofun, List.all_eq_true.1 (by decide)⟩
  | bool value => cases value <;> exact ⟨nofun, List.all_eq_true.1 (by decide)⟩
  | number spelt =>
    obtain ⟨⟨c, rest, shape, -⟩, characters⟩ := Numeral.ofWord?_characters spelt.ofWord?
    exact ⟨by simp [shape], characters⟩

theorem ofWord?_eq_some_iff : ofWord? word = some lexeme ↔ Word lexeme word := by
  constructor
  · intro read
    unfold ofWord? at read
    split at read
    · rename_i same
      cases read
      exact same ▸ .null
    · split at read
      · rename_i same
        cases read
        exact same ▸ .bool true
      · split at read
        · rename_i same
          cases read
          exact same ▸ .bool false
        · obtain ⟨numeral, isNumeral, rfl⟩ := Option.map_eq_some_iff.1 read
          exact .number (Numeral.ofWord?_eq_some_iff.1 isNumeral)
  · intro isWord
    cases isWord with
    | null => rfl
    | bool value => cases value <;> rfl
    | number spelt => exact ofWord?_of_numeral spelt.ofWord?

end Lexeme

namespace Scan

open Lexeme

variable {lexemes : List Lexeme} {runes : List (Option Char)} {c : Char}

/-- What was read before a scan came to its place. -/
inductive Past : Scan → List (Option Char) → Prop
  | between {lexemes : List Lexeme} {runes : List (Option Char)} (row : Row lexemes.reverse runes) :
    Past ⟨lexemes, .between⟩ runes
  | word {lexemes : List Lexeme} {runes : List (Option Char)} {reversed : List Char}
    (row : Row lexemes.reverse runes) :
    Past ⟨lexemes, .word reversed⟩ (runes ++ reversed.reverse.map some)
  | string {lexemes : List Lexeme} {runes inner : List (Option Char)} {reversed : Quoted}
    (row : Row lexemes.reverse runes) (held : Quoted.Held reversed.reverse inner) :
    Past ⟨lexemes, .string reversed⟩ (runes ++ some '"' :: inner)
  | escape {lexemes : List Lexeme} {runes inner : List (Option Char)} {reversed : Quoted}
    (row : Row lexemes.reverse runes) (held : Quoted.Held reversed.reverse inner) :
    Past ⟨lexemes, .escape ('\\' :: reversed)⟩ (runes ++ some '"' :: (inner ++ [some '\\']))
  | digits {lexemes : List Lexeme} {runes inner : List (Option Char)} {reversed : Quoted}
    {digits : List Char} {left : Nat} (row : Row lexemes.reverse runes)
    (held : Quoted.Held reversed.reverse inner) (hex : ∀ d ∈ digits, (Hex.value? d).isSome)
    (count : digits.length + left = 3) :
    Past ⟨lexemes, .digits left (digits.reverse ++ 'u' :: '\\' :: reversed)⟩
      (runes ++ some '"' :: (inner ++ some '\\' :: some 'u' :: digits.map some))

theorem past_mark? {scan : Scan} (row : Row lexemes.reverse runes)
    (read : mark? lexemes c = some scan) : Past scan (runes ++ [some c]) := by
  have blank {c : Char} (isBlank : c ∈ [' ', '\t', '\n', '\r']) :
      Past ⟨lexemes, .between⟩ (runes ++ [some c]) := by
    have row := row.append (.blank isBlank .nil)
    rw [List.append_nil] at row
    exact .between row
  have mark {c : Char} {lexeme : Lexeme} (isMark : (c, lexeme) ∈ marks) :
      Past ⟨lexeme :: lexemes, .between⟩ (runes ++ [some c]) := by
    have row := row.append (row_mark isMark)
    rw [← List.reverse_cons] at row
    exact .between row
  unfold mark? at read
  split at read
  · cases read; exact blank (by decide)
  · cases read; exact blank (by decide)
  · cases read; exact blank (by decide)
  · cases read; exact blank (by decide)
  · cases read; exact mark (by decide)
  · cases read; exact mark (by decide)
  · cases read; exact mark (by decide)
  · cases read; exact mark (by decide)
  · cases read; exact mark (by decide)
  · cases read; exact mark (by decide)
  · cases read; exact .string row .nil
  · cases read

/-- A scan within a string goes on by what may stand there. -/
theorem Past.within {runes inner more : List (Option Char)} {reversed held : Quoted}
    (row : Row lexemes.reverse runes) (before : Quoted.Held reversed.reverse inner)
    (next : Quoted.Held held more) :
    Past ⟨lexemes, .string (held.reverse ++ reversed)⟩ (runes ++ some '"' :: (inner ++ more)) := by
  refine .string row ?_
  rw [List.reverse_append, List.reverse_reverse]
  exact before.append next

/-- One rune further, a scan has read that much more. -/
theorem Past.next {scan after : Scan} {rune : Option Char} (past : Past scan runes)
    (read : scan.nextRune? rune = some after) : Past after (runes ++ [rune]) := by
  cases rune with
  | none =>
    cases past with
    | string row held =>
      cases read
      simpa using within row held (.gap .nil)
    | between | word | escape | digits => cases read
  | some c =>
    change scan.next? c = some after at read
    cases past with
    | between row =>
      simp only [next?] at read
      split at read
      · cases read
        exact .word row
      · exact past_mark? row read
    | @word _ _ reversed row =>
      simp only [next?] at read
      split at read
      · cases read
        have past := @Past.word _ _ (c :: reversed) row
        simpa using past
      · obtain ⟨lexeme, isLexeme, read⟩ := Option.bind_eq_some_iff.1 read
        have written := Written.word (ofWord?_eq_some_iff.1 isLexeme)
        refine past_mark? ?_ read
        rw [List.reverse_cons]
        exact row.append written.row
    | @string lexemes _ inner reversed row held =>
      simp only [next?] at read
      split at read
      · rename_i isQuote
        cases read
        have row := row.append (Written.string held).row
        rw [← List.reverse_cons] at row
        simpa [isQuote] using Past.between row
      · split at read
        · rename_i isMark
          cases read
          simpa [isMark] using Past.escape row held
        · split at read
          · cases read
          · cases read
            simpa using within row held (.plain ‹_› ‹_› (Nat.le_of_not_lt ‹_›) .nil)
    | @escape _ _ inner reversed row held =>
      simp only [next?] at read
      split at read
      · rename_i isUnit
        cases read
        simpa [isUnit] using @Past.digits _ _ _ _ [] 3 row held (by simp) rfl
      · split at read
        · rename_i isLetter
          cases read
          simpa using within row held (.short isLetter .nil)
        · cases read
    | @digits _ _ inner reversed digits left row held hex count =>
      simp only [next?] at read
      split at read
      · cases read
      · rename_i some
        have isDigit : (Hex.value? c).isSome :=
          Option.isSome_iff_ne_none.2 (mt Option.isNone_iff_eq_none.2 some)
        have hex : ∀ d ∈ digits ++ [c], (Hex.value? d).isSome := by
          simpa [or_imp, forall_and] using And.intro hex isDigit
        cases left with
        | zero =>
          cases read
          have four : (digits ++ [c]).length = 4 := by simp; omega
          simpa using within row held (.unit four hex .nil)
        | succ left =>
          cases read
          have past := @Past.digits _ _ _ _ _ left row held hex (by simp; omega)
          simpa using past

theorem Past.foldlM {scan after : Scan} {more : List (Option Char)} (past : Past scan runes)
    (read : more.foldlM nextRune? scan = some after) : Past after (runes ++ more) := by
  induction more generalizing scan runes with
  | nil =>
    cases read
    rwa [List.append_nil]
  | cons rune rest ih =>
    obtain ⟨next, first, later⟩ := Option.bind_eq_some_iff.1 read
    have whole := ih (past.next first) later
    rwa [List.append_assoc] at whole

theorem Past.row {scan : Scan} {lexemes : List Lexeme} (past : Past scan runes)
    (ends : scan.finish? = some lexemes) : Row lexemes runes := by
  cases past with
  | between row =>
    cases ends
    exact row
  | word row =>
    obtain ⟨lexeme, isLexeme, rfl⟩ := Option.map_eq_some_iff.1 ends
    rw [List.reverse_cons]
    exact row.append (Written.word (ofWord?_eq_some_iff.1 isLexeme)).row
  | string | escape | digits => cases ends

/-- The lexemes so far, newest first, when the text may end here. -/
def settled? (scan : Scan) : Option (List Lexeme) :=
  match scan.place with
  | .between => some scan.lexemes
  | .word reversed => (Lexeme.ofWord? reversed.reverse).map (· :: scan.lexemes)
  | _ => none

theorem finish?_eq (scan : Scan) : scan.finish? = scan.settled?.map List.reverse := by
  obtain ⟨lexemes, place⟩ := scan
  cases place with
  | between => rfl
  | word reversed =>
    simp only [finish?, settled?]
    cases Lexeme.ofWord? reversed.reverse <;> rfl
  | string _ => rfl
  | escape _ => rfl
  | digits _ _ => rfl

/-- A mark ends the word in front of it. -/
theorem next?_of_settled {scan : Scan} (settled : scan.settled? = some lexemes)
    (noWord : isWordCharacter c = false) : scan.next? c = mark? lexemes c := by
  obtain ⟨before, place⟩ := scan
  cases place with
  | between =>
    cases Option.some.inj settled
    simp [next?, noWord]
  | word reversed =>
    obtain ⟨lexeme, read, rfl⟩ := Option.map_eq_some_iff.1 settled
    simp [next?, noWord, read]
  | string _ => cases settled
  | escape _ => cases settled
  | digits _ _ => cases settled

/-- Characters of a word are gathered. -/
theorem foldlM_word {word : List Char} (characters : ∀ c ∈ word, isWordCharacter c = true)
    (before : List Lexeme) (reversed : List Char) :
    (word.map some).foldlM nextRune? ⟨before, .word reversed⟩ =
      some ⟨before, .word (word.reverse ++ reversed)⟩ := by
  induction word generalizing reversed with
  | nil => rfl
  | cons c rest ih =>
    obtain ⟨first, later⟩ := List.forall_mem_cons.1 characters
    have step : nextRune? ⟨before, .word reversed⟩ (some c) =
        some ⟨before, .word (c :: reversed)⟩ := by
      simp [nextRune?, next?, first]
    rw [List.map_cons, List.foldlM_cons, step, Option.bind_eq_bind, Option.bind_some, ih later]
    simp

/-- What may stand between quotes goes into the string. -/
theorem foldlM_held {quoted : Quoted} (held : quoted.Held runes) (before : List Lexeme)
    (reversed : Quoted) : runes.foldlM nextRune? ⟨before, .string reversed⟩ =
      some ⟨before, .string (quoted.reverse ++ reversed)⟩ := by
  induction held generalizing reversed with
  | nil => rfl
  | plain noQuote unmarked printed _ ih =>
    rw [List.foldlM_cons]
    simp [nextRune?, next?, noQuote, unmarked, Nat.not_lt.2 printed, ih]
  | gap _ ih =>
    rw [List.foldlM_cons]
    simp [nextRune?, ih]
  | @short letter _ _ known _ ih =>
    have all : Quoted.shortEscapes.map (·.1) = ['"', '\\', '/', 'b', 'f', 'n', 'r', 't'] := rfl
    have isLetter : letter ∈ ['"', '\\', '/', 'b', 'f', 'n', 'r', 't'] := all ▸ known
    have notDigits : letter ≠ 'u' := by
      rintro rfl
      exact absurd isLetter (by decide)
    have opened : nextRune? ⟨before, .string reversed⟩ (some '\\') =
        some ⟨before, .escape ('\\' :: reversed)⟩ := rfl
    have behind : nextRune? ⟨before, .escape ('\\' :: reversed)⟩ (some letter) =
        some ⟨before, .string (letter :: '\\' :: reversed)⟩ :=
      (if_neg notDigits).trans (if_pos isLetter)
    rw [List.foldlM_cons, opened, Option.bind_eq_bind, Option.bind_some, List.foldlM_cons, behind,
      Option.bind_eq_bind, Option.bind_some, ih]
    simp
  | @unit digits _ _ four hex _ ih =>
    obtain ⟨a, b, c, d, rfl⟩ : ∃ a b c d, digits = [a, b, c, d] :=
      match digits, four with
      | [a, b, c, d], _ => ⟨a, b, c, d, rfl⟩
    simp only [List.forall_mem_cons, Option.isSome_iff_ne_none] at hex
    simp [nextRune?, next?, hex, ih]

theorem mark?_of_mem {lexeme : Lexeme} (isMark : (c, lexeme) ∈ marks) (before : List Lexeme) :
    isWordCharacter c = false ∧ mark? before c = some ⟨lexeme :: before, .between⟩ := by
  simp only [marks, List.mem_cons, Prod.mk.injEq, List.not_mem_nil, or_false] at isMark
  rcases isMark with ⟨rfl, rfl⟩ | ⟨rfl, rfl⟩ | ⟨rfl, rfl⟩ | ⟨rfl, rfl⟩ | ⟨rfl, rfl⟩ | ⟨rfl, rfl⟩ <;>
    exact ⟨by decide, rfl⟩

theorem mark?_of_blank (isBlank : c ∈ [' ', '\t', '\n', '\r']) (before : List Lexeme) :
    isWordCharacter c = false ∧ mark? before c = some ⟨before, .between⟩ := by
  simp only [List.mem_cons, List.not_mem_nil, or_false] at isBlank
  rcases isBlank with rfl | rfl | rfl | rfl <;> exact ⟨by decide, rfl⟩

/-- A lexeme is scanned where it stands behind no word, or is none itself. -/
theorem exists_foldlM_of_written {lexeme : Lexeme} (written : Written lexeme runes) {scan : Scan}
    {before : List Lexeme} (settled : scan.settled? = some before)
    (clear : scan.place = .between ∨ lexeme.isWord = false) :
    ∃ after, runes.foldlM nextRune? scan = some after ∧ after.settled? = some (lexeme :: before) ∧
      (after.place = .between ∨ lexeme.isWord = true) := by
  cases written with
  | @mark c _ isMark =>
    obtain ⟨noWord, stands⟩ := mark?_of_mem isMark before
    have step : scan.nextRune? (some c) = some ⟨lexeme :: before, .between⟩ :=
      (next?_of_settled settled noWord).trans stands
    exact ⟨_, by rw [List.foldlM_cons, step]; rfl, rfl, .inl rfl⟩
  | @word _ word isWord =>
    obtain ⟨nonempty, characters⟩ := isWord.characters
    obtain ⟨c, rest, rfl⟩ := List.exists_cons_of_ne_nil nonempty
    obtain ⟨first, later⟩ := List.forall_mem_cons.1 characters
    have start : scan = ⟨before, .between⟩ := by
      obtain ⟨lexemes, place⟩ := scan
      obtain rfl : place = .between := clear.resolve_right (by simp [isWord.isWord])
      cases Option.some.inj settled
      rfl
    have step : scan.nextRune? (some c) = some ⟨before, .word [c]⟩ := by
      simp [nextRune?, next?, first, start]
    refine ⟨⟨before, .word (rest.reverse ++ [c])⟩, ?_, ?_, .inr isWord.isWord⟩
    · rw [List.map_cons, List.foldlM_cons, step, Option.bind_eq_bind, Option.bind_some,
        foldlM_word later]
    · simp [settled?, ofWord?_eq_some_iff.2 isWord]
  | @string quoted runes held =>
    have opened : scan.nextRune? (some '"') = some ⟨before, .string []⟩ :=
      next?_of_settled settled (by decide)
    have closed : nextRune? ⟨before, .string (quoted.reverse ++ [])⟩ (some '"') =
        some ⟨.string quoted :: before, .between⟩ := by
      simp [nextRune?, next?]
    refine ⟨⟨.string quoted :: before, .between⟩, ?_, rfl, .inl rfl⟩
    rw [List.foldlM_cons, opened, Option.bind_eq_bind, Option.bind_some, List.foldlM_append,
      foldlM_held held, Option.bind_eq_bind, Option.bind_some, List.foldlM_cons, closed]
    rfl

/-- Rows without words side by side are scanned as they are written. -/
theorem exists_foldlM_of_row (row : Row lexemes runes) (apart : Apart lexemes) {scan : Scan}
    {before : List Lexeme} (settled : scan.settled? = some before)
    (clear : scan.place = .between ∨ ∀ l ∈ lexemes.head?, l.isWord = false) :
    ∃ after, runes.foldlM nextRune? scan = some after ∧
      after.settled? = some (lexemes.reverse ++ before) := by
  induction row generalizing scan before with
  | nil => exact ⟨scan, rfl, settled⟩
  | @blank c _ _ isBlank _ ih =>
    obtain ⟨noWord, stands⟩ := mark?_of_blank isBlank before
    have step : scan.nextRune? (some c) = some ⟨before, .between⟩ :=
      (next?_of_settled settled noWord).trans stands
    have behind : settled? ⟨before, .between⟩ = some before := rfl
    obtain ⟨after, read, ends⟩ := ih apart behind (.inl rfl)
    refine ⟨after, ?_, ends⟩
    rw [List.foldlM_cons, step, Option.bind_eq_bind, Option.bind_some, read]
  | @cons lexeme lexemes text runes first _ ih =>
    obtain ⟨next, stands, ends, behind⟩ := exists_foldlM_of_written first settled
      (clear.imp_right fun noWord => noWord lexeme rfl)
    have later : next.place = .between ∨ ∀ l ∈ lexemes.head?, l.isWord = false := by
      refine behind.imp_right fun isWord l isNext => ?_
      exact Bool.eq_false_iff.2 fun both => apart.rel_head? isNext ⟨isWord, both⟩
    obtain ⟨after, read, ended⟩ := ih apart.tail ends later
    refine ⟨after, ?_, ?_⟩
    · rw [List.foldlM_append, stands, Option.bind_eq_bind, Option.bind_some, read]
    · rw [ended, List.reverse_cons, List.append_assoc, List.singleton_append]

end Scan

namespace Lexeme

variable {runes : List (Option Char)} {lexemes : List Lexeme}

/-- What a scan finds is written there. -/
theorem row_of_scan? (read : scan? runes = some lexemes) : Row lexemes runes := by
  obtain ⟨scan, gathers, ends⟩ := Option.bind_eq_some_iff.1 read
  have start : Scan.Past .start [] := .between .nil
  exact (start.foldlM gathers).row ends

/-- A scan finds the row that is written, where no words stand side by side in it. -/
theorem scan?_of_row (row : Row lexemes runes) (apart : Apart lexemes) :
    scan? runes = some lexemes := by
  have settled : Scan.start.settled? = some [] := rfl
  obtain ⟨scan, read, ends⟩ := Scan.exists_foldlM_of_row row apart settled (.inl rfl)
  rw [scan?, read, Option.bind_eq_bind, Option.bind_some, Scan.finish?_eq, ends]
  simp

end Lexeme

end SchemaLedger
