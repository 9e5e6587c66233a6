import Mathlib.Data.Option.Basic
import SchemaLedger.Json.Quoted

namespace SchemaLedger

namespace Hex

/-- A digit is written in either case. -/
def Writes (c : Char) (digit : Nat) : Prop :=
  c = Nat.digitChar digit ∨ c = (Nat.digitChar digit).toUpper

theorem Writes.value? {c : Char} {digit : Nat} (writes : Writes c digit) (bound : digit < 16) :
    Hex.value? c = some digit := by
  have all : ∀ d < 16, Hex.value? (Nat.digitChar d) = some d ∧
      Hex.value? (Nat.digitChar d).toUpper = some d := by decide
  rcases writes with rfl | rfl
  · exact (all digit bound).1
  · exact (all digit bound).2

theorem writes_of_value? {c : Char} {digit : Nat} (read : Hex.value? c = some digit) :
    Writes c digit ∧ digit < 16 := by
  have decimal : ∀ n < 58, 48 ≤ n → Char.ofNat n = Nat.digitChar (n - 48) := by decide
  have lower : ∀ n < 103, 97 ≤ n → Char.ofNat n = Nat.digitChar (n - 97 + 10) := by decide
  have upper : ∀ n < 71, 65 ≤ n → Char.ofNat n = (Nat.digitChar (n - 65 + 10)).toUpper := by decide
  have number : c = Char.ofNat c.toNat := (Char.ofNat_toNat c).symm
  rw [Hex.value?] at read
  split at read
  · rename_i range
    obtain ⟨low, high⟩ : 48 ≤ c.toNat ∧ c.toNat ≤ 57 := range
    cases read
    exact ⟨.inl (number.trans (decimal _ (Nat.lt_succ_of_le high) low)),
      Nat.lt_of_le_of_lt (Nat.sub_le_sub_right high 48) (by decide)⟩
  · split at read
    · rename_i range
      obtain ⟨low, high⟩ : 97 ≤ c.toNat ∧ c.toNat ≤ 102 := range
      cases read
      exact ⟨.inl (number.trans (lower _ (Nat.lt_succ_of_le high) low)),
        Nat.lt_of_le_of_lt (Nat.add_le_add_right (Nat.sub_le_sub_right high 97) 10) (by decide)⟩
    · split at read
      · rename_i range
        obtain ⟨low, high⟩ : 65 ≤ c.toNat ∧ c.toNat ≤ 70 := range
        cases read
        exact ⟨.inr (number.trans (upper _ (Nat.lt_succ_of_le high) low)),
          Nat.lt_of_le_of_lt (Nat.add_le_add_right (Nat.sub_le_sub_right high 65) 10) (by decide)⟩
      · cases read

end Hex

namespace Quoted

/-- The four digits of a unit of 16 bits. -/
inductive UnitText (value : Nat) : List Char → Prop
  | intro {a b c d : Char} (first : Hex.Writes a (value / 4096))
    (second : Hex.Writes b (value / 256 % 16)) (third : Hex.Writes c (value / 16 % 16))
    (fourth : Hex.Writes d (value % 16)) : UnitText value [a, b, c, d]

/-- The characters that have an escape of one letter, each behind its letter. -/
def shortEscapes : List (Char × Char) :=
  [('"', '"'), ('\\', '\\'), ('/', '/'), ('b', '\x08'), ('f', '\x0C'), ('n', '\n'), ('r', '\r'),
    ('t', '\t')]

/-- The ways to write a character: as it is, as a letter behind a backslash, as a unit of 16 bits,
or beyond those as a pair of surrogates. -/
inductive CharacterText : Char → List Char → Prop
  | plain {c : Char} (noQuote : c ≠ '"') (unmarked : c ≠ '\\') (printed : 0x20 ≤ c.toNat) :
    CharacterText c [c]
  | short {c letter : Char} (known : (letter, c) ∈ shortEscapes) : CharacterText c ['\\', letter]
  | unit {c : Char} {digits : List Char} (small : c.toNat < 0x10000)
    (isUnit : UnitText c.toNat digits) : CharacterText c ('\\' :: 'u' :: digits)
  | pair {c : Char} {high low : List Char} (large : 0x10000 ≤ c.toNat)
    (isHigh : UnitText (0xD800 + (c.toNat - 0x10000) / 0x400) high)
    (isLow : UnitText (0xDC00 + (c.toNat - 0x10000) % 0x400) low) :
    CharacterText c ('\\' :: 'u' :: (high ++ '\\' :: 'u' :: low))

/-- The ways to write a row of characters, each in its own way. -/
inductive Spelt : List Char → Quoted → Prop
  | nil : Spelt [] []
  | cons {c : Char} {rest front text : List Char} (first : CharacterText c front)
    (later : Spelt rest text) : Spelt (c :: rest) (front ++ text)

/-- What may stand between quotes, and how it is held: characters as they are, escapes, and bytes
that spell no character. -/
inductive Held : Quoted → List (Option Char) → Prop
  | nil : Held [] []
  | plain {c : Char} {quoted : Quoted} {runes : List (Option Char)} (noQuote : c ≠ '"')
    (unmarked : c ≠ '\\') (printed : 0x20 ≤ c.toNat) (later : Held quoted runes) :
    Held (c :: quoted) (some c :: runes)
  | gap {quoted : Quoted} {runes : List (Option Char)} (later : Held quoted runes) :
    Held (gap :: quoted) (none :: runes)
  | short {letter : Char} {quoted : Quoted} {runes : List (Option Char)}
    (known : letter ∈ shortEscapes.map (·.1)) (later : Held quoted runes) :
    Held ('\\' :: letter :: quoted) (some '\\' :: some letter :: runes)
  | unit {digits : List Char} {quoted : Quoted} {runes : List (Option Char)}
    (four : digits.length = 4) (hex : ∀ d ∈ digits, (Hex.value? d).isSome)
    (later : Held quoted runes) :
    Held ('\\' :: 'u' :: (digits ++ quoted)) (some '\\' :: some 'u' :: (digits.map some ++ runes))

variable {c : Char} {text : List Char}

theorem UnitText.number? {value : Nat} {digits : List Char} (isUnit : UnitText value digits)
    (bound : value < 0x10000) : Hex.number? digits = some value := by
  obtain ⟨first, second, third, fourth⟩ := isUnit
  have a := first.value? (by omega)
  have b := second.value? (by omega)
  have c := third.value? (by omega)
  have d := fourth.value? (by omega)
  simp only [Hex.number?, List.foldlM_cons, List.foldlM_nil, a, b, c, d, Option.map_some,
    Option.bind_eq_bind, Option.bind_some, Option.pure_def, Option.some.injEq]
  omega

theorem shortEscape?_of_mem {letter : Char} (known : (letter, c) ∈ shortEscapes) :
    shortEscape? letter = some c ∧ letter ≠ 'u' := by
  have all : ∀ p ∈ shortEscapes, shortEscape? p.1 = some p.2 ∧ p.1 ≠ 'u' := by decide
  exact all _ known

theorem pieces?_short {letter : Char} (known : (letter, c) ∈ shortEscapes) (rest : Quoted) :
    pieces? ('\\' :: letter :: rest) = (pieces? rest).map (.plain c :: ·) := by
  obtain ⟨isShort, notDigits⟩ := shortEscape?_of_mem known
  rw [pieces?]
  · simp only [isShort, Option.bind_eq_bind, Option.bind_some]
    cases pieces? rest <;> rfl
  · rintro _ _ _ _ _ rfl
    exact absurd rfl notDigits

theorem pieces?_unit {value : Nat} {digits : List Char} (isUnit : UnitText value digits)
    (bound : value < 0x10000) (rest : Quoted) :
    pieces? ('\\' :: 'u' :: (digits ++ rest)) = (pieces? rest).map (.unit value :: ·) := by
  have number := isUnit.number? bound
  obtain ⟨_, _, _, _⟩ := isUnit
  simp only [List.cons_append, List.nil_append]
  rw [pieces?]
  simp only [number, Option.bind_eq_bind, Option.bind_some]
  cases pieces? rest <;> rfl

theorem pieces?_plain (noQuote : c ≠ '"') (unmarked : c ≠ '\\') (printed : 0x20 ≤ c.toNat)
    (rest : Quoted) : pieces? (c :: rest) = (pieces? rest).map (.plain c :: ·) := by
  rw [pieces?]
  · simp only [guard, if_pos (And.intro noQuote (And.intro unmarked printed)),
      Option.bind_eq_bind, Option.bind_some, Option.pure_def]
    cases pieces? rest <;> rfl
  · rintro _ _ _ _ _ rfl
    exact absurd rfl unmarked
  · rintro _ _ rfl
    exact absurd rfl unmarked

/-- A unit that is no surrogate stands for itself, whatever follows it. -/
theorem join?_unit {value : Nat} (single : value < 0xD800 ∨ 0xE000 ≤ value) (rest : List Piece) :
    join? (.unit value :: rest) = (join? rest).map (Char.ofNat value :: ·) := by
  have notHigh : ¬(0xD800 ≤ value ∧ value < 0xDC00) := by omega
  have notLow : ¬(0xDC00 ≤ value ∧ value < 0xE000) := by omega
  have neither : ¬(0xD800 ≤ value ∧ value < 0xE000) := by omega
  cases rest with
  | nil => simp [join?, neither]
  | cons head rest =>
    cases head with
    | plain c => simp [join?, neither]
    | unit next => rw [join?, if_neg notHigh, if_neg notLow]

/-- No character is a surrogate. -/
theorem toNat_range (c : Char) :
    c.toNat < 0xD800 ∨ (0xE000 ≤ c.toNat ∧ c.toNat < 0x110000) := c.valid

/-- A pair of surrogates stands for one character. -/
theorem join?_pair (large : 0x10000 ≤ c.toNat) (rest : List Piece) :
    join? (.unit (0xD800 + (c.toNat - 0x10000) / 0x400) ::
      .unit (0xDC00 + (c.toNat - 0x10000) % 0x400) :: rest) = (join? rest).map (c :: ·) := by
  have range := toNat_range c
  have high : 0xD800 ≤ 0xD800 + (c.toNat - 0x10000) / 0x400 ∧
      0xD800 + (c.toNat - 0x10000) / 0x400 < 0xDC00 := by omega
  have low : 0xDC00 ≤ 0xDC00 + (c.toNat - 0x10000) % 0x400 ∧
      0xDC00 + (c.toNat - 0x10000) % 0x400 < 0xE000 := by omega
  have whole : 0x10000 + (0xD800 + (c.toNat - 0x10000) / 0x400 - 0xD800) * 0x400 +
      (0xDC00 + (c.toNat - 0x10000) % 0x400 - 0xDC00) = c.toNat := by omega
  rw [join?, if_pos high, if_pos low, whole, Char.ofNat_toNat]

/-- Reading takes back a written character and leaves the rest to be read. -/
theorem CharacterText.reads (isText : CharacterText c text) : ∃ front : List Piece,
    (∀ rest, pieces? (text ++ rest) = (pieces? rest).map (front ++ ·)) ∧
      ∀ pieces, join? (front ++ pieces) = (join? pieces).map (c :: ·) := by
  cases isText with
  | plain noQuote unmarked printed =>
    exact ⟨[.plain c], pieces?_plain noQuote unmarked printed,
      fun pieces => by rw [List.singleton_append, join?]⟩
  | short known =>
    exact ⟨[.plain c], pieces?_short known, fun pieces => by rw [List.singleton_append, join?]⟩
  | unit small isUnit =>
    refine ⟨[.unit c.toNat], pieces?_unit isUnit small, fun pieces => ?_⟩
    rw [List.singleton_append, join?_unit ((toNat_range c).imp_right And.left), Char.ofNat_toNat]
  | pair large isHigh isLow =>
    have range := toNat_range c
    refine ⟨[.unit _, .unit _], fun rest => ?_, join?_pair large⟩
    rw [List.cons_append, List.cons_append, List.append_assoc, List.cons_append, List.cons_append,
      pieces?_unit isHigh (by omega), pieces?_unit isLow (by omega), Option.map_map]
    rfl

theorem Held.append {quoted later : Quoted} {runes behind : List (Option Char)}
    (first : quoted.Held runes) (second : later.Held behind) :
    Held (quoted ++ later) (runes ++ behind) := by
  induction first with
  | nil => exact second
  | plain noQuote unmarked printed _ ih => exact .plain noQuote unmarked printed ih
  | gap _ ih => exact .gap ih
  | short known _ ih => exact .short known ih
  | unit four hex _ ih =>
    have whole := Held.unit four hex ih
    rwa [← List.append_assoc, ← List.append_assoc] at whole

theorem UnitText.held {value : Nat} {digits : List Char} (isUnit : UnitText value digits)
    (bound : value < 0x10000) : Held ('\\' :: 'u' :: digits) (('\\' :: 'u' :: digits).map some) := by
  have number := isUnit.number? bound
  obtain ⟨first, second, third, fourth⟩ := isUnit
  refine @Held.unit [_, _, _, _] [] [] rfl ?_ .nil
  simp [first.value? (by omega), second.value? (by omega), third.value? (by omega),
    fourth.value? (by omega)]

/-- Whatever spells a text may stand between quotes. -/
theorem Spelt.held {characters : List Char} (spelt : Spelt characters text) :
    Held text (text.map some) := by
  induction spelt with
  | nil => exact .nil
  | @cons c _ _ _ first _ ih =>
    rw [List.map_append]
    refine Held.append ?_ ih
    cases first with
    | plain noQuote unmarked printed => exact .plain noQuote unmarked printed .nil
    | short known => exact .short (List.mem_map_of_mem known) .nil
    | unit small isUnit => exact isUnit.held small
    | pair large isHigh isLow =>
      have range := toNat_range c
      have whole := (isHigh.held (by omega)).append (isLow.held (by omega))
      simpa using whole

/-- However a text is written, it is read. -/
theorem Spelt.text? {characters : List Char} (spelt : Spelt characters text) :
    text? text = some (String.ofList characters) := by
  have reads : ∃ pieces, pieces? text = some pieces ∧ join? pieces = some characters := by
    induction spelt with
    | nil => exact ⟨[], rfl, rfl⟩
    | cons first _ ih =>
      obtain ⟨pieces, read, joined⟩ := ih
      obtain ⟨front, takes, stands⟩ := first.reads
      refine ⟨front ++ pieces, ?_, ?_⟩
      · rw [takes, read, Option.map_some]
      · rw [stands, joined, Option.map_some]
  obtain ⟨pieces, read, joined⟩ := reads
  simp only [Quoted.text?, read, joined, Option.bind_eq_bind, Option.bind_some, Option.pure_def]

/-- The ways to write a piece. -/
inductive PieceText : Piece → List Char → Prop
  | plain {c : Char} (noQuote : c ≠ '"') (unmarked : c ≠ '\\') (printed : 0x20 ≤ c.toNat) :
    PieceText (.plain c) [c]
  | short {c letter : Char} (known : (letter, c) ∈ shortEscapes) :
    PieceText (.plain c) ['\\', letter]
  | unit {value : Nat} {digits : List Char} (bound : value < 0x10000)
    (isUnit : UnitText value digits) : PieceText (.unit value) ('\\' :: 'u' :: digits)

inductive PieceRow : List Piece → Quoted → Prop
  | nil : PieceRow [] []
  | cons {piece : Piece} {pieces : List Piece} {front rest : List Char}
    (first : PieceText piece front) (later : PieceRow pieces rest) :
    PieceRow (piece :: pieces) (front ++ rest)

theorem unitText_of_number? {a b c d : Char} {value : Nat}
    (read : Hex.number? [a, b, c, d] = some value) :
    value < 0x10000 ∧ UnitText value [a, b, c, d] := by
  simp only [Hex.number?, List.foldlM_cons, List.foldlM_nil, Option.bind_eq_bind,
    Option.bind_eq_some_iff, Option.map_eq_some_iff, Option.pure_def, Option.some.injEq] at read
  obtain ⟨_, ⟨first, isFirst, rfl⟩, _, ⟨second, isSecond, rfl⟩, _, ⟨third, isThird, rfl⟩, _,
    ⟨fourth, isFourth, rfl⟩, rfl⟩ := read
  obtain ⟨writesFirst, boundFirst⟩ := Hex.writes_of_value? isFirst
  obtain ⟨writesSecond, boundSecond⟩ := Hex.writes_of_value? isSecond
  obtain ⟨writesThird, boundThird⟩ := Hex.writes_of_value? isThird
  obtain ⟨writesFourth, boundFourth⟩ := Hex.writes_of_value? isFourth
  generalize whole : (((0 * 16 + first) * 16 + second) * 16 + third) * 16 + fourth = value
  have isFirst : value / 4096 = first := by omega
  have isSecond : value / 256 % 16 = second := by omega
  have isThird : value / 16 % 16 = third := by omega
  have isFourth : value % 16 = fourth := by omega
  refine ⟨by omega, .intro ?_ ?_ ?_ ?_⟩
  · rwa [isFirst]
  · rwa [isSecond]
  · rwa [isThird]
  · rwa [isFourth]

theorem mem_shortEscapes {letter c : Char} (read : shortEscape? letter = some c) :
    (letter, c) ∈ shortEscapes := by
  unfold shortEscape? at read
  split at read
  all_goals first | (cases Option.some.inj read; decide) | cases read

theorem pieceRow_of_pieces? {quoted : Quoted} {pieces : List Piece}
    (read : pieces? quoted = some pieces) : PieceRow pieces quoted := by
  fun_induction pieces? quoted generalizing pieces with
  | case1 =>
    cases read
    exact .nil
  | case2 a b c d rest ih =>
    obtain ⟨value, digits, read⟩ := Option.bind_eq_some_iff.1 read
    obtain ⟨others, later, read⟩ := Option.bind_eq_some_iff.1 read
    cases read
    obtain ⟨bound, isUnit⟩ := unitText_of_number? digits
    exact .cons (.unit bound isUnit) (ih later)
  | case3 letter rest _ ih =>
    obtain ⟨c, known, read⟩ := Option.bind_eq_some_iff.1 read
    obtain ⟨others, later, read⟩ := Option.bind_eq_some_iff.1 read
    cases read
    exact .cons (.short (mem_shortEscapes known)) (ih later)
  | case4 c rest _ _ ih =>
    obtain ⟨_, stands, read⟩ := Option.bind_eq_some_iff.1 read
    obtain ⟨others, later, read⟩ := Option.bind_eq_some_iff.1 read
    cases read
    obtain ⟨noQuote, unmarked, printed⟩ := (Option.guard_eq_some' _).1 stands
    exact .cons (.plain noQuote unmarked printed) (ih later)

theorem toNat_ofNat {value : Nat} (valid : value.isValidChar) :
    (Char.ofNat value).toNat = value := by
  rw [Char.ofNat, dif_pos valid]
  rfl

theorem spelt_of_join? {pieces : List Piece} {quoted : Quoted} {characters : List Char}
    (row : PieceRow pieces quoted) (joined : join? pieces = some characters) :
    Spelt characters quoted := by
  fun_induction join? pieces generalizing quoted characters with
  | case1 =>
    cases joined
    cases row
    exact .nil
  | case2 high low rest isHigh isLow ih =>
    obtain ⟨others, later, rfl⟩ := Option.map_eq_some_iff.1 joined
    cases row with | cons first row =>
    cases row with | cons second row =>
    cases first with | unit _ first =>
    cases second with | unit _ second =>
    have isNat := @toNat_ofNat (0x10000 + (high - 0xD800) * 0x400 + (low - 0xDC00))
      (.inr (by omega))
    rw [← List.append_assoc]
    refine .cons (.pair (by omega) ?_ ?_) (ih row later)
    · have isHigh : 0xD800 + (0x10000 + (high - 0xD800) * 0x400 + (low - 0xDC00) - 0x10000) / 0x400 =
        high := by omega
      rwa [isNat, isHigh]
    · have isLow : 0xDC00 + (0x10000 + (high - 0xD800) * 0x400 + (low - 0xDC00) - 0x10000) % 0x400 =
        low := by omega
      rwa [isNat, isLow]
  | case3 => cases joined
  | case4 => cases joined
  | case5 value low rest notHigh notLow ih =>
    obtain ⟨others, later, rfl⟩ := Option.map_eq_some_iff.1 joined
    cases row with | cons first row =>
    cases first with | unit bound isUnit =>
    have isNat := @toNat_ofNat value (by unfold Nat.isValidChar; omega)
    exact .cons (.unit (by rwa [isNat]) (by rwa [isNat])) (ih row later)
  | case6 => cases joined
  | case7 value rest _ single ih =>
    obtain ⟨others, later, rfl⟩ := Option.map_eq_some_iff.1 joined
    cases row with | cons first row =>
    cases first with | unit bound isUnit =>
    have isNat := @toNat_ofNat value (by unfold Nat.isValidChar; omega)
    exact .cons (.unit (by rwa [isNat]) (by rwa [isNat])) (ih row later)
  | case8 c rest ih =>
    obtain ⟨others, later, rfl⟩ := Option.map_eq_some_iff.1 joined
    cases row with | cons first row =>
    refine .cons ?_ (ih row later)
    cases first with
    | plain noQuote unmarked printed => exact .plain noQuote unmarked printed
    | short known => exact .short known

/-- A text is read from what spells it and from nothing else. -/
theorem text?_eq_some_iff {quoted : Quoted} {text : String} :
    text? quoted = some text ↔ Spelt text.toList quoted := by
  constructor
  · intro read
    obtain ⟨pieces, isRow, read⟩ := Option.bind_eq_some_iff.1 read
    obtain ⟨characters, joined, read⟩ := Option.bind_eq_some_iff.1 read
    cases read
    rw [String.toList_ofList]
    exact spelt_of_join? (pieceRow_of_pieces? isRow) joined
  · intro spelt
    rw [spelt.text?, String.ofList_toList]

instance (text : String) (quoted : Quoted) : Decidable (Spelt text.toList quoted) :=
  decidable_of_iff _ text?_eq_some_iff

/-- A rendered character is written in one of the ways. -/
theorem characterText_escape (c : Char) : CharacterText c (escape c) := by
  unfold escape
  split
  · exact .short (by decide)
  · exact .short (by decide)
  · exact .short (by decide)
  · exact .short (by decide)
  · exact .short (by decide)
  · exact .short (by decide)
  · exact .short (by decide)
  · rename_i noQuote unmarked _ _ _ _ _
    split
    · rename_i control
      have first : c.toNat / 4096 = 0 := by omega
      have second : c.toNat / 256 % 16 = 0 := by omega
      have third : c.toNat / 16 % 16 = c.toNat / 16 := by omega
      refine .unit (by omega) (.intro ?_ ?_ ?_ (.inl rfl))
      · rw [first]
        exact .inl rfl
      · rw [second]
        exact .inl rfl
      · rw [third]
        exact .inl rfl
    · rename_i printed
      exact .plain noQuote unmarked (Nat.le_of_not_lt printed)

theorem spelt_ofText (text : String) : Spelt text.toList (ofText text) := by
  rw [ofText]
  induction text.toList with
  | nil => exact .nil
  | cons c rest ih => exact .cons (characterText_escape c) ih

/-- Every text reads back from between its quotes. -/
@[simp]
theorem text?_ofText (text : String) : Quoted.text? (ofText text) = some text := by
  rw [(spelt_ofText text).text?, String.ofList_toList]

end Quoted

end SchemaLedger
