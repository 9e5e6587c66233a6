import Mathlib.Data.List.TakeWhile
import Mathlib.Data.Option.Basic
import SchemaLedger.Json.Lexeme

namespace SchemaLedger

/-- The number that is read from the text of a number is that number. -/
def Number.ReadsBack (number : Number) : Prop :=
  (Numeral.ofWord? (number.render .plain).toList).bind Numeral.number? = some number

instance (number : Number) : Decidable number.ReadsBack := inferInstanceAs (Decidable (_ = _))

theorem isWordCharacter_of_isDigit {c : Char} (digit : c.isDigit = true) :
    isWordCharacter c = true := by
  simp [isWordCharacter, Char.isAlphanum, digit]

namespace Numeral

theorem exponent?_characters {power : List Char} {exponent : Bool × List Char}
    (read : exponent? power = some exponent) : ∀ c ∈ power, isWordCharacter c = true := by
  have fromDigits {digits : List Char} {negative : Bool}
      (read : (if digits ≠ [] ∧ digits.all Char.isDigit then some (negative, digits) else none) =
        some exponent) : ∀ c ∈ digits, isWordCharacter c = true := by
    intro c member
    split at read
    · rename_i digits
      exact isWordCharacter_of_isDigit (List.all_eq_true.1 digits.2 c member)
    · cases read
  unfold exponent? at read
  split at read
  · exact List.forall_mem_cons.2 ⟨by decide, fromDigits read⟩
  · exact List.forall_mem_cons.2 ⟨by decide, fromDigits read⟩
  · exact fromDigits read

/-- An exponent behind its mark. -/
theorem marked_characters {mark : Char} {power : List Char} {exponent : Bool × List Char}
    (isMark : mark = 'e' ∨ mark = 'E') (read : exponent? power = some exponent) :
    ∀ c ∈ mark :: power, isWordCharacter c = true := by
  refine List.forall_mem_cons.2 ⟨?_, exponent?_characters read⟩
  rcases isMark with rfl | rfl <;> decide

theorem takeWhile_characters {word : List Char} :
    ∀ c ∈ word.takeWhile Char.isDigit, isWordCharacter c = true := fun _ member =>
  isWordCharacter_of_isDigit (List.mem_takeWhile_imp member)

theorem tail?_characters {rest : List Char} {tail : Option (List Char) × Option (Bool × List Char)}
    (read : tail? rest = some tail) : ∀ c ∈ rest, isWordCharacter c = true := by
  unfold tail? at read
  split at read
  · simp
  · rename_i fraction
    dsimp only at read
    split at read
    · cases read
    · intro c member
      rcases List.mem_cons.1 member with rfl | later
      · decide
      · have parts : fraction.takeWhile Char.isDigit ++ fraction.dropWhile Char.isDigit =
          fraction := List.takeWhile_append_dropWhile
        rw [← parts] at later
        rcases List.mem_append.1 later with digit | behind
        · exact takeWhile_characters c digit
        · split at read
          · rename_i ends
            rw [ends] at behind
            cases behind
          · rename_i mark power shape
            split at read
            · rename_i isMark
              obtain ⟨exponent, read, _⟩ := Option.map_eq_some_iff.1 read
              rw [shape] at behind
              exact marked_characters isMark read c behind
            · cases read
  · split at read
    · rename_i isMark
      obtain ⟨exponent, read, _⟩ := Option.map_eq_some_iff.1 read
      exact marked_characters isMark read
    · cases read

theorem unsigned?_characters {negative : Bool} {word : List Char} {numeral : Numeral}
    (read : unsigned? negative word = some numeral) :
    (∃ c rest, word = c :: rest ∧ c.isDigit = true) ∧ ∀ c ∈ word, isWordCharacter c = true := by
  unfold unsigned? at read
  dsimp only at read
  split at read
  · cases read
  · rename_i shape
    obtain ⟨tail, read, _⟩ := Option.map_eq_some_iff.1 read
    constructor
    · cases word with
      | nil => simp at shape
      | cons c rest =>
        refine ⟨c, rest, rfl, ?_⟩
        cases digit : c.isDigit with
        | true => rfl
        | false => simp [digit] at shape
    · intro c member
      have parts : word.takeWhile Char.isDigit ++ word.dropWhile Char.isDigit = word :=
        List.takeWhile_append_dropWhile
      rw [← parts] at member
      rcases List.mem_append.1 member with digit | behind
      · exact takeWhile_characters c digit
      · exact tail?_characters read c behind

/-- A numeral is one word, and it begins with a sign or a digit. -/
theorem ofWord?_characters {word : List Char} {numeral : Numeral}
    (read : ofWord? word = some numeral) :
    (∃ c rest, word = c :: rest ∧ (c = '-' ∨ c.isDigit = true)) ∧
      ∀ c ∈ word, isWordCharacter c = true := by
  unfold ofWord? at read
  split at read
  · rename_i rest
    exact ⟨⟨'-', rest, rfl, .inl rfl⟩,
      List.forall_mem_cons.2 ⟨by decide, (unsigned?_characters read).2⟩⟩
  · obtain ⟨⟨c, rest, shape, digit⟩, characters⟩ := unsigned?_characters read
    exact ⟨⟨c, rest, shape, .inr digit⟩, characters⟩

end Numeral

/-- A numeral is none of the three words that stand for themselves. -/
theorem Lexeme.ofWord?_of_numeral {word : List Char} {numeral : Numeral}
    (read : Numeral.ofWord? word = some numeral) : Lexeme.ofWord? word = some (.number numeral) := by
  obtain ⟨⟨c, rest, shape, front⟩, _⟩ := Numeral.ofWord?_characters read
  have notLetter : c ≠ 'n' ∧ c ≠ 't' ∧ c ≠ 'f' := by
    refine ⟨?_, ?_, ?_⟩ <;> rintro rfl <;> revert front <;> decide
  rw [Lexeme.ofWord?, read]
  simp [shape, notLetter]

theorem head?_toDigits_ne_zero {n : Nat} (positive : 0 < n) :
    (Nat.toDigits 10 n).head? ≠ some '0' := by
  induction n using Nat.strongRecOn with
  | _ n ih =>
    by_cases small : n < 10
    · have all : ∀ d < 10, 0 < d → Nat.digitChar d ≠ '0' := by decide
      simpa [Nat.toDigits_of_lt_base small] using all n small positive
    · have front := ih (n / 10) (by omega) (by omega)
      obtain ⟨c, rest, shape⟩ := List.exists_cons_of_ne_nil (@Nat.toDigits_ne_nil (n / 10) 10)
      rw [shape, List.head?_cons] at front
      rw [Nat.toDigits_of_base_le (by decide) (by omega), shape, List.cons_append, List.head?_cons]
      exact front

theorem decimalNumber_toDigits (n : Nat) : decimalNumber (Nat.toDigits 10 n) = n := by
  have same := @Nat.ofDigitChars_ten_toDigits n
  rw [Nat.ofDigitChars_eq_foldl] at same
  simpa [decimalNumber, Nat.mul_comm] using same

/-- The digits of a number are a numeral, for there is no zero in front of them. -/
theorem Numeral.unsigned?_toDigits (negative : Bool) (n : Nat) :
    unsigned? negative (Nat.toDigits 10 n) = some ⟨negative, Nat.toDigits 10 n, none, none⟩ := by
  have digits : ∀ c ∈ Nat.toDigits 10 n, c.isDigit = true := fun c member =>
    Nat.isDigit_of_mem_toDigits (by decide) (by decide) member
  have whole : (Nat.toDigits 10 n).takeWhile Char.isDigit = Nat.toDigits 10 n :=
    List.takeWhile_eq_self_iff.2 digits
  have nothing : (Nat.toDigits 10 n).dropWhile Char.isDigit = [] :=
    List.dropWhile_eq_nil_iff.2 digits
  have plain : ¬(Nat.toDigits 10 n = [] ∨
      ((Nat.toDigits 10 n).head? = some '0' ∧ (Nat.toDigits 10 n).length ≠ 1)) := by
    rintro (none | ⟨zero, several⟩)
    · exact Nat.toDigits_ne_nil none
    · rcases Nat.eq_zero_or_pos n with rfl | positive
      · simp at several
      · exact head?_toDigits_ne_zero positive zero
  simp only [unsigned?, whole, nothing, if_neg plain, tail?, Option.map_some]

theorem Numeral.ofWord?_of_isDigit {c : Char} {rest : List Char} (digit : c.isDigit = true) :
    ofWord? (c :: rest) = unsigned? false (c :: rest) := by
  rw [ofWord?]
  intro _ signed
  cases signed
  revert digit
  decide

/-- Digits without a fraction and an exponent denote an integer. -/
theorem Numeral.number?_whole {negative : Bool} {n : Nat} {value : Int}
    (least : -9223372036854775808 ≤ value) (greatest : value < 18446744073709551616)
    (isValue : (if negative then -(n : Int) else n) = value) (notMinusZero : ¬(negative ∧ n = 0)) :
    number? ⟨negative, Nat.toDigits 10 n, none, none⟩ = some (.integer value least greatest) := by
  have inRange : Number.ofInt? value = some (.integer value least greatest) := by
    rw [Number.ofInt?, dif_pos ⟨least, greatest⟩]
  simp only [number?, and_self, guard, if_true, Option.pure_def, Option.bind_eq_bind,
    Option.bind_some, decimalNumber_toDigits, notMinusZero, not_false_eq_true, isValue, inRange]
  rfl

/-- Integers always read back; only doubles depend on how they are written. -/
theorem Number.readsBack_integer {value : Int} (least : -9223372036854775808 ≤ value)
    (greatest : value < 18446744073709551616) : (integer value least greatest).ReadsBack := by
  by_cases negative : value < 0
  · have read : Numeral.ofWord? ('-' :: Nat.toDigits 10 value.natAbs) =
        some ⟨true, Nat.toDigits 10 value.natAbs, none, none⟩ :=
      Numeral.unsigned?_toDigits true value.natAbs
    have text : ((integer value least greatest).render .plain).toList =
        '-' :: Nat.toDigits 10 value.natAbs := by
      simp [render, negative]
    have isValue : (if true then -(value.natAbs : Int) else value.natAbs) = value := by
      rw [if_pos rfl, Int.ofNat_natAbs_of_nonpos (Int.le_of_lt negative), Int.neg_neg]
    rw [ReadsBack, text, read, Option.bind_some]
    exact Numeral.number?_whole least greatest isValue (by omega)
  · have read : Numeral.ofWord? (Nat.toDigits 10 value.natAbs) =
        some ⟨false, Nat.toDigits 10 value.natAbs, none, none⟩ := by
      obtain ⟨c, rest, shape⟩ := List.exists_cons_of_ne_nil (@Nat.toDigits_ne_nil value.natAbs 10)
      have digit : c.isDigit = true :=
        Nat.isDigit_of_mem_toDigits (by decide) (by decide) (shape ▸ List.mem_cons_self)
      rw [shape, Numeral.ofWord?_of_isDigit digit, ← shape, Numeral.unsigned?_toDigits]
    have text : ((integer value least greatest).render .plain).toList =
        Nat.toDigits 10 value.natAbs := by
      simp [render, negative]
    have isValue : (if false then -(value.natAbs : Int) else value.natAbs) = value := by
      rw [if_neg Bool.false_ne_true, Int.natAbs_of_nonneg (Int.not_lt.1 negative)]
    rw [ReadsBack, text, read, Option.bind_some]
    exact Numeral.number?_whole least greatest isValue (by simp)

end SchemaLedger
