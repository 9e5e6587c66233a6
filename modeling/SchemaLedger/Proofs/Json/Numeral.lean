import SchemaLedger.Proofs.Decimal.Shortest
import SchemaLedger.Proofs.Json.Number

namespace SchemaLedger

def IsDigits (digits : List Char) : Prop :=
  digits ≠ [] ∧ ∀ c ∈ digits, c.isDigit = true

instance (digits : List Char) : Decidable (IsDigits digits) :=
  have : Decidable (∀ c ∈ digits, c.isDigit = true) := List.decidableBAll _ _
  inferInstanceAs (Decidable (_ ∧ _))

theorem IsDigits.take {digits : List Char} {n : Nat} (isDigits : IsDigits digits) (some : 0 < n) :
    IsDigits (digits.take n) :=
  ⟨by simp [isDigits.1, Nat.ne_of_gt some], fun c member => isDigits.2 c (List.mem_of_mem_take member)⟩

theorem IsDigits.drop {digits : List Char} {n : Nat} (isDigits : IsDigits digits)
    (left : n < digits.length) : IsDigits (digits.drop n) :=
  ⟨by simpa using left, fun c member => isDigits.2 c (List.mem_of_mem_drop member)⟩

theorem isDigits_toDigits (n : Nat) : IsDigits (Nat.toDigits 10 n) :=
  ⟨Nat.toDigits_ne_nil, fun _ => Nat.isDigit_of_mem_toDigits (by decide) (by decide)⟩

namespace Numeral

def signText (negative : Bool) : List Char :=
  if negative then ['-'] else []

/-- A point and the digits behind it, when there are any. -/
def fractionText : Option (List Char) → List Char
  | none => []
  | some digits => '.' :: digits

/-- The ways to write an exponent. -/
inductive ExponentText : Option (Bool × List Char) → List Char → Prop
  | absent : ExponentText none []
  | unsigned {mark : Char} {digits : List Char} (isMark : mark = 'e' ∨ mark = 'E')
    (isDigits : IsDigits digits) : ExponentText (some (false, digits)) (mark :: digits)
  | plus {mark : Char} {digits : List Char} (isMark : mark = 'e' ∨ mark = 'E')
    (isDigits : IsDigits digits) : ExponentText (some (false, digits)) (mark :: '+' :: digits)
  | minus {mark : Char} {digits : List Char} (isMark : mark = 'e' ∨ mark = 'E')
    (isDigits : IsDigits digits) : ExponentText (some (true, digits)) (mark :: '-' :: digits)

/-- The ways to write a numeral. No zero stands in front of another digit of the whole part. -/
inductive Spelt : Numeral → List Char → Prop
  | intro {negative : Bool} {whole : List Char} {fraction : Option (List Char)}
    {exponent : Option (Bool × List Char)} {power : List Char} (isWhole : IsDigits whole)
    (leading : whole.head? = some '0' → whole = ['0'])
    (isFraction : ∀ digits, fraction = some digits → IsDigits digits)
    (isPower : ExponentText exponent power) :
    Spelt ⟨negative, whole, fraction, exponent⟩
      (signText negative ++ (whole ++ (fractionText fraction ++ power)))

variable {digits rest power : List Char} {exponent : Option (Bool × List Char)}

theorem takeWhile_digits (isDigits : IsDigits digits) (ends : rest.takeWhile Char.isDigit = []) :
    (digits ++ rest).takeWhile Char.isDigit = digits := by
  rw [List.takeWhile_append_of_pos isDigits.2, ends, List.append_nil]

theorem dropWhile_digits (isDigits : IsDigits digits) (ends : rest.takeWhile Char.isDigit = []) :
    (digits ++ rest).dropWhile Char.isDigit = rest := by
  have whole := List.takeWhile_append_dropWhile (p := Char.isDigit) (l := rest)
  rw [ends, List.nil_append] at whole
  rw [List.dropWhile_append_of_pos isDigits.2, whole]

theorem exponent?_digits (isDigits : IsDigits digits) : exponent? digits = some (false, digits) := by
  obtain ⟨c, others, shape⟩ := List.exists_cons_of_ne_nil isDigits.1
  have digit : c.isDigit = true := isDigits.2 c (shape ▸ List.mem_cons_self)
  rw [exponent?, if_pos ⟨isDigits.1, List.all_eq_true.2 isDigits.2⟩]
  · rintro _ rfl
    cases shape
    exact absurd digit (by decide)
  · rintro _ rfl
    cases shape
    exact absurd digit (by decide)

/-- What stands behind its mark is read as the exponent. -/
theorem ExponentText.shape (text : ExponentText exponent power) :
    (power = [] ∧ exponent = none) ∨ ∃ mark digits read, power = mark :: digits ∧
      (mark = 'e' ∨ mark = 'E') ∧ exponent? digits = some read ∧ exponent = some read := by
  cases text with
  | absent => exact .inl ⟨rfl, rfl⟩
  | unsigned isMark isDigits =>
    exact .inr ⟨_, _, _, rfl, isMark, exponent?_digits isDigits, rfl⟩
  | plus isMark isDigits =>
    exact .inr ⟨_, _, _, rfl, isMark, if_pos ⟨isDigits.1, List.all_eq_true.2 isDigits.2⟩, rfl⟩
  | minus isMark isDigits =>
    exact .inr ⟨_, _, _, rfl, isMark, if_pos ⟨isDigits.1, List.all_eq_true.2 isDigits.2⟩, rfl⟩

theorem ExponentText.takeWhile_eq_nil (text : ExponentText exponent power) :
    power.takeWhile Char.isDigit = [] := by
  rcases text.shape with ⟨rfl, -⟩ | ⟨mark, digits, read, rfl, isMark, -⟩
  · rfl
  · rcases isMark with rfl | rfl <;> rfl

/-- What stands behind the whole part is taken apart into fraction and exponent. -/
theorem tail?_fractionText {fraction : Option (List Char)}
    (isFraction : ∀ digits, fraction = some digits → IsDigits digits)
    (text : ExponentText exponent power) :
    tail? (fractionText fraction ++ power) = some (fraction, exponent) := by
  cases fraction with
  | none =>
    rcases text.shape with ⟨rfl, rfl⟩ | ⟨mark, digits, read, rfl, isMark, reads, rfl⟩
    · rfl
    · rcases isMark with rfl | rfl <;> simp [fractionText, tail?, reads]
  | some digits =>
    have isDigits := isFraction digits rfl
    have digit := takeWhile_digits isDigits text.takeWhile_eq_nil
    have behind := dropWhile_digits isDigits text.takeWhile_eq_nil
    simp only [fractionText, List.cons_append, tail?, digit, behind, if_neg isDigits.1]
    rcases text.shape with ⟨rfl, rfl⟩ | ⟨mark, digits, read, rfl, isMark, reads, rfl⟩
    · rfl
    · simp [isMark, reads]

/-- Every way to write a numeral is read as it. -/
theorem Spelt.ofWord? {numeral : Numeral} {word : List Char} (spelt : Spelt numeral word) :
    ofWord? word = some numeral := by
  obtain ⟨isWhole, leading, isFraction, isPower⟩ := spelt
  rename_i negative whole fraction exponent power
  have ends : (fractionText fraction ++ power).takeWhile Char.isDigit = [] := by
    cases fraction with
    | none => exact isPower.takeWhile_eq_nil
    | some digits => rfl
  have notLeading : ¬(whole = [] ∨ (whole.head? = some '0' ∧ whole.length ≠ 1)) := by
    rintro (none | ⟨zero, several⟩)
    · exact isWhole.1 none
    · exact several (by rw [leading zero]; rfl)
  have unsigned : unsigned? negative (whole ++ (fractionText fraction ++ power)) =
      some ⟨negative, whole, fraction, exponent⟩ := by
    simp only [unsigned?, takeWhile_digits isWhole ends, dropWhile_digits isWhole ends,
      if_neg notLeading, tail?_fractionText isFraction isPower, Option.map_some]
  cases negative with
  | true => exact unsigned
  | false =>
    obtain ⟨c, others, shape⟩ := List.exists_cons_of_ne_nil isWhole.1
    have digit : c.isDigit = true := isWhole.2 c (shape ▸ List.mem_cons_self)
    subst shape
    exact (ofWord?_of_isDigit digit).trans unsigned

theorem exponentText_of_exponent? {mark : Char} {read : Bool × List Char}
    (isMark : mark = 'e' ∨ mark = 'E') (reads : exponent? power = some read) :
    ExponentText (some read) (mark :: power) := by
  have fromDigits {digits : List Char} {negative : Bool}
      (reads : (if digits ≠ [] ∧ digits.all Char.isDigit then some (negative, digits) else none) =
        some read) : IsDigits digits ∧ read = (negative, digits) := by
    split at reads
    · rename_i isDigits
      exact ⟨⟨isDigits.1, List.all_eq_true.1 isDigits.2⟩, (Option.some.inj reads).symm⟩
    · cases reads
  unfold exponent? at reads
  split at reads
  · obtain ⟨isDigits, rfl⟩ := fromDigits reads
    exact .minus isMark isDigits
  · obtain ⟨isDigits, rfl⟩ := fromDigits reads
    exact .plus isMark isDigits
  · obtain ⟨isDigits, rfl⟩ := fromDigits reads
    exact .unsigned isMark isDigits

theorem marked_of_exponent? {mark : Char} {fraction : Option (List Char)}
    {tail : Option (List Char) × Option (Bool × List Char)}
    (reads : (if mark = 'e' ∨ mark = 'E' then (exponent? power).map fun e => (fraction, some e)
      else none) = some tail) :
    ∃ exponent, tail = (fraction, exponent) ∧ ExponentText exponent (mark :: power) := by
  split at reads
  · rename_i isMark
    obtain ⟨read, isPower, rfl⟩ := Option.map_eq_some_iff.1 reads
    exact ⟨some read, rfl, exponentText_of_exponent? isMark isPower⟩
  · cases reads

/-- What is taken apart into fraction and exponent is written as they are. -/
theorem exists_power_of_tail? {fraction : Option (List Char)}
    (reads : tail? rest = some (fraction, exponent)) : ∃ power,
      rest = fractionText fraction ++ power ∧ ExponentText exponent power ∧
        ∀ digits, fraction = some digits → IsDigits digits := by
  unfold tail? at reads
  split at reads
  · cases reads
    exact ⟨[], rfl, .absent, nofun⟩
  · rename_i behind
    dsimp only at reads
    split at reads
    · cases reads
    · rename_i some
      have parts : behind.takeWhile Char.isDigit ++ behind.dropWhile Char.isDigit = behind :=
        List.takeWhile_append_dropWhile
      have isDigits : IsDigits (behind.takeWhile Char.isDigit) :=
        ⟨some, fun _ => List.mem_takeWhile_imp⟩
      split at reads
      · rename_i ends
        cases reads
        rw [ends, List.append_nil] at parts
        exact ⟨[], by rw [fractionText, parts, List.append_nil], .absent,
          by rintro _ ⟨⟩; exact isDigits⟩
      · rename_i mark power shape
        obtain ⟨exponent, same, text⟩ := marked_of_exponent? reads
        cases same
        refine ⟨mark :: power, ?_, text, by rintro _ ⟨⟩; exact isDigits⟩
        rw [fractionText, List.cons_append, ← shape, parts]
  · obtain ⟨exponent, same, text⟩ := marked_of_exponent? reads
    cases same
    exact ⟨_, rfl, text, nofun⟩

theorem spelt_of_unsigned? {negative : Bool} {word : List Char} {numeral : Numeral}
    (reads : unsigned? negative word = some numeral) :
    Spelt numeral (signText negative ++ word) := by
  unfold unsigned? at reads
  dsimp only at reads
  split at reads
  · cases reads
  · rename_i shape
    obtain ⟨⟨fraction, exponent⟩, isTail, rfl⟩ := Option.map_eq_some_iff.1 reads
    obtain ⟨power, behind, isPower, isFraction⟩ := exists_power_of_tail? isTail
    have parts : word.takeWhile Char.isDigit ++ word.dropWhile Char.isDigit = word :=
      List.takeWhile_append_dropWhile
    rw [behind] at parts
    rw [not_or, not_and, not_not] at shape
    have isWhole : IsDigits (word.takeWhile Char.isDigit) :=
      ⟨shape.1, fun _ => List.mem_takeWhile_imp⟩
    have leading : (word.takeWhile Char.isDigit).head? = some '0' →
        word.takeWhile Char.isDigit = ['0'] := by
      intro zero
      obtain ⟨c, single⟩ := List.length_eq_one_iff.1 (shape.2 zero)
      rw [single] at zero ⊢
      cases zero
      rfl
    have spelt := @Spelt.intro negative _ _ _ _ isWhole leading isFraction isPower
    rwa [parts] at spelt

/-- A numeral is read from what it is written as and from nothing else. -/
theorem ofWord?_eq_some_iff {word : List Char} {numeral : Numeral} :
    ofWord? word = some numeral ↔ Spelt numeral word := by
  refine ⟨fun reads => ?_, Spelt.ofWord?⟩
  unfold ofWord? at reads
  split at reads
  · exact spelt_of_unsigned? reads
  · exact spelt_of_unsigned? reads

/-- A numeral with a point and without an exponent. -/
theorem Spelt.ofFraction (negative : Bool) {whole fraction : List Char} (isWhole : IsDigits whole)
    (leading : whole.head? = some '0' → whole = ['0']) (isFraction : IsDigits fraction) :
    Spelt ⟨negative, whole, some fraction, none⟩
      (signText negative ++ (whole ++ '.' :: fraction)) := by
  have spelt : Spelt ⟨negative, whole, some fraction, none⟩ _ :=
    .intro isWhole leading (fun _ same => Option.some.inj same ▸ isFraction) .absent
  rwa [List.append_nil] at spelt

theorem decimal_ofFraction (negative : Bool) (whole fraction : List Char) :
    decimal ⟨negative, whole, some fraction, none⟩ =
      ⟨negative, decimalNumber (whole ++ fraction), -fraction.length⟩ := by
  simp [decimal]

/-- The digits of a number are one of the words that spell it. -/
theorem Spelt.ofNat (negative : Bool) (n : Nat) : Spelt ⟨negative, Nat.toDigits 10 n, none, none⟩
    (signText negative ++ Nat.toDigits 10 n) := by
  have leading : (Nat.toDigits 10 n).head? = some '0' → Nat.toDigits 10 n = ['0'] := by
    intro zero
    rcases Nat.eq_zero_or_pos n with rfl | positive
    · rfl
    · exact absurd zero (head?_toDigits_ne_zero positive)
  have spelt : Spelt ⟨negative, Nat.toDigits 10 n, none, none⟩ _ :=
    .intro (isDigits_toDigits n) leading (by simp) .absent
  rwa [fractionText, List.append_nil, List.append_nil] at spelt

/-- Digits alone are written in one way. -/
theorem Spelt.eq_of_whole {negative : Bool} {whole word : List Char}
    (spelt : Spelt ⟨negative, whole, none, none⟩ word) : word = signText negative ++ whole := by
  obtain ⟨_, _, _, isPower⟩ := spelt
  cases isPower
  rw [fractionText, List.append_nil, List.append_nil]

end Numeral

theorem decimalNumber_zeros (count : Nat) (digits : List Char) :
    decimalNumber (List.replicate count '0' ++ digits) = decimalNumber digits := by
  induction count with
  | zero => rfl
  | succ count ih => exact ih

theorem toDigits_mul_pow {n : Nat} (positive : 0 < n) (count : Nat) :
    Nat.toDigits 10 (n * 10 ^ count) = Nat.toDigits 10 n ++ List.replicate count '0' := by
  induction count with
  | zero => simp
  | succ count ih =>
    have some : 0 < n * 10 ^ count := Nat.mul_pos positive (Nat.pow_pos (by decide))
    have longer := Nat.toDigits_append_toDigits (by decide : 1 < 10) some (by decide : 0 < 10)
    have split : n * 10 ^ (count + 1) = 10 * (n * 10 ^ count) + 0 := by ring
    have zero : Nat.toDigits 10 0 = ['0'] := rfl
    rw [split, ← longer, ih, zero, List.append_assoc, ← List.replicate_succ']

theorem Decimal.nearest?_mul_pow (negative : Bool) {n : Nat} (positive : 0 < n) (count : Nat)
    (exponent : Int) :
    nearest? ⟨negative, n * 10 ^ count, exponent⟩ = nearest? ⟨negative, n, exponent + count⟩ := by
  induction count generalizing exponent with
  | zero => simp
  | succ count ih =>
    have some : 0 < n * 10 ^ count := Nat.mul_pos positive (Nat.pow_pos (by decide))
    have split : n * 10 ^ (count + 1) = 10 * (n * 10 ^ count) := by ring
    rw [split, nearest?_shift negative some, ih]
    congr 2
    omega

namespace Numeral

/-- Digits with the point behind the first of them, and an exponent, whether or not there is a plus
sign before a positive one. -/
theorem Spelt.ofPower (negative : Bool) {digits plus : List Char} (isDigits : IsDigits digits)
    (front : digits.head? ≠ some '0') (isPlus : plus = [] ∨ plus = ['+']) (power : Int) :
    ∃ numeral : Numeral, numeral.Spelt (signText negative ++ (digits.take 1 ++
      ((if digits.length ≤ 1 then [] else '.' :: digits.drop 1) ++
        'e' :: ((if power < 0 then ['-'] else plus) ++ Nat.toDigits 10 power.natAbs)))) ∧
    numeral.decimal = ⟨negative, decimalNumber digits, power + 1 - digits.length⟩ ∧
      numeral.exponent ≠ none := by
  have several := List.length_pos_iff.2 isDigits.1
  have leading : (digits.take 1).head? = some '0' → digits.take 1 = ['0'] := fun zero =>
    absurd zero (by rwa [List.head?_take, if_neg (by decide)])
  have exponent : ExponentText (some (decide (power < 0), Nat.toDigits 10 power.natAbs))
      ('e' :: ((if power < 0 then ['-'] else plus) ++ Nat.toDigits 10 power.natAbs)) := by
    have isPower := isDigits_toDigits power.natAbs
    by_cases below : power < 0
    · simpa [below] using ExponentText.minus (.inl rfl) isPower
    · rcases isPlus with rfl | rfl
      · simpa [below] using ExponentText.unsigned (.inl rfl) isPower
      · simpa [below] using ExponentText.plus (.inl rfl) isPower
  have signed : (if power < 0 then -(power.natAbs : Int) else power.natAbs) = power := by
    split <;> omega
  by_cases single : digits.length ≤ 1
  · have spelt : Spelt ⟨negative, digits.take 1, none, _⟩ _ :=
      .intro (isDigits.take (by decide)) leading (by simp) exponent
    refine ⟨_, by rw [if_pos single]; exact spelt, ?_, by simp⟩
    rw [List.take_of_length_le single]
    simp only [decimal, Option.getD_none, List.append_nil, decimalNumber_toDigits,
      decide_eq_true_eq, signed, List.length_nil, Nat.cast_zero, Int.sub_zero]
    congr 1
    omega
  · have spelt : Spelt ⟨negative, digits.take 1, some (digits.drop 1), _⟩ _ :=
      .intro (isDigits.take (by decide)) leading
        (fun _ same => Option.some.inj same ▸ isDigits.drop (by omega)) exponent
    refine ⟨_, by rw [if_neg single]; exact spelt, ?_, by simp⟩
    simp only [decimal, Option.getD_some, List.take_append_drop, decimalNumber_toDigits,
      decide_eq_true_eq, signed, List.length_drop]
    congr 1
    omega

/-- A whole number that is marked by a zero behind the point. -/
theorem nearest?_ofWhole (negative : Bool) {n : Nat} (positive : 0 < n) :
    (decimal ⟨negative, Nat.toDigits 10 n, some ['0'], none⟩).nearest? =
      Decimal.nearest? ⟨negative, n, 0⟩ := by
  have longer := toDigits_mul_pow positive 1
  have shifted := Decimal.nearest?_mul_pow negative positive 1 (-1)
  rw [decimal_ofFraction]
  have digits : decimalNumber (Nat.toDigits 10 n ++ ['0']) = n * 10 ^ 1 := by
    rw [← decimalNumber_toDigits (n * 10 ^ 1), longer]
    rfl
  rw [digits]
  exact shifted

end Numeral

namespace DecimalLayout

open Numeral (Spelt signText)

/-- Layouts whose texts are numerals. -/
structure Spells (layout : DecimalLayout) : Prop where
  suffix : layout.wholeSuffix = "" ∨ layout.wholeSuffix = ".0"
  plus : layout.positiveExponent = "" ∨ layout.positiveExponent = "+"

theorem plain_spells : plain.Spells := ⟨.inr rfl, .inl rfl⟩

theorem canonical_spells : canonical.Spells := ⟨.inl rfl, .inr rfl⟩

variable {layout : DecimalLayout} {d : Decimal}

/-- The text of a decimal spells a numeral next to the same double, or it spells a whole number
without any mark. -/
theorem spelt_unsigned (spells : layout.Spells) (positive : 0 < d.digits) : ∃ numeral : Numeral,
    numeral.Spelt (signText d.negative ++ (layout.unsigned d).toList) ∧
      ((numeral.decimal.nearest? = d.nearest? ∧
          ¬(numeral.fraction = none ∧ numeral.exponent = none)) ∨
        (0 ≤ d.exponent ∧ layout.wholeSuffix = "" ∧ numeral =
          ⟨d.negative, Nat.toDigits 10 (d.digits * 10 ^ d.exponent.toNat), none, none⟩)) := by
  obtain ⟨negative, n, exponent⟩ := d
  obtain ⟨suffix, plus⟩ := spells
  dsimp only at positive ⊢
  have isDigits := isDigits_toDigits n
  have front := head?_toDigits_ne_zero positive
  have value := decimalNumber_toDigits n
  have longer := toDigits_mul_pow positive exponent.toNat
  rw [unsigned]
  dsimp only
  generalize Nat.toDigits 10 n = digits at *
  split
  · split
    · -- All digits stand behind the point.
      have isFraction : IsDigits (List.replicate (digits.length + exponent).natAbs '0' ++ digits) :=
        ⟨by simp [isDigits.1], List.forall_mem_append.2
          ⟨fun c member => by rw [List.eq_of_mem_replicate member]; rfl, isDigits.2⟩⟩
      have zeros := decimalNumber_zeros ((digits.length + exponent).natAbs + 1) digits
      rw [List.replicate_succ, List.cons_append] at zeros
      have spelt := Spelt.ofFraction negative (isDigits_toDigits 0) (fun _ => rfl) isFraction
      refine ⟨_, by simpa using spelt, .inl ⟨congrArg Decimal.nearest? ?_, by simp⟩⟩
      rw [Numeral.decimal_ofFraction, List.singleton_append, zeros, value, List.length_append,
        List.length_replicate]
      congr 1
      omega
    · split
      · -- No digit stands behind the point, but for the zero that may mark a whole number.
        rename_i whole
        have size : 0 < n * 10 ^ exponent.toNat := Nat.mul_pos positive (Nat.pow_pos (by decide))
        rcases suffix with unmarked | marked
        · have spelt := Spelt.ofNat negative (n * 10 ^ exponent.toNat)
          rw [longer] at spelt
          exact ⟨_, by simpa [unmarked] using spelt, .inr ⟨whole, unmarked, by rw [longer]⟩⟩
        · have spelt := Spelt.ofFraction negative (isDigits_toDigits (n * 10 ^ exponent.toNat))
            (fun zero => absurd zero (head?_toDigits_ne_zero size)) (isDigits_toDigits 0)
          have same := Decimal.nearest?_mul_pow negative positive exponent.toNat 0
          rw [Int.zero_add, Int.toNat_of_nonneg whole] at same
          refine ⟨_, ?_, .inl ⟨(Numeral.nearest?_ofWhole negative size).trans same, by simp⟩⟩
          rw [longer] at spelt ⊢
          simpa [marked] using spelt
      · -- The point stands between two digits.
        have parts := List.take_append_drop (digits.length + exponent).toNat digits
        have leading : (digits.take (digits.length + exponent).toNat).head? = some '0' →
            digits.take (digits.length + exponent).toNat = ['0'] := fun zero =>
          absurd zero (by rwa [List.head?_take, if_neg (by omega)])
        have behind : IsDigits (digits.drop (digits.length + exponent).toNat) :=
          isDigits.drop (by omega)
        have spelt := Spelt.ofFraction negative (isDigits.take (by omega)) leading behind
        refine ⟨_, by simpa using spelt, .inl ⟨congrArg Decimal.nearest? ?_, by simp⟩⟩
        rw [Numeral.decimal_ofFraction, parts, value, List.length_drop]
        simp
        omega
  · -- One digit stands before the point.
    have isPlus : layout.positiveExponent.toList = [] ∨ layout.positiveExponent.toList = ['+'] :=
      plus.imp (congrArg String.toList) (congrArg String.toList)
    obtain ⟨numeral, spelt, decimal, power⟩ :=
      Spelt.ofPower negative isDigits front isPlus (digits.length + exponent - 1)
    refine ⟨numeral, ?_, .inl ⟨congrArg Decimal.nearest? ?_, fun none => power none.2⟩⟩
    · by_cases single : digits.length ≤ 1
      · by_cases below : digits.length + exponent - 1 < 0 <;> simpa [single, below] using spelt
      · by_cases below : digits.length + exponent - 1 < 0 <;> simpa [single, below] using spelt
    · rw [decimal, value]
      simp

end DecimalLayout

/-- A whole number that is not too large is rounded as it is. -/
theorem Decimal.nearest?_whole {negative : Bool} {n : Nat} (small : n < 2 ^ 64) :
    nearest? ⟨negative, n, 0⟩ = Double.nearest? negative n 1 := by
  rcases Nat.eq_zero_or_pos n with rfl | positive
  · cases negative <;> decide +kernel
  · have width : decimalWidth n ≤ 20 :=
      decimalWidth_le (by decide) (Nat.lt_trans small (by decide))
    have settled : ¬(n = 0 ∨ (0 : Int) + decimalWidth n < -400) := by omega
    have within : ¬310 < (0 : Int) + decimalWidth n := by omega
    rw [nearest?]
    dsimp only
    rw [if_neg settled, if_neg within, if_pos (Int.le_refl 0)]
    exact congrArg (Double.nearest? negative · 1) (Nat.mul_one n)

namespace Numeral

/-- With a fraction or an exponent a numeral denotes a double. -/
theorem number?_of_marked {numeral : Numeral}
    (marked : ¬(numeral.fraction = none ∧ numeral.exponent = none)) :
    numeral.number? = numeral.decimal.nearest?.map Number.double := by
  simp [number?, guard, marked]

theorem decimal_whole (negative : Bool) (n : Nat) :
    decimal ⟨negative, Nat.toDigits 10 n, none, none⟩ = ⟨negative, n, 0⟩ := by
  simp [decimal, decimalNumber_toDigits]

/-- Digits alone denote an integer where that is one of 64 bits, and a double otherwise. -/
theorem number?_toDigits (negative : Bool) {n : Nat} (positive : 0 < n) :
    (∃ value least greatest, decide (value < 0) = negative ∧ value.natAbs = n ∧
      number? ⟨negative, Nat.toDigits 10 n, none, none⟩ = some (.integer value least greatest)) ∨
    number? ⟨negative, Nat.toDigits 10 n, none, none⟩ =
      (Decimal.nearest? ⟨negative, n, 0⟩).map Number.double := by
  by_cases fits : -9223372036854775808 ≤ (if negative then -(n : Int) else n) ∧
      (if negative then -(n : Int) else n) < 18446744073709551616
  · refine .inl ⟨_, fits.1, fits.2, ?_, ?_, number?_whole _ _ rfl (by omega)⟩
    · cases negative
      · simp
      · simpa using positive
    · cases negative <;> simp
  · refine .inr ?_
    have beyond : Number.ofInt? (if negative then -(n : Int) else n) = none := dif_neg fits
    simp [number?, guard, decimal, decimalNumber_toDigits, Nat.ne_of_gt positive, beyond]

end Numeral

namespace Number

/-- The text of an integer, which is the same in all layouts. -/
theorem render_integer {value : Int} (least : -9223372036854775808 ≤ value)
    (greatest : value < 18446744073709551616) (layout : DecimalLayout) :
    ((integer value least greatest).render layout).toList =
      Numeral.signText (decide (value < 0)) ++ Nat.toDigits 10 value.natAbs := by
  by_cases negative : value < 0 <;> simp [render, Numeral.signText, negative]

/-- Zero has one canonical text. -/
theorem render_zero {d : Double} (zero : d.isZero = true) : (double d).render .canonical = "0" := by
  rw [render, DecimalLayout.render, if_pos zero]
  split <;> rfl

theorem render_nonzero {d : Double} (nonzero : d.isZero = false) (layout : DecimalLayout) :
    ((double d).render layout).toList =
      Numeral.signText d.negative ++ (layout.unsigned d.shortest).toList := by
  rw [render, DecimalLayout.render, if_neg (by simp [nonzero]), Numeral.signText]
  split <;> simp

/-- Two numbers that are written alike, and that are the same double but for the sign of zero. -/
structure Alike (a b : Number) : Prop where
  text : a.render .canonical = b.render .canonical
  double : a.toDouble = b.toDouble ∨ (a.toDouble.isZero = true ∧ b.toDouble.isZero = true)

/-- The canonical text of a number spells a numeral, and the number that this denotes is written the
same way. The double next to what the numeral spells is that of the number. -/
theorem canonical_spelt (number : Number) : ∃ numeral again,
    Numeral.Spelt numeral (number.render .canonical).toList ∧ numeral.number? = some again ∧
      again.render .canonical = number.render .canonical ∧
      (number.toDouble = numeral.decimal.nearest?.getD default ∨
        (number.toDouble.isZero = true ∧ (numeral.decimal.nearest?.getD default).isZero = true)) := by
  cases number with
  | integer value least greatest =>
    have isNumber : Numeral.number? ⟨decide (value < 0), Nat.toDigits 10 value.natAbs, none, none⟩ =
        some (integer value least greatest) := by
      refine Numeral.number?_whole least greatest ?_ ?_
      · by_cases negative : value < 0
        · simp only [negative, decide_true, if_true]
          omega
        · simp only [negative, decide_false, Bool.false_eq_true, if_false]
          omega
      · rw [decide_eq_true_eq]
        omega
    refine ⟨_, _, ?_, isNumber, rfl, .inl ?_⟩
    · rw [render_integer]
      exact Numeral.Spelt.ofNat _ _
    · rw [Numeral.decimal_whole, Decimal.nearest?_whole (by omega)]
      rfl
  | double d =>
    cases zero : d.isZero with
    | true =>
      have isNumber : Numeral.number? ⟨false, Nat.toDigits 10 0, none, none⟩ =
          some (integer 0 (by decide) (by decide)) := Numeral.number?_whole _ _ rfl (by simp)
      refine ⟨_, _, ?_, isNumber, ?_, .inr ⟨zero, by decide⟩⟩
      · rw [render_zero zero]
        exact Numeral.Spelt.ofNat false 0
      · rw [render_zero zero]
        rfl
    | false =>
      obtain ⟨reads, sign, positive⟩ := Double.shortest_spec zero
      obtain ⟨numeral, spelt, isDecimal⟩ :=
        DecimalLayout.spelt_unsigned DecimalLayout.canonical_spells positive
      have text := render_nonzero zero .canonical
      rw [← sign] at text
      rw [← text] at spelt
      rcases isDecimal with ⟨isDecimal, marked⟩ | ⟨whole, -, rfl⟩
      · refine ⟨numeral, double d, spelt, ?_, rfl, .inl ?_⟩
        · rw [Numeral.number?_of_marked marked, isDecimal, reads, Option.map_some]
        · rw [isDecimal, reads]
          rfl
      · -- A whole number is read as an integer where it is one of 64 bits.
        have size : 0 < d.shortest.digits * 10 ^ d.shortest.exponent.toNat :=
          Nat.mul_pos positive (Nat.pow_pos (by decide))
        have same := Decimal.nearest?_mul_pow d.shortest.negative positive
          d.shortest.exponent.toNat 0
        rw [Int.zero_add, Int.toNat_of_nonneg whole, reads] at same
        rcases Numeral.number?_toDigits d.shortest.negative size with
          ⟨value, least, greatest, below, absolute, isNumber⟩ | isNumber
        · refine ⟨_, _, spelt, isNumber, String.toList_inj.1 ?_, .inl ?_⟩
          · rw [spelt.eq_of_whole, render_integer, below, absolute]
          · rw [Numeral.decimal_whole, same]
            rfl
        · refine ⟨_, double d, spelt, ?_, rfl, .inl ?_⟩
          · rw [isNumber, same, Option.map_some]
          · rw [Numeral.decimal_whole, same]
            rfl

/-- Every number is read from the text that is written for it. -/
theorem readsBack (number : Number) : number.ReadsBack := by
  cases number with
  | integer value least greatest => exact readsBack_integer least greatest
  | double d =>
    cases zero : d.isZero with
    | true =>
      rw [Double.eq_zero zero]
      cases d.negative <;> decide +kernel
    | false =>
      obtain ⟨reads, sign, positive⟩ := Double.shortest_spec zero
      obtain ⟨numeral, spelt, isDecimal⟩ :=
        DecimalLayout.spelt_unsigned DecimalLayout.plain_spells positive
      rw [sign, ← render_nonzero zero] at spelt
      rcases isDecimal with ⟨isDecimal, marked⟩ | ⟨-, unmarked, -⟩
      · rw [ReadsBack, spelt.ofWord?, Option.bind_some, Numeral.number?_of_marked marked, isDecimal,
          reads, Option.map_some]
      · exact absurd unmarked (by decide)

/-- What is written alike is the same double. -/
theorem Alike.of_text {a b : Number} (text : a.render .canonical = b.render .canonical) :
    a.Alike b := by
  refine ⟨text, ?_⟩
  obtain ⟨numeral, _, spelt, -, -, double⟩ := canonical_spelt a
  obtain ⟨other, _, spelt', -, -, double'⟩ := canonical_spelt b
  rw [← text] at spelt'
  cases Option.some.inj (spelt.ofWord?.symm.trans spelt'.ofWord?)
  grind

end Number

end SchemaLedger
