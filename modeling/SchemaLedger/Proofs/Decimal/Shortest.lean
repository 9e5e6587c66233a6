import Mathlib.Algebra.Order.Group.Nat
import Mathlib.Tactic.Ring
import SchemaLedger.Decimal.Shortest

namespace SchemaLedger

section Rounding

variable {factor : Nat} (positive : 0 < factor) (numerator denominator : Nat)
include positive

theorem roundHalfEven_mul : roundHalfEven (factor * numerator) (factor * denominator) =
    roundHalfEven numerator denominator := by
  have twice : 2 * (factor * (numerator % denominator)) = factor * (2 * (numerator % denominator)) :=
    Nat.mul_left_comm ..
  simp only [roundHalfEven, Nat.mul_div_mul_left _ _ positive, Nat.mul_mod_mul_left, twice,
    Nat.mul_lt_mul_left positive, Nat.mul_right_inj (Nat.ne_of_gt positive)]

/-- A quotient has the same nearest double however it is written. -/
theorem Double.nearest?_mul (negative : Bool) :
    nearest? negative (factor * numerator) (factor * denominator) =
      nearest? negative numerator denominator := by
  simp only [nearest?, Nat.mul_assoc, Nat.mul_div_mul_left _ _ positive,
    roundHalfEven_mul positive]

end Rounding

theorem roundHalfEven_exact {denominator : Nat} (positive : 0 < denominator) (n : Nat) :
    roundHalfEven (n * denominator) denominator = n := by
  simp [roundHalfEven, Nat.mul_div_cancel _ positive, positive]

/-- The place of a double is where its first bits stand. -/
theorem Double.log2_scaled (d : Double) : d.scaled.log2 - 52 = d.place := by
  have size := d.significand_lt
  rw [scaled, Nat.pow_eq]
  rcases d.normal with atZero | normal
  · have below : d.significand.log2 < 53 := by
      by_cases none : d.significand = 0
      · rw [none]
        decide
      · exact (Nat.log2_lt none).2 size
    rw [atZero, Nat.pow_zero, Nat.mul_one]
    omega
  · have low : 2 ^ (52 + d.place) ≤ d.significand * 2 ^ d.place := by
      rw [Nat.pow_add]
      exact Nat.mul_le_mul_right _ normal
    have high : d.significand * 2 ^ d.place < 2 ^ (52 + d.place + 1) := by
      have split : 2 ^ (52 + d.place + 1) = 9007199254740992 * 2 ^ d.place := by
        rw [Nat.add_right_comm, Nat.pow_add]
      rw [split]
      exact Nat.mul_lt_mul_of_pos_right size (Nat.two_pow_pos _)
    have some : d.significand * 2 ^ d.place ≠ 0 :=
      Nat.ne_of_gt (Nat.lt_of_lt_of_le (Nat.two_pow_pos _) low)
    rw [(Nat.log2_eq_iff some).2 ⟨low, high⟩]
    omega

/-- A double is the one nearest to itself. -/
theorem Double.nearest?_scaled (d : Double) : nearest? d.negative d.scaled unit = some d := by
  have units : 0 < unit := by decide +kernel
  have whole : d.scaled * unit / unit = d.scaled := Nat.mul_div_cancel _ units
  have split : d.scaled * unit = d.significand * (unit * Nat.pow 2 d.place) := by
    rw [scaled]
    ring
  have rounded : roundHalfEven (d.scaled * unit) (unit * Nat.pow 2 d.place) = d.significand := by
    rw [split]
    exact roundHalfEven_exact (Nat.mul_pos units (Nat.two_pow_pos _)) _
  have parts := And.intro d.significand_lt (And.intro d.place_le d.normal)
  simp only [nearest?, whole, d.log2_scaled, rounded, if_neg (Nat.ne_of_lt d.significand_lt)]
  rw [ofParts?, dif_pos parts]

theorem decimalWidth_mul_ten {n : Nat} (positive : 0 < n) :
    decimalWidth (10 * n) = decimalWidth n + 1 := by
  have digits := Nat.toDigits_append_toDigits (by decide : 1 < 10) positive (by decide : 0 < 10)
  rw [Nat.add_zero] at digits
  rw [decimalWidth, ← digits, List.length_append, Nat.toDigits_zero, decimalWidth]
  rfl

theorem le_decimalWidth {n k : Nat} (large : 10 ^ k ≤ n) : k < decimalWidth n := by
  rcases Nat.eq_zero_or_pos k with rfl | positive
  · exact Nat.length_toDigits_pos
  · refine Nat.not_le.1 fun short => ?_
    exact absurd ((Nat.length_toDigits_le_iff (by decide) positive).1 short) (Nat.not_lt.2 large)

theorem decimalWidth_le {n k : Nat} (positive : 0 < k) (small : n < 10 ^ k) : decimalWidth n ≤ k :=
  (Nat.length_toDigits_le_iff (by decide) positive).2 small

namespace Decimal

/-- A zero at the end of the digits is one more in the exponent. -/
theorem nearest?_shift (negative : Bool) {n : Nat} (positive : 0 < n) (exponent : Int) :
    nearest? ⟨negative, 10 * n, exponent⟩ = nearest? ⟨negative, n, exponent + 1⟩ := by
  have width : exponent + (decimalWidth (10 * n) : Int) = exponent + 1 + decimalWidth n := by
    rw [decimalWidth_mul_ten positive]
    omega
  have quotient : (if 0 ≤ exponent then
      Double.nearest? negative (10 * n * Nat.pow 10 exponent.toNat) 1
      else Double.nearest? negative (10 * n) (Nat.pow 10 exponent.natAbs)) =
      if 0 ≤ exponent + 1 then Double.nearest? negative (n * Nat.pow 10 (exponent + 1).toNat) 1
      else Double.nearest? negative n (Nat.pow 10 (exponent + 1).natAbs) := by
    simp only [Nat.pow_eq]
    by_cases whole : 0 ≤ exponent
    · have next : (exponent + 1).toNat = exponent.toNat + 1 := by omega
      have same : 10 * n * 10 ^ exponent.toNat = n * 10 ^ (exponent.toNat + 1) := by ring
      rw [if_pos whole, if_pos (by omega), next, same]
    · have next : exponent.natAbs = (exponent + 1).natAbs + 1 := by omega
      rw [if_neg whole, next, Nat.pow_succ', Double.nearest?_mul (by decide)]
      by_cases last : 0 ≤ exponent + 1
      · have none : (exponent + 1).natAbs = 0 := by omega
        have zero : (exponent + 1).toNat = 0 := by omega
        rw [if_pos last, none, zero, Nat.pow_zero, Nat.mul_one]
      · rw [if_neg last]
  have some : (10 * n = 0) ↔ n = 0 := by omega
  simp only [nearest?, width, quotient, some]

theorem nearest?_trim (d : Decimal) (fuel : Nat) : (d.trim fuel).nearest? = d.nearest? := by
  induction fuel generalizing d with
  | zero => rfl
  | succ fuel ih =>
    rw [trim]
    split
    · rename_i zero
      have split : 10 * (d.digits / 10) = d.digits :=
        Nat.mul_div_cancel' (Nat.dvd_of_mod_eq_zero zero.2)
      have positive : 0 < d.digits / 10 := by omega
      have shifted := nearest?_shift d.negative positive d.exponent
      rw [split] at shifted
      rw [ih, ← shifted]
    · rfl

/-- Trimming keeps the sign, and leaves digits where there are some. -/
theorem trim_spec (d : Decimal) (fuel : Nat) (positive : 0 < d.digits) :
    (d.trim fuel).negative = d.negative ∧ 0 < (d.trim fuel).digits := by
  induction fuel generalizing d with
  | zero => exact ⟨rfl, positive⟩
  | succ fuel ih =>
    rw [trim]
    split
    · exact ih _ (by dsimp only; omega)
    · exact ⟨rfl, positive⟩

end Decimal

namespace Double

theorem scaled_pos {d : Double} (nonzero : d.isZero = false) : 0 < d.scaled := by
  have some : d.significand ≠ 0 := by simpa [isZero] using nonzero
  exact Nat.mul_pos (Nat.pos_of_ne_zero some) (Nat.two_pow_pos _)

theorem scaled_le {d : Double} {n : Nat} (place : d.place ≤ n) :
    d.scaled ≤ 9007199254740992 * Nat.pow 2 n :=
  Nat.mul_le_mul (Nat.le_of_lt d.significand_lt) (Nat.pow_le_pow_right (by decide) place)

/-- The decimal that a double is reads back as it. -/
theorem nearest?_exact {d : Double} (nonzero : d.isZero = false) : d.exact.nearest? = some d := by
  have positive := scaled_pos nonzero
  have power : 0 < Nat.pow 5 1074 := by decide +kernel
  have low : 10 ^ 673 ≤ d.scaled * Nat.pow 5 1074 := by
    rw [← Nat.pow_eq]
    refine Nat.le_trans ?_ (Nat.le_mul_of_pos_left _ positive)
    decide +kernel
  have high : d.scaled * Nat.pow 5 1074 < 10 ^ 1384 := by
    rw [← Nat.pow_eq]
    have most := Nat.mul_le_mul_right (Nat.pow 5 1074) (scaled_le d.place_le)
    exact Nat.lt_of_le_of_lt most (by decide +kernel)
  have wide := le_decimalWidth (k := 673) low
  have narrow := decimalWidth_le (k := 1384) (by decide) high
  have digits : d.scaled * Nat.pow 5 1074 ≠ 0 := Nat.ne_of_gt (Nat.mul_pos positive power)
  have quotient : nearest? d.negative (d.scaled * Nat.pow 5 1074) (Nat.pow 10 1074) = d := by
    have tens : Nat.pow 10 1074 = Nat.pow 5 1074 * unit := by decide +kernel
    rw [tens, Nat.mul_comm d.scaled, nearest?_mul power d.scaled unit, nearest?_scaled]
  have settled : ¬(d.scaled * Nat.pow 5 1074 = 0 ∨
      (-1074 : Int) + decimalWidth (d.scaled * Nat.pow 5 1074) < -400) := by omega
  have within : ¬(310 < (-1074 : Int) + decimalWidth (d.scaled * Nat.pow 5 1074)) := by omega
  rw [Decimal.nearest?, exact]
  dsimp only
  have turned : (-1074 : Int).natAbs = 1074 := rfl
  rw [if_neg settled, if_neg within, if_neg (by decide), turned, quotient]

theorem eq_zero {d : Double} (zero : d.isZero = true) : d = Double.zero d.negative := by
  obtain ⟨negative, significand, place, _, _, normal⟩ := d
  have none : significand = 0 := by simpa [isZero] using zero
  subst none
  have first : place = 0 := by omega
  subst first
  rfl

/-- Only points that read back as the number are taken from a grid. -/
theorem onGrid?_spec {d : Double} {step : Int} {c : Decimal} (found : d.onGrid? step = some c) :
    c.nearest? = some d ∧ c.negative = d.negative := by
  dsimp only [onGrid?] at found
  generalize overPowerOfTen d.scaled unit step = quotient at found
  split at found
  · rename_i below above
    split at found
    · cases found
      exact ⟨eq_of_beq below, rfl⟩
    · cases found
      exact ⟨eq_of_beq above, rfl⟩
  · rename_i below _
    cases found
    exact ⟨eq_of_beq below, rfl⟩
  · rename_i _ above
    cases found
    exact ⟨eq_of_beq above, rfl⟩
  · cases found

/-- The shortest decimal of a double other than zero has its sign, has digits, and reads back as the
double. -/
theorem shortest_spec {d : Double} (nonzero : d.isZero = false) :
    d.shortest.nearest? = some d ∧ d.shortest.negative = d.negative ∧ 0 < d.shortest.digits := by
  have untrimmed : ∀ c : Decimal, c.nearest? = some d ∧ c.negative = d.negative →
      (c.trim 1100).nearest? = some d ∧ (c.trim 1100).negative = d.negative ∧
        0 < (c.trim 1100).digits := by
    intro c ⟨reads, sign⟩
    have digits : 0 < c.digits := by
      refine Nat.pos_of_ne_zero fun none => ?_
      rw [Decimal.nearest?, if_pos (.inl none)] at reads
      cases reads
      simp [isZero, Double.zero] at nonzero
    obtain ⟨kept, left⟩ := c.trim_spec 1100 digits
    exact ⟨(c.nearest?_trim 1100).trans reads, kept.trans sign, left⟩
  rw [shortest, if_neg (by rw [nonzero]; exact Bool.false_ne_true)]
  dsimp only
  cases found : (List.range 17).findSome? fun (n : Nat) =>
      d.onGrid? (leadingExponent d.scaled unit - n) with
  | none => exact untrimmed _ ⟨nearest?_exact nonzero, rfl⟩
  | some c =>
    obtain ⟨n, -, point⟩ := List.exists_of_findSome?_eq_some found
    exact untrimmed _ (onGrid?_spec point)

end Double

end SchemaLedger
