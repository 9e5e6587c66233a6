import Mathlib.Data.List.Forall2
import SchemaLedger.Text.Search

namespace SchemaLedger

theorem occursInList_iff_infix {word text : List Char} :
    occursInList word text = true ↔ word <:+: text := by
  induction text with
  | nil => rw [occursInList, List.isEmpty_iff, List.infix_nil]
  | cons c rest ih =>
    rw [occursInList, Bool.or_eq_true, List.isPrefixOf_iff_prefix, ih, List.infix_cons_iff]

theorem occursIn_append {word text : String} (occurs : occursIn word text = true)
    (before after : String) : occursIn word (before ++ text ++ after) = true := by
  rw [occursIn, occursInList_iff_infix] at occurs ⊢
  rw [String.toList_append, String.toList_append]
  exact occurs.trans ⟨before.toList, after.toList, rfl⟩

/-- The same character, or the same ASCII letter, once capital and once small. -/
def SameLetter (c d : Char) : Prop := c = d ∨ c.toLower = d ∨ c = d.toLower

theorem toLower_toLower (c : Char) : c.toLower.toLower = c.toLower := by
  unfold Char.toLower
  grind

theorem SameLetter.toLower_eq {c d : Char} (same : SameLetter c d) : c.toLower = d.toLower := by
  obtain rfl | rfl | rfl := same
  · rfl
  · exact (toLower_toLower c).symm
  · exact toLower_toLower d

theorem toList_toLower (text : String) : text.toLower.toList = text.toList.map Char.toLower :=
  String.toList_map

theorem toLower_eq_of_sameLetters {text other : String}
    (same : List.Forall₂ SameLetter text.toList other.toList) : text.toLower = other.toLower := by
  have letters : List.Forall₂ (· = ·) (text.toList.map Char.toLower)
      (other.toList.map Char.toLower) :=
    List.forall₂_map_left_iff.2 <| List.forall₂_map_right_iff.2 <|
      same.imp fun _ _ => SameLetter.toLower_eq
  rw [List.forall₂_eq_eq_eq] at letters
  rw [← String.toList_inj, toList_toLower, toList_toLower, letters]

theorem toLower_append (a b : String) : (a ++ b).toLower = a.toLower ++ b.toLower := by
  rw [← String.toList_inj, toList_toLower, String.toList_append, String.toList_append,
    List.map_append, toList_toLower, toList_toLower]

theorem toList_toUpper (text : String) : text.toUpper.toList = text.toList.map Char.toUpper :=
  String.toList_map

theorem toNat_toUpper (c : Char) : c.toUpper.toNat =
    if 97 ≤ c.toNat ∧ c.toNat ≤ 122 then c.toNat - 32 else c.toNat := by
  have small : c.toNat < 4294967296 := c.val.toNat_lt
  have range : (97 ≤ c.val ∧ c.val ≤ 122) ↔ 97 ≤ c.toNat ∧ c.toNat ≤ 122 := Iff.rfl
  unfold Char.toUpper
  split
  · rename_i within
    obtain ⟨low, high⟩ := range.1 within
    rw [if_pos (range.1 within)]
    show (c.val + 4294967264).toNat = _
    rw [UInt32.toNat_add]
    show (c.toNat + 4294967264) % 4294967296 = _
    omega
  · rename_i outside
    rw [if_neg (mt range.2 outside)]

theorem toNat_toLower (c : Char) : c.toLower.toNat =
    if 65 ≤ c.toNat ∧ c.toNat ≤ 90 then c.toNat + 32 else c.toNat := by
  have range : (65 ≤ c.val ∧ c.val ≤ 90) ↔ 65 ≤ c.toNat ∧ c.toNat ≤ 90 := Iff.rfl
  unfold Char.toLower
  split
  · rename_i within
    obtain ⟨low, high⟩ := range.1 within
    rw [if_pos (range.1 within)]
    show (c.val + 32).toNat = _
    rw [UInt32.toNat_add]
    show (c.toNat + 32) % 4294967296 = _
    omega
  · rename_i outside
    rw [if_neg (mt range.2 outside)]

/-- What a capital letter is the same letter as, is made that letter in upper case. -/
theorem toUpper_eq_iff_sameLetter {c d : Char} (capital : d.isUpper = true) :
    c.toUpper = d ↔ SameLetter c d := by
  have range : 65 ≤ d.toNat ∧ d.toNat ≤ 90 := of_decide_eq_true capital
  simp only [SameLetter, ← Char.toNat_inj, toNat_toUpper, toNat_toLower]
  split <;> split <;> omega

theorem toUpper_eq_iff_sameLetters {text other : String}
    (capital : ∀ c ∈ other.toList, c.isUpper = true) :
    text.toUpper = other ↔ List.Forall₂ SameLetter text.toList other.toList := by
  rw [← String.toList_inj, toList_toUpper, ← List.forall₂_eq_eq_eq, List.forall₂_map_left_iff]
  generalize text.toList = letters
  generalize other.toList = capitals at *
  induction letters generalizing capitals with
  | nil => cases capitals <;> simp
  | cons c rest ih =>
    cases capitals with
    | nil => simp
    | cons d others =>
      obtain ⟨first, later⟩ := List.forall_mem_cons.1 capital
      rw [List.forall₂_cons, List.forall₂_cons, toUpper_eq_iff_sameLetter first, ih _ later]

end SchemaLedger
