import Mathlib.Data.List.DropRight
import SchemaLedger.Proofs.Text.Search
import SchemaLedger.Url.Url

namespace SchemaLedger

/-- What is cut off behind does not reach into what stays. -/
theorem rdropWhile_append_of_forall {α : Type} {drops : α → Bool} {front : List α}
    (stays : ∀ c ∈ front, drops c = false) (back : List α) :
    (front ++ back).rdropWhile drops = front ++ back.rdropWhile drops := by
  induction back using List.reverseRecOn with
  | nil =>
    rw [List.append_nil, List.rdropWhile_nil, List.append_nil, List.rdropWhile_eq_self_iff]
    intro some
    rw [stays _ (List.getLast_mem some)]
    exact Bool.false_ne_true
  | append_singleton back c ih =>
    rw [← List.append_assoc]
    by_cases dropped : drops c = true
    · rw [List.rdropWhile_concat_pos _ _ _ dropped, List.rdropWhile_concat_pos _ _ _ dropped, ih]
    · rw [List.rdropWhile_concat_neg _ _ _ dropped, List.rdropWhile_concat_neg _ _ _ dropped,
        List.append_assoc]

namespace Url

variable {text word : String}

/-- A beginning without blanks and controls is still there after cleaning. -/
theorem clean_of_startsWith (begins : startsWith word text = true) (some : word ≠ "")
    (plain : word.toList.all (fun c => 0x20 < c.toNat) = true) :
    ∃ rest, clean text = word.toList ++ rest := by
  obtain ⟨behind, whole⟩ := List.isPrefixOf_iff_prefix.1 begins
  have above (c : Char) (member : c ∈ word.toList) : 0x20 < c.toNat :=
    of_decide_eq_true (List.all_eq_true.1 plain c member)
  let isEdge (c : Char) : Bool := c.toNat ≤ 0x20
  have stays : ∀ c ∈ word.toList, isEdge c = false := fun c member =>
    decide_eq_false (Nat.not_le.2 (above c member))
  have kept : word.toList.filter (fun c => !isIgnored c) = word.toList := by
    refine List.filter_eq_self.2 fun c member => ?_
    have other (mark : Char) (low : mark.toNat ≤ 0x20) : (c == mark) = false :=
      beq_eq_false_iff_ne.2 fun same => absurd (above c member) (Nat.not_lt.2 (same ▸ low))
    rw [isIgnored, other '\t' (by decide), other '\n' (by decide), other '\r' (by decide)]
    rfl
  have front : text.toList.dropWhile isEdge = word.toList ++ behind := by
    obtain ⟨first, others, letters⟩ :=
      List.exists_cons_of_ne_nil fun nothing => some (String.toList_eq_nil_iff.1 nothing)
    rw [letters] at stays whole ⊢
    rw [← whole]
    exact List.dropWhile_cons_of_neg (by simp [stays first List.mem_cons_self])
  refine ⟨(behind.rdropWhile isEdge).filter fun c => !isIgnored c, ?_⟩
  have cleaned : clean text =
      ((text.toList.dropWhile isEdge).rdropWhile isEdge).filter fun c => !isIgnored c := rfl
  rw [cleaned, front, rdropWhile_append_of_forall stays, List.filter_append, kept]

/-- A row of small letters in front of a colon is a scheme. -/
theorem scheme?_append_colon {first : Char} {letters : List Char}
    (small : (first :: letters).all (fun c => c.isAlpha && c.toLower == c) = true)
    (rest : List Char) :
    scheme? (first :: letters ++ ':' :: rest) = some (String.ofList (first :: letters), rest) := by
  have letter (c : Char) (member : c ∈ first :: letters) : c.isAlpha = true ∧ c.toLower = c := by
    simpa using List.all_eq_true.1 small c member
  let isMark (c : Char) : Bool := c.isAlphanum || c == '+' || c == '-' || c == '.'
  have marks : ∀ c ∈ first :: letters, isMark c = true := fun c member => by
    simp [isMark, Char.isAlphanum, (letter c member).1]
  have taken : (first :: letters ++ ':' :: rest).takeWhile isMark = first :: letters := by
    rw [List.takeWhile_append_of_pos marks]
    simp [isMark]
  have left : (first :: letters ++ ':' :: rest).dropWhile isMark = ':' :: rest := by
    rw [List.dropWhile_append_of_pos marks]
    simp [isMark]
  have lower : (String.ofList (first :: letters)).toLower = String.ofList (first :: letters) := by
    rw [← String.toList_inj, toList_toLower, String.toList_ofList]
    exact (List.map_congr_left fun c member => (letter c member).2).trans (List.map_id _)
  rw [scheme?, taken, left, lower]
  exact if_pos (letter first List.mem_cons_self).1

/-- Where an address of the web begins like one, it is one or it is unreadable. -/
theorem parse_of_startsWith (begins : startsWith "http://" text = true ∨
    startsWith "https://" text = true) :
    (∃ url, parse text = .ok url) ∨ parse text = .error .unreadable := by
  have found : ∃ scheme rest, scheme? (clean text) = some (scheme, rest) ∧
      (scheme = "http" ∨ scheme = "https") := by
    rcases begins with plain | secure
    · obtain ⟨rest, cleaned⟩ := clean_of_startsWith plain (by decide) (by decide)
      have small : ('h' :: ['t', 't', 'p']).all (fun c => c.isAlpha && c.toLower == c) = true := by
        decide
      rw [cleaned]
      exact ⟨_, _, scheme?_append_colon small ('/' :: '/' :: rest), .inl (by decide)⟩
    · obtain ⟨rest, cleaned⟩ := clean_of_startsWith secure (by decide) (by decide)
      have small : ('h' :: ['t', 't', 'p', 's']).all
          (fun c => c.isAlpha && c.toLower == c) = true := by
        decide
      rw [cleaned]
      exact ⟨_, _, scheme?_append_colon small ('/' :: '/' :: rest), .inr (by decide)⟩
  obtain ⟨scheme, rest, isScheme, web⟩ := found
  rw [parse, isScheme]
  dsimp only
  rw [if_pos web]
  cases special? scheme rest with
  | none => exact .inr rfl
  | some url => exact .inl ⟨url, rfl⟩

end Url

end SchemaLedger
