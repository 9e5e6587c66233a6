import SchemaLedger.Proofs.Text.Utf8
import SchemaLedger.Url.Percent

namespace SchemaLedger.Percent

/-- A digit of an encoded byte. -/
def digit (n : Nat) : Char := (Nat.digitChar n).toUpper

theorem encodeByte_eq (b : UInt8) :
    encodeByte b = ['%', digit (b.toNat / 16), digit (b.toNat % 16)] :=
  rfl

theorem value?_digit : ∀ n < 16, Hex.value? (digit n) = some n := by
  decide

theorem decode_encodeByte (b : UInt8) (rest : List Char) :
    decode (encodeByte b ++ rest) = b :: decode rest := by
  have bound := b.toNat_lt
  have read : Hex.number? [digit (b.toNat / 16), digit (b.toNat % 16)] = some b.toNat := by
    have high := value?_digit (b.toNat / 16) (by omega)
    have low := value?_digit (b.toNat % 16) (by omega)
    have whole : b.toNat / 16 * 16 + b.toNat % 16 = b.toNat := by omega
    simp [Hex.number?, high, low, whole]
  rw [encodeByte_eq, List.cons_append, List.cons_append, List.cons_append, List.nil_append,
    decode, read]
  exact congrArg (· :: decode rest) (UInt8.ofNat_toNat)

theorem decode_encodeBytes (bytes : List UInt8) (rest : List Char) :
    decode (bytes.flatMap encodeByte ++ rest) = bytes ++ decode rest := by
  induction bytes with
  | nil => rfl
  | cons b bytes ih =>
    rw [List.flatMap_cons, List.append_assoc, decode_encodeByte, ih, List.cons_append]

variable {encoded : Char → Bool}

theorem decode_encodeChar (sign : encoded '%' = true) (c : Char) (rest : List Char) :
    decode (encodeChar encoded c ++ rest) = Utf8.encode (String.singleton c) ++ decode rest := by
  rw [encodeChar]
  split
  case isTrue plain =>
    have notSign : c ≠ '%' := by
      rintro rfl
      simp [sign] at plain
    rw [List.singleton_append, decode]
    exact fun _ _ _ isSign => absurd isSign notSign
  case isFalse => exact decode_encodeBytes _ rest

/-- What was encoded is read back as the bytes of the text. -/
theorem decode_encode (sign : encoded '%' = true) (text : List Char) :
    decode (encode encoded text) = Utf8.encode (String.ofList text) := by
  induction text with
  | nil => rw [encode, List.flatMap_nil, decode, String.ofList_nil, Utf8.encode_empty]
  | cons c text ih =>
    rw [encode, List.flatMap_cons, decode_encodeChar sign, ← encode, ih, ← Utf8.encode_append,
      ← String.ofList_cons]

theorem encode_injective (sign : encoded '%' = true) {a b : List Char}
    (same : encode encoded a = encode encoded b) : a = b := by
  have bytes := congrArg decode same
  rw [decode_encode sign, decode_encode sign] at bytes
  exact String.ofList_injective (Utf8.encode_injective bytes)

theorem encode_of_free {text : List Char}
    (free : ∀ c ∈ text, c.toNat < 0x80 ∧ encoded c = false) : encode encoded text = text := by
  induction text with
  | nil => rfl
  | cons c text ih =>
    have kept : encodeChar encoded c = [c] := by
      rw [encodeChar, if_pos]
      simpa using free c List.mem_cons_self
    rw [encode, List.flatMap_cons, kept, ← encode,
      ih fun c member => free c (List.mem_cons_of_mem _ member), List.singleton_append]

/-- A mark that is none of the percent sign and the digits shows up in an encoded text only where
it stands in the text and is not encoded. -/
theorem not_mem_encode {mark : Char} (noSign : mark ≠ '%') (noDigit : ∀ n < 16, mark ≠ digit n)
    {text : List Char} (free : mark ∈ text → encoded mark = true) :
    mark ∉ encode encoded text := by
  intro found
  obtain ⟨c, present, shown⟩ := List.mem_flatMap.1 found
  rw [encodeChar] at shown
  split at shown
  case isTrue plain =>
    obtain rfl := List.mem_singleton.1 shown
    simp [free present] at plain
  case isFalse =>
    obtain ⟨b, -, inByte⟩ := List.mem_flatMap.1 shown
    have bound := b.toNat_lt
    rw [encodeByte_eq] at inByte
    rcases List.mem_cons.1 inByte with isSign | inDigits
    · exact noSign isSign
    rcases List.mem_cons.1 inDigits with isDigit | last
    · exact noDigit _ (by omega) isDigit
    · exact noDigit _ (by omega) (List.mem_singleton.1 last)

end SchemaLedger.Percent
