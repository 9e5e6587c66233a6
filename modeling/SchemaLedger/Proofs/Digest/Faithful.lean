import SchemaLedger.Digest.Fingerprint
import SchemaLedger.Proofs.Json.Canonical
import SchemaLedger.Proofs.Text.Utf8

namespace SchemaLedger

variable {body text : String} {value : Json}

theorem Json.within_of_parse? (read : Json.parse? body = some value) :
    value.Within Json.nestingLimit := by
  obtain ⟨document, -, isValue⟩ := Option.bind_eq_some_iff.1 read
  exact document.within isValue

theorem canonicalText?_of_parse? (read : Json.parse? body = some value) :
    canonicalText? body = some value.canonical := by
  rw [canonicalText?, read, Option.map_some]

theorem digestedText_of_parse? (read : Json.parse? body = some value) :
    digestedText body = value.canonical := by
  rw [digestedText, canonicalText?_of_parse? read, Option.getD_some]

theorem digestedText_of_unread (unread : Json.parse? body = none) : digestedText body = body := by
  rw [digestedText, canonicalText?, unread, Option.map_none, Option.getD_none]

/-- Canonical text is JSON with one spelling of each value. -/
theorem canonicalText?_canonical (read : Json.parse? body = some value) :
    ∃ again, Json.parse? value.canonical = some again ∧ again.Alike value ∧
      canonicalText? value.canonical = some value.canonical := by
  have within := Json.within_of_parse? read
  refine ⟨_, within.parse?_canonical, within.alike, ?_⟩
  rw [canonicalText?_of_parse? within.parse?_canonical, within.alike.canonical_eq]

/-- A body that holds no value is no canonical text. -/
theorem canonical_ne_of_unread {other : String} (read : Json.parse? body = some value)
    (unread : Json.parse? other = none) : value.canonical ≠ other := by
  rintro rfl
  obtain ⟨_, reads, -⟩ := canonicalText?_canonical read
  rw [unread] at reads
  cases reads

/-- The canonical text of a body is read as the value of the body but for the spelling of numbers,
and is its own canonical text. Bodies are digested alike when they hold the same value but for that
spelling, or when they are the same body that holds none. -/
theorem canonical_text_is_faithful :
    (∀ body value, Json.parse? body = some value → ∃ text again,
      canonicalText? body = some text ∧ Json.parse? text = some again ∧ again.Alike value ∧
        canonicalText? text = some text ∧ fingerprint text = fingerprint body) ∧
    (∀ a b, Utf8.encode (digestedText a) = Utf8.encode (digestedText b) ↔
      (∃ v w, Json.parse? a = some v ∧ Json.parse? b = some w ∧ v.Alike w) ∨
        (Json.parse? a = none ∧ Json.parse? b = none ∧ a = b)) := by
  constructor
  · intro body value read
    obtain ⟨again, reads, alike, fixed⟩ := canonicalText?_canonical read
    refine ⟨_, again, canonicalText?_of_parse? read, reads, alike, fixed, ?_⟩
    rw [fingerprint, fingerprint, digestedText_of_parse? read, digestedText, fixed, Option.getD_some]
  · intro a b
    constructor
    · intro bytes
      have same := Utf8.encode_injective bytes
      cases readA : Json.parse? a with
      | some v =>
        rw [digestedText_of_parse? readA] at same
        cases readB : Json.parse? b with
        | some w =>
          rw [digestedText_of_parse? readB] at same
          exact .inl ⟨v, w, rfl, rfl, (Json.within_of_parse? readA).alike_of_canonical_eq
            (Json.within_of_parse? readB) same⟩
        | none =>
          rw [digestedText_of_unread readB] at same
          exact absurd same (canonical_ne_of_unread readA readB)
      | none =>
        rw [digestedText_of_unread readA] at same
        cases readB : Json.parse? b with
        | some w =>
          rw [digestedText_of_parse? readB] at same
          exact absurd same.symm (canonical_ne_of_unread readB readA)
        | none =>
          rw [digestedText_of_unread readB] at same
          exact .inr ⟨rfl, rfl, same⟩
    · rintro (⟨v, w, readA, readB, alike⟩ | ⟨-, -, rfl⟩)
      · rw [digestedText_of_parse? readA, digestedText_of_parse? readB, alike.canonical_eq]
      · rfl

end SchemaLedger
