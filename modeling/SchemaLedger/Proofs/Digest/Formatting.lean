import Mathlib.Data.List.Nodup
import SchemaLedger.Proofs.Digest.Faithful

namespace SchemaLedger

namespace Content

/-- One array anywhere inside is permuted, so that the canonical texts of its items come in another
order. -/
inductive Reordered : Content → Content → Prop
  | here {items others : List Content} (shuffled : items.Perm others)
    (changed : (items.map fun item => item.value.canonical) ≠
      others.map fun item => item.value.canonical) : Reordered (.array items) (.array others)
  | item {before after : List Content} {a b : Content} (inner : Reordered a b) :
    Reordered (.array (before ++ a :: after)) (.array (before ++ b :: after))
  | member {before after : List (String × Content)} {key : String} {a b : Content}
    (inner : Reordered a b) :
    Reordered (.object (before ++ (key, a) :: after)) (.object (before ++ (key, b) :: after))

variable {content other : Content} {room : Nat}

theorem Fits.within (fits : content.Fits room) (bounded : content.Bounded) :
    content.value.Within room := by
  induction fits with
  | null => exact .null
  | bool value => exact .bool value
  | number numeral =>
    obtain ⟨number, denotes⟩ := Option.isSome_iff_exists.1 bounded.number?
    rw [value, denotes]
    exact .number number
  | string value => exact .string value
  | array _ ih =>
    rw [value, itemValues_eq_map]
    exact .array (List.forall_mem_map.2 fun item isItem => ih item isItem (bounded.items item isItem))
  | object _ _ ih =>
    rw [value, memberValues_eq_map]
    refine .object (Table.ascending _) fun m isMember => ?_
    obtain ⟨source, isSource, rfl⟩ := List.mem_map.1 (Table.mem_of_mem_ofList isMember)
    exact ih source isSource (bounded.members source isSource)

/-- Permuting an array keeps to the limits. -/
theorem Reordered.keeps (reordered : Reordered content other) (fits : content.Fits room)
    (bounded : content.Bounded) : other.Fits room ∧ other.Bounded := by
  induction reordered generalizing room with
  | here shuffled _ =>
    cases fits with
    | array fit =>
      exact ⟨.array fun item isItem => fit item (shuffled.mem_iff.2 isItem),
        .array fun item isItem => bounded.items item (shuffled.mem_iff.2 isItem)⟩
  | item _ ih =>
    cases fits with
    | array fit =>
      have bound := bounded.items
      simp only [List.forall_mem_append, List.forall_mem_cons] at fit bound
      obtain ⟨fits, bounded⟩ := ih fit.2.1 bound.2.1
      constructor
      · refine .array ?_
        simp only [List.forall_mem_append, List.forall_mem_cons]
        exact ⟨fit.1, fits, fit.2.2⟩
      · refine .array ?_
        simp only [List.forall_mem_append, List.forall_mem_cons]
        exact ⟨bound.1, bounded, bound.2.2⟩
  | member _ ih =>
    cases fits with
    | object distinct fit =>
      have bound := bounded.members
      simp only [List.forall_mem_append, List.forall_mem_cons] at fit bound
      obtain ⟨fits, bounded⟩ := ih fit.2.1 bound.2.1
      constructor
      · refine .object (by simpa using distinct) ?_
        simp only [List.forall_mem_append, List.forall_mem_cons]
        exact ⟨fit.1, fits, fit.2.2⟩
      · refine .object ?_
        simp only [List.forall_mem_append, List.forall_mem_cons]
        exact ⟨bound.1, bounded, bound.2.2⟩

/-- A value whose items come in another order is another value. -/
theorem Reordered.not_alike (reordered : Reordered content other) (fits : content.Fits room) :
    ¬content.value.Alike other.value := by
  induction reordered generalizing room with
  | @here items others _ changed =>
    intro alike
    rw [value, value, itemValues_eq_map, itemValues_eq_map] at alike
    obtain ⟨pairs, first, second, each⟩ := alike.items
    replace second := Json.array.inj second
    have same := List.map_congr_left fun p isPair => (each p isPair).canonical_eq
    have texts := congrArg (List.map Json.canonical) first
    have others := congrArg (List.map Json.canonical) second
    simp only [List.map_map, Function.comp_def] at texts others
    exact changed (texts.trans (same.trans others.symm))
  | @item before after a b _ ih =>
    cases fits with
    | array fit =>
      intro alike
      rw [value, value, itemValues_eq_map, itemValues_eq_map] at alike
      obtain ⟨pairs, first, second, each⟩ := alike.items
      have isPair : (a.value, b.value) ∈ pairs := by
        rw [List.zip_of_prod first.symm (Json.array.inj second).symm]
        simp [List.zip_append]
      exact ih (fit a (by simp)) (each _ isPair)
  | @member before after key a b _ ih =>
    cases fits with
    | object distinct fit =>
      intro alike
      rw [value, value, memberValues_eq_map, memberValues_eq_map] at alike
      obtain ⟨members, first, second, each⟩ := alike.members
      have unique : (members.map (·.1)).Nodup := by
        have keys := congrArg (List.map Prod.fst) first
        rw [List.map_map] at keys
        exact keys ▸ Table.keys_nodup _
      have stands {c : Content} : (key, c.value) ∈ (Table.ofList ((before ++ (key, c) :: after).map
          fun m => (m.1, m.2.value))).entries := by
        rw [← Table.find?_eq_some_iff, Table.find?_ofList_eq_some_iff]
        · simp
        · simpa [Function.comp_def] using distinct
      have inFirst := stands (c := a)
      have inSecond := stands (c := b)
      rw [first] at inFirst
      rw [Json.object.inj second] at inSecond
      obtain ⟨m, isMember, atKey⟩ := List.mem_map.1 inFirst
      obtain ⟨m', isMember', atKey'⟩ := List.mem_map.1 inSecond
      have same : m = m' := List.inj_on_of_nodup_map unique isMember isMember'
        ((Prod.mk.inj atKey).1.trans (Prod.mk.inj atKey').1.symm)
      subst same
      have alike := each m isMember
      rw [(Prod.mk.inj atKey).2, (Prod.mk.inj atKey').2] at alike
      exact ih (fit (key, a) (by simp)) alike

end Content

/-- Texts that say the same have one canonical text, if what they say keeps to the limits. -/
theorem canonicalText?_of_written {content : Content} {text : String}
    (written : content.Written text.toList) (fits : content.Fits Json.nestingLimit)
    (bounded : content.Bounded) : canonicalText? text = some content.value.canonical := by
  have read := written.parse? fits bounded
  rw [String.ofList_toList] at read
  exact canonicalText?_of_parse? read

/-- A text with a number beyond the doubles anywhere in it is not read, whatever else it says, and
is digested as it stands. -/
theorem digestedText_of_unbounded {content : Content} {text : String}
    (written : content.Written text.toList) (unbounded : ¬content.Bounded) :
    canonicalText? text = none ∧ digestedText text = text := by
  have unread : canonicalText? text = none := by
    refine Option.map_eq_none_iff.2 (Option.eq_none_iff_forall_ne_some.2 fun json read => ?_)
    rw [← text.ofList_toList] at read
    exact unbounded (written.bounded_of_parse? read)
  exact ⟨unread, by rw [digestedText, unread, Option.getD_none]⟩

/-- However a value is written, with any white space, order of members and escapes, its fingerprint
is the same, as long as keys are distinct, nesting keeps to the limit and numbers lie within the
doubles. Permuting one array so that the canonical texts of its items come in another order changes
the canonical text. Where a number lies beyond the doubles, the text is digested as it stands. -/
theorem formatting_keeps_fingerprint {content : Content} (fits : content.Fits Json.nestingLimit)
    (bounded : content.Bounded) :
    (∀ a b : String, content.Written a.toList → content.Written b.toList →
      fingerprint a = fingerprint b) ∧
    (∀ other, content.Reordered other → ∀ a b : String, content.Written a.toList →
      other.Written b.toList → ∃ canonical canonical', canonicalText? a = some canonical ∧
        canonicalText? b = some canonical' ∧ canonical ≠ canonical') ∧
    ∀ beyond : Content, ¬beyond.Bounded → ∀ text : String, beyond.Written text.toList →
      canonicalText? text = none ∧ digestedText text = text := by
  refine ⟨?_, ?_, fun beyond unbounded text written =>
    digestedText_of_unbounded written unbounded⟩
  · intro a b writtenA writtenB
    simp only [fingerprint, digestedText, canonicalText?_of_written writtenA fits bounded,
      canonicalText?_of_written writtenB fits bounded, Option.getD_some]
  · intro other reordered a b writtenA writtenB
    obtain ⟨fits', bounded'⟩ := reordered.keeps fits bounded
    refine ⟨_, _, canonicalText?_of_written writtenA fits bounded,
      canonicalText?_of_written writtenB fits' bounded', fun same => ?_⟩
    exact reordered.not_alike fits
      ((fits.within bounded).alike_of_canonical_eq (fits'.within bounded') same)

namespace Content

/-- An object with a text and an array. -/
def pair (items : List Content) : Content := .object [("a", .string "x"), ("b", .array items)]

theorem fits_pair {items : List Content} (each : ∀ item ∈ items, item.Fits 125) :
    (pair items).Fits Json.nestingLimit :=
  .object (by simp)
    (List.forall_mem_cons.2 ⟨.string _, List.forall_mem_singleton.2 (.array each)⟩)

theorem bounded_pair {items : List Content} (each : ∀ item ∈ items, item.Bounded) :
    (pair items).Bounded :=
  .object (List.forall_mem_cons.2 ⟨.string _, List.forall_mem_singleton.2 (.array each)⟩)

theorem spelt_letter {c : Char} (printed : c ≠ '"' ∧ c ≠ '\\' ∧ 0x20 ≤ c.toNat) :
    Quoted.Spelt [c] [c] := .cons (.plain printed.1 printed.2.1 printed.2.2) .nil

theorem written_x : Written (.string "x") ['"', 'x', '"'] :=
  @Written.string "x" ['x'] (spelt_letter (by decide))

/-- The members in their order and without blanks. -/
theorem written_pair {items : List Content} {text : List Char}
    (written : Written (.array items) text) :
    (pair items).Written ("\x7b\"a\":\"x\",\"b\":".toList ++ text ++ ['\x7d']) := by
  have keys : ∀ m ∈ [⟨"a", ['a'], [], [], .string "x", ['"', 'x', '"']⟩,
      (⟨"b", ['b'], [], [], .array items, text⟩ : Member)], IsBlank m.before ∧
        Quoted.Spelt m.key.toList m.quoted ∧ IsBlank m.after := by
    simp only [List.forall_mem_cons]
    exact ⟨⟨by decide, spelt_letter (by decide), by decide⟩,
      ⟨by decide, spelt_letter (by decide), by decide⟩, List.forall_mem_nil _⟩
  have whole := Written.object keys
    (List.forall_mem_cons.2 ⟨written_x, List.forall_mem_singleton.2 written⟩) (.refl _)
  simpa [pair, Member.whole] using whole

/-- The members the other way round, with a blank and an escape in their keys. -/
theorem written_turned {items : List Content} {text : List Char}
    (written : Written (.array items) text) :
    (pair items).Written ("\x7b \"b\":".toList ++ text ++ ",\"\\u0061\":\"x\"\x7d".toList) := by
  have escaped : Quoted.Spelt ['a'] ['\\', 'u', '0', '0', '6', '1'] :=
    .cons (.unit (by decide) (.intro (.inl rfl) (.inl rfl) (.inl rfl) (.inl rfl))) .nil
  have keys : ∀ m ∈ [⟨"b", ['b'], [' '], [], .array items, text⟩,
      (⟨"a", ['\\', 'u', '0', '0', '6', '1'], [], [], .string "x", ['"', 'x', '"']⟩ : Member)],
        IsBlank m.before ∧ Quoted.Spelt m.key.toList m.quoted ∧ IsBlank m.after := by
    simp only [List.forall_mem_cons]
    exact ⟨⟨by decide, spelt_letter (by decide), by decide⟩, ⟨by decide, escaped, by decide⟩,
      List.forall_mem_nil _⟩
  have whole := Written.object keys
    (List.forall_mem_cons.2 ⟨written, List.forall_mem_singleton.2 written_x⟩) (.swap _ _ _)
  simpa [pair, Member.whole] using whole

end Content

theorem formatting_keeps_fingerprint_of_pair :
    fingerprint "\x7b\"a\":\"x\",\"b\":[true,null]\x7d" =
      fingerprint "\x7b \"b\":[true\t,null],\"\\u0061\":\"x\"\x7d" ∧
    canonicalText? "\x7b\"a\":\"x\",\"b\":[true,null]\x7d" ≠
      canonicalText? "\x7b\"a\":\"x\",\"b\":[null,true]\x7d" := by
  have fits : (Content.pair [.bool true, .null]).Fits Json.nestingLimit :=
    Content.fits_pair (List.forall_mem_cons.2 ⟨.bool _, List.forall_mem_singleton.2 .null⟩)
  have bounded : (Content.pair [.bool true, .null]).Bounded :=
    Content.bounded_pair (List.forall_mem_cons.2 ⟨.bool _, List.forall_mem_singleton.2 .null⟩)
  have parts : ∀ part ∈ [(Content.bool true, ['t', 'r', 'u', 'e']), (.null, ['n', 'u', 'l', 'l'])],
      part.1.Written part.2 :=
    List.forall_mem_cons.2 ⟨.bool true, List.forall_mem_singleton.2 .null⟩
  have tabbed : Content.Written (.bool true) ['t', 'r', 'u', 'e', '\t'] :=
    @Content.Written.padded _ [] _ ['\t'] (by decide) (.bool true) (by decide)
  have spaced : ∀ part ∈ [(Content.bool true, ['t', 'r', 'u', 'e', '\t']),
      (.null, ['n', 'u', 'l', 'l'])], part.1.Written part.2 :=
    List.forall_mem_cons.2 ⟨tabbed, List.forall_mem_singleton.2 .null⟩
  have turned : ∀ part ∈ [(Content.null, ['n', 'u', 'l', 'l']), (.bool true, ['t', 'r', 'u', 'e'])],
      part.1.Written part.2 :=
    List.forall_mem_cons.2 ⟨.null, List.forall_mem_singleton.2 (.bool true)⟩
  have plain : (Content.pair [.bool true, .null]).Written
      "\x7b\"a\":\"x\",\"b\":[true,null]\x7d".toList := Content.written_pair (.array parts)
  have reordered :
      (Content.pair [.bool true, .null]).Reordered (Content.pair [.null, .bool true]) := by
    have here : Content.Reordered (.array [.bool true, .null]) (.array [.null, .bool true]) :=
      .here (.swap _ _ _) (by decide +kernel)
    exact @Content.Reordered.member [("a", .string "x")] [] _ _ _ here
  obtain ⟨same, changed, -⟩ := formatting_keeps_fingerprint fits bounded
  obtain ⟨_, _, readA, readB, different⟩ := changed _ reordered _
    "\x7b\"a\":\"x\",\"b\":[null,true]\x7d" plain (Content.written_pair (.array turned))
  refine ⟨same _ _ plain (Content.written_turned (.array spaced)), ?_⟩
  rw [readA, readB]
  exact fun equal => different (Option.some.inj equal)

/-- A number beyond the doubles is not read, so the white space around it is digested with it. -/
theorem formatting_shows_beyond_doubles :
    let content := Content.number ⟨false, ['1'], none, some (false, ['9', '9', '9'])⟩
    content.Fits Json.nestingLimit ∧ content.Written "1e999".toList ∧
      content.Written " 1e999".toList ∧ fingerprint "1e999" ≠ fingerprint " 1e999" := by
  have spelt : Numeral.Spelt ⟨false, ['1'], none, some (false, ['9', '9', '9'])⟩
      ['1', 'e', '9', '9', '9'] :=
    @Numeral.Spelt.intro false _ _ _ _ (by decide) (by decide) (by simp)
      (.unsigned (.inl rfl) (by decide))
  have blank : IsBlank [' '] := by decide
  exact ⟨.number _, .number spelt, .padded blank (.number spelt) (List.forall_mem_nil _),
    by decide +kernel⟩

end SchemaLedger
