import Mathlib.Data.List.Infix
import SchemaLedger.Text.Path

namespace SchemaLedger

section Split

variable {α : Type} {separates : α → Bool} {list piece first : List α} {others : List (List α)}

theorem splitAtEach_ne_nil (separates : α → Bool) (list : List α) :
    splitAtEach separates list ≠ [] := by
  cases list with
  | nil => exact List.cons_ne_nil _ _
  | cons c rest =>
    rw [splitAtEach]
    split
    · exact List.cons_ne_nil _ _
    · split <;> exact List.cons_ne_nil _ _

theorem splitAtEach_cons_of_not {c : α} {rest : List α} (plain : separates c = false)
    (cut : splitAtEach separates rest = first :: others) :
    splitAtEach separates (c :: rest) = (c :: first) :: others := by
  rw [splitAtEach, if_neg (by simp [plain]), cut]

theorem not_mem_of_splitAtEach (found : piece ∈ splitAtEach separates list) {a : α}
    (mark : separates a = true) : a ∉ piece := by
  induction list generalizing piece with
  | nil =>
    obtain rfl := List.mem_singleton.1 found
    exact List.not_mem_nil
  | cons b list ih =>
    cases other : separates b with
    | true =>
      rw [splitAtEach, if_pos other] at found
      rcases List.mem_cons.1 found with rfl | later
      · exact List.not_mem_nil
      · exact ih later
    | false =>
      obtain ⟨first, others, cut⟩ := List.exists_cons_of_ne_nil (splitAtEach_ne_nil separates list)
      rw [splitAtEach_cons_of_not other cut] at found
      rcases List.mem_cons.1 found with rfl | later
      · intro inside
        rcases List.mem_cons.1 inside with rfl | deeper
        · simp [other] at mark
        · exact ih (cut ▸ List.mem_cons_self) deeper
      · exact ih (cut ▸ List.mem_cons_of_mem _ later)

/-- The first piece stands at the front. -/
theorem prefix_of_splitAtEach (cut : splitAtEach separates list = first :: others) :
    first <+: list := by
  induction list generalizing first others with
  | nil =>
    cases cut
    exact List.prefix_refl _
  | cons c rest ih =>
    cases plain : separates c with
    | true =>
      rw [splitAtEach, if_pos plain] at cut
      cases cut
      exact List.nil_prefix
    | false =>
      obtain ⟨front, back, inner⟩ := List.exists_cons_of_ne_nil (splitAtEach_ne_nil separates rest)
      rw [splitAtEach_cons_of_not plain inner] at cut
      cases cut
      exact List.cons_prefix_cons.2 ⟨rfl, ih inner⟩

theorem infix_of_mem_splitAtEach (isPiece : piece ∈ splitAtEach separates list) :
    piece <:+: list := by
  induction list generalizing piece with
  | nil => exact List.mem_singleton.1 isPiece ▸ List.infix_refl _
  | cons c rest ih =>
    cases plain : separates c with
    | true =>
      rw [splitAtEach, if_pos plain] at isPiece
      rcases List.mem_cons.1 isPiece with rfl | later
      · exact List.nil_infix
      · exact List.infix_cons (ih later)
    | false =>
      obtain ⟨front, back, inner⟩ := List.exists_cons_of_ne_nil (splitAtEach_ne_nil separates rest)
      rw [splitAtEach_cons_of_not plain inner] at isPiece
      rcases List.mem_cons.1 isPiece with rfl | later
      · exact (List.cons_prefix_cons.2 ⟨rfl, prefix_of_splitAtEach inner⟩).isInfix
      · exact List.infix_cons (ih (inner ▸ List.mem_cons_of_mem _ later))

/-- What stands at the front without a separator stands at the front of the first piece. -/
theorem prefix_first_of_front (cut : splitAtEach separates list = first :: others)
    (front : piece <+: list) (plain : ∀ a ∈ piece, separates a = false) : piece <+: first := by
  induction list generalizing piece first others with
  | nil =>
    rw [List.prefix_nil.1 front]
    exact List.nil_prefix
  | cons c rest ih =>
    cases piece with
    | nil => exact List.nil_prefix
    | cons d piece =>
      obtain ⟨rfl, behind⟩ := List.cons_prefix_cons.1 front
      obtain ⟨head, tail⟩ := List.forall_mem_cons.1 plain
      obtain ⟨start, back, inner⟩ := List.exists_cons_of_ne_nil (splitAtEach_ne_nil separates rest)
      rw [splitAtEach_cons_of_not head inner] at cut
      cases cut
      exact List.cons_prefix_cons.2 ⟨rfl, ih inner behind tail⟩

/-- Any stretch without a separator stands in one piece. -/
theorem exists_piece_around (inside : piece <:+: list) (plain : ∀ a ∈ piece, separates a = false) :
    ∃ whole ∈ splitAtEach separates list, piece <:+: whole := by
  induction list with
  | nil => exact ⟨[], List.mem_singleton_self _, inside⟩
  | cons c rest ih =>
    obtain ⟨first, others, cut⟩ :=
      List.exists_cons_of_ne_nil (splitAtEach_ne_nil separates (c :: rest))
    rcases List.infix_cons_iff.1 inside with front | later
    · exact ⟨first, cut ▸ List.mem_cons_self, (prefix_first_of_front cut front plain).isInfix⟩
    · obtain ⟨whole, isPiece, within⟩ := ih later
      cases mark : separates c with
      | true =>
        rw [splitAtEach, if_pos mark]
        exact ⟨whole, List.mem_cons_of_mem _ isPiece, within⟩
      | false =>
        obtain ⟨front, back, inner⟩ :=
          List.exists_cons_of_ne_nil (splitAtEach_ne_nil separates rest)
        rw [splitAtEach_cons_of_not mark inner]
        rw [inner] at isPiece
        rcases List.mem_cons.1 isPiece with rfl | behind
        · exact ⟨c :: whole, List.mem_cons_self, List.infix_cons within⟩
        · exact ⟨whole, List.mem_cons_of_mem _ behind, within⟩

end Split

theorem utf8ByteSize_le_of_inside {inner outer : List Char} (inside : inner <:+: outer) :
    (String.ofList inner).utf8ByteSize ≤ (String.ofList outer).utf8ByteSize := by
  obtain ⟨before, after, rfl⟩ := inside
  rw [String.ofList_append, String.ofList_append, String.utf8ByteSize_append,
    String.utf8ByteSize_append]
  omega

namespace Path

variable {limits : Limits} {path component : String}

theorem mem_components_of_piece {piece : List Char}
    (isPiece : piece ∈ splitAtEach (· == '/') path.toList) (some : String.ofList piece ≠ "")
    (name : String.ofList piece ≠ ".") : String.ofList piece ∈ components path := by
  have named : String.ofList piece ∈
      ((splitAtEach (· == '/') path.toList).map String.ofList).filter
        fun p => p ≠ "" && p ≠ "." := by
    refine List.mem_filter.2 ⟨List.mem_map.2 ⟨piece, isPiece, rfl⟩, ?_⟩
    simp [some, name]
  rw [components]
  split
  · exact List.mem_cons_of_mem _ named
  · exact List.mem_cons_of_mem _ named
  · exact named

theorem piece_of_mem_components (isComponent : component ∈ components path) :
    component = "/" ∨ component = "." ∨
      ∃ piece ∈ splitAtEach (· == '/') path.toList, component = String.ofList piece := by
  have ofNamed (named : component ∈
      ((splitAtEach (· == '/') path.toList).map String.ofList).filter fun p => p ≠ "" && p ≠ ".") :
      ∃ piece ∈ splitAtEach (· == '/') path.toList, component = String.ofList piece := by
    obtain ⟨piece, isPiece, rfl⟩ := List.mem_map.1 (List.mem_filter.1 named).1
    exact ⟨piece, isPiece, rfl⟩
  rw [components] at isComponent
  split at isComponent
  · rcases List.mem_cons.1 isComponent with rfl | named
    · exact .inl rfl
    · exact .inr (.inr (ofNamed named))
  · rcases List.mem_cons.1 isComponent with rfl | named
    · exact .inr (.inl rfl)
    · exact .inr (.inr (ofNamed named))
  · exact .inr (.inr (ofNamed isComponent))

/-- Neither a path nor what stands in it from one slash to the next has too many bytes. -/
structure Within (limits : Limits) (path : String) : Prop where
  whole : path.utf8ByteSize ≤ limits.whole
  between : ∀ stretch, stretch <:+: path.toList → '/' ∉ stretch →
    (String.ofList stretch).utf8ByteSize ≤ limits.component

/-- A path of at most 4096 bytes, with at most 255 from one slash to the next. -/
def Short (path : String) : Prop := Within ⟨4096, 255⟩ path

/-- Components that are no stretch of the path have one byte. -/
theorem components_within_iff (some : 1 ≤ limits.component) :
    (∀ component ∈ components path, length component ≤ limits.component) ↔
    ∀ stretch, stretch <:+: path.toList → '/' ∉ stretch →
      (String.ofList stretch).utf8ByteSize ≤ limits.component := by
  constructor
  · intro short stretch inside plain
    have marks : ∀ c ∈ stretch, (c == '/') = false := fun c member =>
      beq_eq_false_iff_ne.2 fun isSlash => plain (isSlash ▸ member)
    obtain ⟨piece, isPiece, within⟩ := exists_piece_around inside marks
    have bound := utf8ByteSize_le_of_inside within
    by_cases empty : String.ofList piece = ""
    · rw [empty] at bound
      exact Nat.le_trans bound (Nat.zero_le _)
    by_cases dot : String.ofList piece = "."
    · rw [dot] at bound
      exact Nat.le_trans bound some
    exact Nat.le_trans bound (short _ (mem_components_of_piece isPiece empty dot))
  · intro short component isComponent
    rcases piece_of_mem_components isComponent with rfl | rfl | ⟨piece, isPiece, rfl⟩
    · exact some
    · exact some
    · exact short piece (infix_of_mem_splitAtEach isPiece)
        (not_mem_of_splitAtEach isPiece (by decide))

/-- The whole is looked at before its parts, and nothing else is. -/
theorem fault?_eq_none_iff (some : 1 ≤ limits.component) :
    fault? limits path = none ↔ Within limits path := by
  rw [fault?]
  split
  · rename_i long
    exact ⟨nofun, fun short => absurd long (Nat.not_lt.2 short.whole)⟩
  · rename_i whole
    split
    · rename_i long
      obtain ⟨component, isComponent, exceeds⟩ := List.any_eq_true.1 long
      refine ⟨nofun, fun short => ?_⟩
      have bound := (components_within_iff some).2 short.between component isComponent
      exact absurd (of_decide_eq_true exceeds) (Nat.not_lt.2 bound)
    · rename_i parts
      refine ⟨fun _ => ⟨Nat.not_lt.1 whole,
        (components_within_iff some).1 fun component isComponent => ?_⟩, fun _ => rfl⟩
      by_contra exceeds
      exact parts (List.any_eq_true.2
        ⟨component, isComponent, decide_eq_true (Nat.lt_of_not_le exceeds)⟩)

end Path

end SchemaLedger
