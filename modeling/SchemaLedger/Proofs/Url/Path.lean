import SchemaLedger.Proofs.Text.Path
import SchemaLedger.Proofs.Url.Percent
import SchemaLedger.Url.Url

namespace SchemaLedger

namespace Url

/-- Segments as they are written, a slash in front of each. -/
def pathText (segments : List (List Char)) : List Char :=
  segments.flatMap fun segment => '/' :: segment

@[simp] theorem pathText_nil : pathText [] = [] :=
  rfl

@[simp] theorem pathText_cons (segment : List Char) (rest : List (List Char)) :
    pathText (segment :: rest) = '/' :: (segment ++ pathText rest) :=
  rfl

@[simp] theorem pathText_append (front back : List (List Char)) :
    pathText (front ++ back) = pathText front ++ pathText back :=
  List.flatMap_append

/-- One segment holds none of the marks that end one. -/
def IsOneSegment (segment : List Char) : Prop :=
  ∀ mark ∈ ['/', '\\', '?', '#'], mark ∉ segment

/-- Segments can be told from the text of a path, also where a query follows it. -/
theorem pathText_append_inj {a b : List (List Char)} {x y : List Char}
    (clearA : ∀ segment ∈ a, IsOneSegment segment) (clearB : ∀ segment ∈ b, IsOneSegment segment)
    (queryX : x = [] ∨ ∃ rest, x = '?' :: rest) (queryY : y = [] ∨ ∃ rest, y = '?' :: rest)
    (same : pathText a ++ x = pathText b ++ y) : a = b := by
  -- what stands behind a segment is nothing, a slash or a question mark
  let ends (c : Char) : Bool := c != '/' && c != '?'
  have cut (segment : List Char) (rest : List (List Char)) (tail : List Char)
      (clear : IsOneSegment segment) (query : tail = [] ∨ ∃ rest, tail = '?' :: rest) :
      (segment ++ (pathText rest ++ tail)).takeWhile ends = segment := by
    have inside : ∀ c ∈ segment, ends c = true := by
      intro c present
      have notSlash : c ≠ '/' := fun isSlash =>
        clear '/' (by decide) (isSlash ▸ present)
      have notMark : c ≠ '?' := fun isMark =>
        clear '?' (by decide) (isMark ▸ present)
      simp [ends, notSlash, notMark]
    rw [List.takeWhile_append_of_pos inside]
    suffices behind : (pathText rest ++ tail).takeWhile ends = [] by rw [behind, List.append_nil]
    cases rest with
    | nil => rcases query with rfl | ⟨_, rfl⟩ <;> simp [ends]
    | cons => simp [ends]
  induction a generalizing b with
  | nil =>
    cases b with
    | nil => rfl
    | cons segment rest => rcases queryX with rfl | ⟨_, rfl⟩ <;> simp at same
  | cons segment rest ih =>
    cases b with
    | nil => rcases queryY with rfl | ⟨_, rfl⟩ <;> simp at same
    | cons segment' rest' =>
      simp only [pathText_cons, List.cons_append, List.append_assoc, List.cons.injEq,
        true_and] at same
      have heads := congrArg (List.takeWhile ends) same
      rw [cut _ _ _ (clearA _ List.mem_cons_self) queryX,
        cut _ _ _ (clearB _ List.mem_cons_self) queryY] at heads
      subst heads
      rw [ih (fun _ member => clearA _ (List.mem_cons_of_mem _ member))
        (fun _ member => clearB _ (List.mem_cons_of_mem _ member)) (List.append_cancel_left same)]

theorem renderPath_eq (url : Url) : url.renderPath = pathText url.path :=
  rfl

/-- What requests below an address begin with: its path without one slash at the end. Of a path that
is nothing but two slashes neither stays. -/
def stem (base : Url) : List Char :=
  if base.renderPath = ['/', '/'] then []
  else if base.renderPath.getLast? = some '/' then base.renderPath.dropLast
  else base.renderPath

/-- The segments that others are put behind. A path of one empty segment gives way. -/
def opened (path : List (List Char)) : List (List Char) :=
  if path = [[]] then [] else path

theorem length_opened_le (path : List (List Char)) :
    (pathText (opened path)).length ≤ (pathText path).length := by
  rw [opened]
  split
  · exact Nat.zero_le _
  · exact Nat.le_refl _

theorem pathText_opened {base : Url} (clear : ∀ segment ∈ base.path, '/' ∉ segment) :
    pathText (opened (withoutLastSlash base.path)) = base.stem := by
  have text : base.renderPath = pathText base.path := rfl
  rcases List.eq_nil_or_concat base.path with none | ⟨front, last, path⟩
  · simp [stem, text, none, opened, withoutLastSlash]
  rw [List.concat_eq_append] at path
  by_cases ended : last = []
  · subst ended
    by_cases bare : front = []
    · simp [stem, text, path, bare, opened, withoutLastSlash]
    · have shortened : withoutLastSlash base.path = front := by
        simp [withoutLastSlash, path, bare]
      have written : base.renderPath = pathText front ++ ['/'] := by simp [text, path]
      rw [shortened, stem, written, opened]
      -- two slashes are all there is exactly when the front is one empty segment
      have twoSlashes : pathText front ++ ['/'] = ['/', '/'] ↔ front = [[]] := by
        rw [show ['/', '/'] = ['/'] ++ ['/'] from rfl, List.append_left_inj]
        rcases front with _ | ⟨first, _ | ⟨second, more⟩⟩ <;> simp
      simp only [twoSlashes]
      split
      · rfl
      · simp
  · obtain ⟨init, c, rfl⟩ : ∃ init c, last = init ++ [c] :=
      ⟨_, _, (List.dropLast_append_getLast ended).symm⟩
    have notSlash : c ≠ '/' := by
      rintro rfl
      exact clear (init ++ ['/']) (by simp [path]) (by simp)
    have written : base.renderPath = pathText front ++ '/' :: init ++ [c] := by
      simp [text, path]
    have kept : withoutLastSlash base.path = base.path := by
      simp [withoutLastSlash, path]
    have isOpen : opened base.path = base.path := by
      rw [opened, if_neg]
      rw [path]
      rcases front with _ | ⟨first, more⟩ <;> simp
    have notTwo : base.renderPath ≠ ['/', '/'] := by
      intro two
      have lastOfTwo := congrArg List.getLast? two
      rw [written, List.getLast?_concat] at lastOfTwo
      exact notSlash (Option.some.inj lastOfTwo)
    have notEnded : base.renderPath.getLast? ≠ some '/' := by
      rw [written, List.getLast?_concat]
      exact fun ended => notSlash (Option.some.inj ended)
    rw [kept, isOpen, stem, if_neg notTwo, if_neg notEnded, text]

theorem clear_walk {before segments : List (List Char)} (clearBefore : ∀ s ∈ before, '/' ∉ s)
    (clear : ∀ s ∈ segments, '/' ∉ s) : ∀ s ∈ walk before segments, '/' ∉ s := by
  induction segments generalizing before with
  | nil => exact clearBefore
  | cons segment rest ih =>
    have clearRest : ∀ s ∈ rest, '/' ∉ s := fun s member => clear s (List.mem_cons_of_mem _ member)
    have dropped : ∀ s ∈ before.dropLast, '/' ∉ s := fun s member =>
      clearBefore s (List.dropLast_subset _ member)
    have behind (path : List (List Char)) (last : List Char) (clearPath : ∀ s ∈ path, '/' ∉ s)
        (clearLast : '/' ∉ last) : ∀ s ∈ path ++ [last], '/' ∉ s := by
      intro s member
      rcases List.mem_append.1 member with inPath | isLast
      · exact clearPath s inPath
      · exact List.mem_singleton.1 isLast ▸ clearLast
    rw [walk]
    split
    · refine ih ?_ clearRest
      split
      · exact behind _ _ dropped List.not_mem_nil
      · exact dropped
    split
    · refine ih ?_ clearRest
      split
      · exact behind _ _ clearBefore List.not_mem_nil
      · exact clearBefore
    · exact ih (behind _ _ clearBefore (clear segment List.mem_cons_self)) clearRest

theorem slash_ne_digit : ∀ n < 16, '/' ≠ Percent.digit n := by
  decide

/-- The segments of an address that was read hold no slashes. -/
theorem clear_of_parse {text : String} {url : Url} (read : parse text = .ok url) :
    ∀ segment ∈ url.path, '/' ∉ segment := by
  have clear (path : List Char) : ∀ segment ∈ segments path, '/' ∉ segment := by
    refine clear_walk (by simp) fun segment member => ?_
    obtain ⟨piece, isPiece, rfl⟩ := List.mem_map.1 member
    refine Percent.not_mem_encode (by decide) slash_ne_digit fun inside => ?_
    exact absurd inside (not_mem_of_splitAtEach isPiece (by decide))
  have special {scheme : String} {rest : List Char} (isSpecial : special? scheme rest = some url) :
      ∀ segment ∈ url.path, '/' ∉ segment := by
    rw [special?] at isSpecial
    obtain ⟨_, -, parts⟩ := Option.bind_eq_some_iff.1 isSpecial
    obtain ⟨host, -, parts⟩ := Option.bind_eq_some_iff.1 parts
    obtain ⟨port, -, parts⟩ := Option.bind_eq_some_iff.1 parts
    obtain rfl := Option.some.inj parts
    exact clear _
  rw [parse] at read
  split at read
  case h_1 => cases read
  case h_2 scheme rest _ =>
    split at read
    · split at read
      · obtain rfl := Except.ok.inj read
        exact special ‹_›
      · cases read
    · cases read

/-- A text that stands for itself as a segment. -/
structure IsPlain (text : String) : Prop where
  notDot : text ≠ "."
  notDots : text ≠ ".."
  counts : ∀ c ∈ text.toList, isIgnored c = false

instance (text : String) : Decidable (IsPlain text) :=
  have : Decidable (∀ c ∈ text.toList, isIgnored c = false) := List.decidableBAll _ _
  decidable_of_iff (text ≠ "." ∧ text ≠ ".." ∧ ∀ c ∈ text.toList, isIgnored c = false)
    ⟨fun ⟨notDot, notDots, counts⟩ => ⟨notDot, notDots, counts⟩,
      fun plain => ⟨plain.notDot, plain.notDots, plain.counts⟩⟩

/-- A text written as one segment. -/
def piece (text : String) : List Char :=
  Percent.encode Percent.inSegment text.toList

theorem decode_piece (text : String) : Percent.decode (piece text) = Utf8.encode text := by
  rw [piece, Percent.decode_encode (by decide), String.ofList_toList]

theorem piece_injective {a b : String} (same : piece a = piece b) : a = b :=
  String.toList_inj.1 (Percent.encode_injective (by decide) same)

theorem isOneSegment_piece (text : String) : IsOneSegment (piece text) := by
  have absent {mark : Char} (noSign : mark ≠ '%') (noDigit : ∀ n < 16, mark ≠ Percent.digit n)
      (encoded : Percent.inSegment mark = true) : mark ∉ piece text :=
    Percent.not_mem_encode noSign noDigit fun _ => encoded
  simp only [IsOneSegment, List.forall_mem_cons]
  exact ⟨absent (by decide) slash_ne_digit (by decide), absent (by decide) (by decide) (by decide),
    absent (by decide) (by decide) (by decide), absent (by decide) (by decide) (by decide),
    List.forall_mem_nil _⟩

variable {path : List (List Char)} {text : String}

theorem push_plain (plain : IsPlain text) (path : List (List Char)) :
    push path text = opened path ++ [piece text] := by
  have whole : (text.toList.filter fun c => !isIgnored c) = text.toList :=
    List.filter_eq_self.2 fun c present => by simp [plain.counts c present]
  have notDot : piece text ≠ ['.'] := fun same =>
    plain.notDot (piece_injective (same.trans (by decide : ['.'] = piece ".")))
  have notDots : piece text ≠ ['.', '.'] := fun same =>
    plain.notDots (piece_injective (same.trans (by decide : ['.', '.'] = piece "..")))
  have places : ¬(text = "." ∨ text = "..") := by
    rintro (dot | dots)
    · exact plain.notDot dot
    · exact plain.notDots dots
  rw [push, if_neg places, whole, ← piece]
  simp only [notDots, notDot, if_false, opened]

/-- What other texts do to a path: nothing, or they take its last segment away, or they stand in it
as another text. -/
theorem push_cases (isOpen : path ≠ [[]]) (notPlain : ¬IsPlain text) :
    push path text = path ∨ push path text = path.dropLast ++ [[]] ∨
      ∃ other, push path text = path ++ [piece other] ∧ other ≠ text := by
  rw [push]
  split
  case isTrue => exact .inl rfl
  case isFalse places =>
    have hidden : ∃ c ∈ text.toList, isIgnored c = true := by
      by_contra none
      refine notPlain ⟨fun dot => places (.inl dot), fun dots => places (.inr dots), ?_⟩
      intro c present
      by_contra ignored
      exact none ⟨c, present, by simpa using ignored⟩
    obtain ⟨c, present, ignored⟩ := hidden
    dsimp only
    split
    · exact .inr (.inl rfl)
    split
    · refine .inr (.inr ⟨"", rfl, ?_⟩)
      rintro rfl
      simp at present
    · let other := String.ofList (text.toList.filter fun c => !isIgnored c)
      refine .inr (.inr ⟨other, by rw [piece, String.toList_ofList], fun same => ?_⟩)
      rw [← same, String.toList_ofList] at present
      simp [ignored] at present

/-- Plain texts stand one behind the other. -/
theorem foldl_push {texts : List String} (plain : ∀ text ∈ texts, IsPlain text) (some : path ≠ [])
    (isOpen : path ≠ [[]]) : texts.foldl push path = path ++ texts.map piece := by
  induction texts generalizing path with
  | nil => rw [List.foldl_nil, List.map_nil, List.append_nil]
  | cons text texts ih =>
    have pushed : push path text = path ++ [piece text] := by
      rw [push_plain (plain text List.mem_cons_self), opened, if_neg isOpen]
    rw [List.foldl_cons, pushed, ih (fun t member => plain t (List.mem_cons_of_mem _ member)),
      List.map_cons, List.append_assoc, List.singleton_append]
    · simp
    · obtain ⟨first, rest, rfl⟩ := List.exists_cons_of_ne_nil some
      simp

theorem length_foldl_push {texts : List String} (plain : ∀ text ∈ texts, IsPlain text)
    (path : List (List Char)) :
    (pathText (texts.foldl push path)).length ≤
      (pathText path).length + (pathText (texts.map piece)).length := by
  induction texts generalizing path with
  | nil => simp
  | cons text texts ih =>
    have later := ih (fun t member => plain t (List.mem_cons_of_mem _ member)) (push path text)
    have shorter := length_opened_le path
    rw [push_plain (plain text List.mem_cons_self)] at later
    simp only [List.foldl_cons, push_plain (plain text List.mem_cons_self), List.map_cons,
      pathText_append, pathText_cons, pathText_nil, List.length_append, List.length_cons,
      List.length_nil] at later ⊢
    omega

end Url

end SchemaLedger
