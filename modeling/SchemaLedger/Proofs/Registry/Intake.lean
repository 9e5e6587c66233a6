import SchemaLedger.Proofs.Registry.Response

namespace SchemaLedger

/-- The number of bytes in so many chunks. -/
def runningTotal (chunks : List (List UInt8)) (count : Nat) : Nat :=
  (chunks.take count).flatten.length

/-- Bytes that are as many as their size says, and no more than allowed. -/
structure Buffer.Sound (limit : UInt64) (buffer : Buffer) : Prop where
  size : buffer.size.toNat = buffer.bytes.length
  within : buffer.bytes.length ≤ limit.toNat

namespace Buffer

variable {limit : UInt64} {buffer later : Buffer} {bytes : List UInt8} {error : ClientError}

theorem sound_empty (limit : UInt64) : Buffer.empty.Sound limit := ⟨rfl, Nat.zero_le _⟩

/-- The total is exact when it is taken over: it is within the limit, and the limit is a word. -/
theorem Sound.take (sound : buffer.Sound limit) (taken : buffer.take limit bytes = .ok later) :
    later.bytes = buffer.bytes ++ bytes ∧ later.Sound limit := by
  rcases Nat.lt_or_ge limit.toNat (buffer.size.toNat + bytes.length) with exceeds | fits
  · rw [take_eq_error_of_lt exceeds] at taken
    cases taken
  · obtain ⟨size, held, exact⟩ := take_of_le fits
    rw [held] at taken
    cases taken
    rw [sound.size, ← List.length_append] at exact fits
    exact ⟨rfl, exact, fits⟩

theorem Sound.refuse (sound : buffer.Sound limit)
    (refused : buffer.take limit bytes = .error error) :
    limit.toNat < (buffer.bytes ++ bytes).length ∧
      error = .tooLarge (told (buffer.bytes ++ bytes).length) limit := by
  rw [List.length_append, ← sound.size]
  rcases Nat.lt_or_ge limit.toNat (buffer.size.toNat + bytes.length) with exceeds | fits
  · rw [take_eq_error_of_lt exceeds] at refused
    cases refused
    exact ⟨exceeds, rfl⟩
  · obtain ⟨size, held, -⟩ := take_of_le fits
    rw [held] at refused
    cases refused

/-- What is told of a total above the limit is above the limit too, if there is any word above. -/
theorem lt_told {total : Nat} (exceeds : limit.toNat < total) :
    limit < told total ∨ limit.toNat = UInt64.size - 1 := by
  have word : limit.toNat < UInt64.size := limit.toNat_lt
  rw [UInt64.lt_iff_toNat_lt, toNat_told]
  omega

end Buffer

/-- A chunk that has been asked for, and what was held by then. -/
structure Intake where
  held : Buffer
  bytes : List UInt8

namespace Body

/-- A body whose first chunks are known. -/
def preceded (rest : Body) (chunks : List (List UInt8)) : Body := chunks.foldr .chunk rest

/-- The reading of a body from what is held to its answer: the chunks that are asked for on the way,
and what remains of the body unread. A chunk is asked for only if the one before it was taken. -/
inductive Course (limit : UInt64) :
    Buffer → Body → List Intake → Except ClientError (List UInt8) → Body → Prop
  | ended {buffer} : Course limit buffer .ended [] (.ok buffer.bytes) .ended
  | broken {buffer detail} :
      Course limit buffer (.broken detail) [] (.error (.transport detail)) (.broken detail)
  | refused {buffer bytes rest error} : buffer.take limit bytes = .error error →
      Course limit buffer (.chunk bytes rest) [⟨buffer, bytes⟩] (.error error) rest
  | taken {buffer bytes later rest intakes answer unread} : buffer.take limit bytes = .ok later →
      Course limit later rest intakes answer unread →
      Course limit buffer (.chunk bytes rest) (⟨buffer, bytes⟩ :: intakes) answer unread

variable {limit : UInt64} {buffer : Buffer} {body unread : Body} {intakes : List Intake}
  {answer : Except ClientError (List UInt8)} {chunks : List (List UInt8)}

theorem exists_course (limit : UInt64) (buffer : Buffer) (body : Body) :
    ∃ intakes unread, Course limit buffer body intakes (body.read limit buffer) unread := by
  induction body generalizing buffer with
  | ended => exact ⟨[], .ended, .ended⟩
  | broken detail => exact ⟨[], .broken detail, .broken⟩
  | chunk bytes rest ih =>
    rw [read]
    cases taken : buffer.take limit bytes with
    | error error => exact ⟨[⟨buffer, bytes⟩], rest, .refused taken⟩
    | ok later =>
      obtain ⟨intakes, unread, course⟩ := ih later
      exact ⟨⟨buffer, bytes⟩ :: intakes, unread, .taken taken course⟩

namespace Course

theorem read_eq (course : Course limit buffer body intakes answer unread) :
    body.read limit buffer = answer := by
  induction course with
  | ended | broken => rfl
  | refused refused => rw [read, refused]
  | taken taken _ ih =>
    rw [read, taken]
    exact ih

theorem body_eq (course : Course limit buffer body intakes answer unread) :
    body = unread.preceded (intakes.map (·.bytes)) := by
  induction course with
  | ended | broken | refused => rfl
  | taken _ _ ih => exact congrArg (chunk _) ih

/-- What is held when a chunk is asked for are the chunks before it. -/
theorem held (course : Course limit buffer body intakes answer unread)
    (sound : buffer.Sound limit) {i : Nat} {intake : Intake} (isThere : intakes[i]? = some intake) :
    intake.held.Sound limit ∧
      intake.held.bytes = buffer.bytes ++ ((intakes.map (·.bytes)).take i).flatten := by
  induction course generalizing i with
  | ended | broken => cases isThere
  | refused =>
    cases i with
    | zero =>
      cases isThere
      exact ⟨sound, (List.append_nil _).symm⟩
    | succ i => cases isThere
  | taken taken _ ih =>
    cases i with
    | zero =>
      cases isThere
      exact ⟨sound, (List.append_nil _).symm⟩
    | succ i =>
      obtain ⟨extended, still⟩ := sound.take taken
      rw [List.map_cons, List.take_succ_cons, List.flatten_cons, ← List.append_assoc, ← extended]
      exact ih still isThere

/-- A body is taken only when it has come to its end. -/
theorem unread_of_ok (course : Course limit buffer body intakes answer unread)
    {bytes : List UInt8} (answered : answer = .ok bytes) : unread = .ended := by
  induction course with
  | ended => rfl
  | broken | refused => cases answered
  | taken _ _ ih => exact ih answered

/-- A reading that is given up for its length ends with the chunk that is too much, and tells of all
bytes up to there. Whatever comes behind that chunk has no part in it. -/
theorem of_tooLarge (course : Course limit buffer body intakes answer unread)
    (sound : buffer.Sound limit) {actual most : UInt64}
    (answered : answer = .error (.tooLarge actual most)) :
    let arrived := buffer.bytes ++ (intakes.map (·.bytes)).flatten
    limit.toNat < arrived.length ∧ actual = Buffer.told arrived.length ∧ most = limit ∧
      ∀ rest : Body,
        Course limit buffer (rest.preceded (intakes.map (·.bytes))) intakes answer rest := by
  induction course with
  | ended | broken => cases answered
  | refused refused =>
    obtain ⟨exceeds, isError⟩ := sound.refuse refused
    cases Except.error.inj answered
    cases isError
    rw [List.map_cons, List.map_nil, List.flatten_cons, List.flatten_nil, List.append_nil]
    exact ⟨exceeds, rfl, rfl, fun rest => .refused refused⟩
  | taken taken _ ih =>
    obtain ⟨extended, still⟩ := sound.take taken
    obtain ⟨exceeds, isActual, isMost, alike⟩ := ih still answered
    rw [extended, List.append_assoc, ← List.flatten_cons] at exceeds isActual
    exact ⟨exceeds, isActual, isMost, fun rest => .taken taken (alike rest)⟩

end Course

theorem whole?_ofChunks (chunks : List (List UInt8)) :
    (ofChunks chunks).whole? = some chunks.flatten := by
  induction chunks with
  | nil => rfl
  | cons bytes rest ih => rw [ofChunks, whole?, ih, Option.map_some, List.flatten_cons]

theorem exists_append_of_ofChunks_eq {first : List (List UInt8)}
    (same : ofChunks chunks = unread.preceded first) :
    ∃ left, unread = ofChunks left ∧ chunks = first ++ left := by
  induction first generalizing chunks with
  | nil => exact ⟨chunks, same.symm, rfl⟩
  | cons bytes others ih =>
    cases chunks with
    | nil => cases same
    | cons bytes' others' =>
      obtain ⟨rfl, behind⟩ := Body.chunk.inj same
      obtain ⟨left, isLeft, rfl⟩ := ih behind
      exact ⟨left, isLeft, rfl⟩

theorem eq_nil_of_ofChunks_eq (ended : ofChunks chunks = .ended) : chunks = [] := by
  cases chunks with
  | nil => rfl
  | cons => cases ended

/-- The chunks that are asked for are the first ones. -/
theorem Course.of_ofChunks
    (course : Course limit buffer (ofChunks chunks) intakes answer unread) :
    intakes.map (·.bytes) = chunks.take intakes.length ∧
      unread = ofChunks (chunks.drop intakes.length) := by
  obtain ⟨left, rfl, rfl⟩ := exists_append_of_ofChunks_eq course.body_eq
  have count : (intakes.map (·.bytes)).length = intakes.length := List.length_map _
  rw [← count, List.take_left, List.drop_left]
  exact ⟨rfl, rfl⟩

/-- Whether a body is taken, and for what, is a matter of its bytes. -/
theorem toOption_read_ofChunks (limit : UInt64) (chunks : List (List UInt8)) :
    ((ofChunks chunks).read limit .empty).toOption =
      if chunks.flatten.length ≤ limit.toNat then some chunks.flatten else none := by
  split
  · rename_i fits
    rw [read_empty_of_le (whole?_ofChunks chunks) fits]
    rfl
  · rename_i exceeds
    obtain ⟨actual, refused⟩ :=
      read_empty_of_lt (whole?_ofChunks chunks) (Nat.lt_of_not_le exceeds)
    rw [refused]
    rfl

end Body

/-- A body of any bytes in any number of chunks, some of which may be empty, and any limit. A body
that is no longer than the limit is taken, byte for byte; a longer one is refused, with the limit
and with the first total above it, or with the greatest word if that total fits no word; what is
told is above the limit if any word is. The chunks are asked for one by one, as far as the one that
crosses the limit and no further: with anything else behind that one the answer is the same. All
that is held on the way are the chunks before, no more than the limit allows, and their size is
exact. In other chunks the same bytes are taken or refused alike. -/
theorem limits_hold_however_bodies_arrive (limit : UInt64) (chunks : List (List UInt8)) :
    let answer := (Body.ofChunks chunks).read limit .empty
    ∃ intakes : List Intake,
      Body.Course limit .empty (.ofChunks chunks) intakes answer
        (.ofChunks (chunks.drop intakes.length)) ∧
      intakes.map (·.bytes) = chunks.take intakes.length ∧
      (∀ i intake, intakes[i]? = some intake →
        intake.held.bytes = (chunks.take i).flatten ∧
        intake.held.size.toNat = runningTotal chunks i ∧ runningTotal chunks i ≤ limit.toNat) ∧
      (chunks.flatten.length ≤ limit.toNat →
        answer = .ok chunks.flatten ∧ intakes.length = chunks.length) ∧
      (limit.toNat < chunks.flatten.length →
        limit.toNat < runningTotal chunks intakes.length ∧
        (∃ actual, answer = .error (.tooLarge actual limit) ∧
          actual.toNat = min (runningTotal chunks intakes.length) (UInt64.size - 1) ∧
          (limit < actual ∨ limit.toNat = UInt64.size - 1)) ∧
        ∀ rest : Body, (rest.preceded (chunks.take intakes.length)).read limit .empty = answer) ∧
      ∀ others : List (List UInt8), others.flatten = chunks.flatten →
        ((Body.ofChunks others).read limit .empty).toOption = answer.toOption := by
  intro answer
  obtain ⟨intakes, unread, course⟩ := Body.exists_course limit .empty (.ofChunks chunks)
  have sound := Buffer.sound_empty limit
  have whole := Body.whole?_ofChunks chunks
  obtain ⟨asked, rfl⟩ := course.of_ofChunks
  refine ⟨intakes, course, asked, fun i intake isThere => ?_, fun fits => ?_, fun exceeds => ?_,
    fun others same => ?_⟩
  · obtain ⟨kept, isHeld⟩ := course.held sound isThere
    have before : i ≤ intakes.length := Nat.le_of_lt (List.getElem?_eq_some_iff.1 isThere).1
    rw [asked, List.take_take, Nat.min_eq_left before] at isHeld
    have total : runningTotal chunks i = intake.held.bytes.length := congrArg List.length isHeld.symm
    exact ⟨isHeld, total ▸ kept.size, total ▸ kept.within⟩
  · have taken := Body.read_empty_of_le whole fits
    have nothing := Body.eq_nil_of_ofChunks_eq (course.unread_of_ok taken)
    have all := List.take_of_length_le (List.drop_eq_nil_iff.1 nothing)
    rw [all] at asked
    exact ⟨taken, by rw [← asked, List.length_map]⟩
  · obtain ⟨actual, refused⟩ := Body.read_empty_of_lt whole exceeds
    obtain ⟨crossed, isActual, -, alike⟩ := course.of_tooLarge sound refused
    rw [asked] at crossed isActual alike
    refine ⟨crossed, ⟨actual, refused, ?_, ?_⟩, fun rest => (alike rest).read_eq⟩
    · rw [isActual]
      exact Buffer.toNat_told _
    · rw [isActual]
      exact Buffer.lt_told crossed
  · rw [Body.toOption_read_ofChunks, Body.toOption_read_ofChunks, same]

/-- Four bytes in four chunks, one of them empty. With room for four they are taken, also in two
chunks; with room for two the third chunk is too much, even if the body breaks off behind it. -/
theorem limits_hold_however_bodies_arrive_of_four_chunks :
    let chunks : List (List UInt8) := [[0x5B], [], [0x31, 0x5D], [0x0A]]
    (chunks.flatten.length ≤ (4 : UInt64).toNat ∧
      (Body.ofChunks chunks).read 4 .empty = .ok [0x5B, 0x31, 0x5D, 0x0A] ∧
      ((Body.ofChunks [[0x5B, 0x31, 0x5D], [0x0A]]).read 4 .empty).toOption =
        some [0x5B, 0x31, 0x5D, 0x0A]) ∧
    (2 : UInt64).toNat < chunks.flatten.length ∧
    (Body.ofChunks chunks).read 2 .empty = .error (.tooLarge 3 2) ∧
    ((Body.broken "reset").preceded [[0x5B], [], [0x31, 0x5D]]).read 2 .empty =
      .error (.tooLarge 3 2) := by
  intro chunks
  have fits : chunks.flatten.length ≤ (4 : UInt64).toNat := by decide
  have exceeds : (2 : UInt64).toNat < chunks.flatten.length := by decide
  obtain ⟨_, -, -, -, takes, -, alike⟩ := limits_hold_however_bodies_arrive 4 chunks
  obtain ⟨intakes, -, -, held, -, refuses, -⟩ := limits_hold_however_bodies_arrive 2 chunks
  obtain ⟨taken, -⟩ := takes fits
  obtain ⟨crossed, ⟨actual, refused, isActual, -⟩, anyhow⟩ := refuses exceeds
  have most : intakes.length ≤ 3 := Nat.le_of_not_lt fun more => by
    obtain ⟨-, -, within⟩ := held 3 _ (List.getElem?_eq_getElem more)
    exact absurd within (by decide)
  have least : ∀ count ≤ 3, (2 : UInt64).toNat < runningTotal chunks count → count = 3 := by decide
  have third := least intakes.length most crossed
  rw [third] at isActual anyhow
  have three : actual = 3 := UInt64.toNat_inj.1 isActual
  rw [three] at refused
  refine ⟨⟨fits, taken, ?_⟩, exceeds, refused, (anyhow (.broken "reset")).trans refused⟩
  rw [alike [[0x5B, 0x31, 0x5D], [0x0A]] rfl, taken]
  rfl

end SchemaLedger
