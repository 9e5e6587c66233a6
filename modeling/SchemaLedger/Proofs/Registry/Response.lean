import SchemaLedger.Proofs.Registry.Told
import SchemaLedger.Registry.Client

namespace SchemaLedger

/-- The bytes of a body that does not break off. -/
def Body.whole? : Body → Option (List UInt8)
  | ended => some []
  | broken _ => none
  | chunk bytes rest => rest.whole?.map (bytes ++ ·)

namespace Buffer

variable {limit : UInt64} {buffer : Buffer} {bytes : List UInt8}

theorem take_of_le (fits : buffer.size.toNat + bytes.length ≤ limit.toNat) :
    ∃ size, buffer.take limit bytes = .ok ⟨buffer.bytes ++ bytes, size⟩ ∧
      size.toNat = buffer.size.toNat + bytes.length := by
  have small : buffer.size.toNat + bytes.length < UInt64.size :=
    Nat.lt_of_le_of_lt fits limit.toNat_lt
  refine ⟨.ofNat (buffer.size.toNat + bytes.length), ?_, UInt64.toNat_ofNat_of_lt' small⟩
  rw [take, if_pos small, if_neg (Nat.not_lt.2 fits)]

/-- What is told of a total: itself, or the greatest word if it fits no word. -/
def told (total : Nat) : UInt64 := .ofNat (min total (UInt64.size - 1))

theorem toNat_told (total : Nat) : (told total).toNat = min total (UInt64.size - 1) :=
  UInt64.toNat_ofNat_of_lt' (Nat.lt_of_le_of_lt (Nat.min_le_right _ _) (by decide))

theorem take_eq_error_of_lt (exceeds : limit.toNat < buffer.size.toNat + bytes.length) :
    buffer.take limit bytes =
      .error (.tooLarge (told (buffer.size.toNat + bytes.length)) limit) := by
  rw [take, if_pos exceeds, told]
  split
  · rename_i small
    rw [Nat.min_eq_left (Nat.le_sub_one_of_lt small)]
  · rename_i great
    rw [Nat.min_eq_right (Nat.le_trans (Nat.sub_le _ _) (Nat.le_of_not_lt great))]

end Buffer

namespace Body

variable {limit : UInt64} {buffer : Buffer} {body : Body} {bytes : List UInt8}

/-- How a body is cut into chunks makes no difference. -/
theorem read_of_le (whole : body.whole? = some bytes)
    (fits : buffer.size.toNat + bytes.length ≤ limit.toNat) :
    body.read limit buffer = .ok (buffer.bytes ++ bytes) := by
  induction body generalizing buffer bytes with
  | ended =>
    cases whole
    rw [read, List.append_nil]
  | broken detail => cases whole
  | chunk first rest ih =>
    obtain ⟨later, wholeRest, rfl⟩ := Option.map_eq_some_iff.1 whole
    rw [List.length_append, ← Nat.add_assoc] at fits
    obtain ⟨size, taken, isSize⟩ := Buffer.take_of_le (Nat.le_of_add_right_le fits)
    rw [read, taken, ← List.append_assoc]
    exact ih wholeRest (isSize ▸ fits)

theorem read_of_lt (whole : body.whole? = some bytes) (small : buffer.size.toNat ≤ limit.toNat)
    (exceeds : limit.toNat < buffer.size.toNat + bytes.length) :
    ∃ actual, body.read limit buffer = .error (.tooLarge actual limit) := by
  induction body generalizing buffer bytes with
  | ended =>
    cases whole
    exact absurd exceeds (Nat.not_lt.2 small)
  | broken detail => cases whole
  | chunk first rest ih =>
    obtain ⟨later, wholeRest, rfl⟩ := Option.map_eq_some_iff.1 whole
    rw [List.length_append, ← Nat.add_assoc] at exceeds
    rw [read]
    rcases Nat.lt_or_ge limit.toNat (buffer.size.toNat + first.length) with already | further
    · exact ⟨_, by rw [Buffer.take_eq_error_of_lt already]⟩
    · obtain ⟨size, taken, isSize⟩ := Buffer.take_of_le further
      rw [taken]
      exact ih wholeRest (isSize ▸ further) (isSize ▸ exceeds)

/-- A body that breaks off is never taken for a whole one, nor for a status. -/
theorem read_of_none (broken : body.whole? = none) : ∃ error,
    body.read limit buffer = .error error ∧ ∀ code detail, error ≠ .status code detail := by
  induction body generalizing buffer with
  | ended => cases broken
  | broken detail => exact ⟨.transport detail, rfl, by rintro _ _ ⟨⟩⟩
  | chunk first rest ih =>
    rw [read]
    rcases Nat.lt_or_ge limit.toNat (buffer.size.toNat + first.length) with already | further
    · exact ⟨_, by rw [Buffer.take_eq_error_of_lt already], by rintro _ _ ⟨⟩⟩
    · obtain ⟨size, taken, -⟩ := Buffer.take_of_le further
      rw [taken]
      exact ih (Option.map_eq_none_iff.1 broken)

theorem read_empty_of_le (whole : body.whole? = some bytes) (fits : bytes.length ≤ limit.toNat) :
    body.read limit .empty = .ok bytes := by
  have total : Buffer.empty.size.toNat + bytes.length = bytes.length := Nat.zero_add _
  exact read_of_le whole (Nat.le_trans (Nat.le_of_eq total) fits)

theorem read_empty_of_lt (whole : body.whole? = some bytes)
    (exceeds : limit.toNat < bytes.length) :
    ∃ actual, body.read limit .empty = .error (.tooLarge actual limit) := by
  have total : Buffer.empty.size.toNat + bytes.length = bytes.length := Nat.zero_add _
  exact read_of_lt whole (Nat.zero_le _) (Nat.lt_of_lt_of_eq exceeds total.symm)

end Body

namespace Client

variable {α : Type} {codec : Codec α} {limit : UInt64} {response : HttpResponse}
  {bytes : List UInt8}

theorem isSuccess_iff :
    response.isSuccess = true ↔ 200 ≤ response.status ∧ response.status < 300 := by
  rw [HttpResponse.isSuccess, Bool.and_eq_true, decide_eq_true_iff, decide_eq_true_iff]

/-- A whole answer is too long, or a success with a body to read, or another status. -/
theorem payload_cases (codec : Codec α) (limit : UInt64)
    (whole : response.body.whole? = some bytes) :
    (limit.toNat < bytes.length ∧
      ∃ actual, payload codec limit response = .error (.tooLarge actual limit)) ∨
    (bytes.length ≤ limit.toNat ∧ (200 ≤ response.status ∧ response.status < 300) ∧
      payload codec limit response = match codec.ofBytes? bytes with
        | some value => .ok value
        | none => .error undecodable) ∨
    (bytes.length ≤ limit.toNat ∧ ¬(200 ≤ response.status ∧ response.status < 300) ∧
      payload codec limit response = .error (.status response.status (statusText bytes))) := by
  rw [payload]
  rcases Nat.lt_or_ge limit.toNat bytes.length with exceeds | fits
  · obtain ⟨actual, refused⟩ := Body.read_empty_of_lt whole exceeds
    exact .inl ⟨exceeds, actual, by rw [refused]; rfl⟩
  · rw [Body.read_empty_of_le whole fits]
    cases success : response.isSuccess with
    | true => exact .inr (.inl ⟨fits, isSuccess_iff.1 success, rfl⟩)
    | false =>
      exact .inr (.inr ⟨fits, mt isSuccess_iff.2 (Bool.eq_false_iff.1 success), rfl⟩)

/-- What a whole answer means, where some statuses have a meaning of their own. -/
inductive Verdict (limit : UInt64) (status : Nat) (bytes : List UInt8) (tells : α → Prop)
    (telling : List Nat) (means : String → RegistryError) : Except RegistryError α → Prop
  | tooLong {detail} : limit.toNat < bytes.length →
      Verdict limit status bytes tells telling means (.error (.protocol detail))
  | served {value} : bytes.length ≤ limit.toNat → 200 ≤ status → status < 300 →
      tells value → Verdict limit status bytes tells telling means (.ok value)
  | unreadable {detail} : bytes.length ≤ limit.toNat → 200 ≤ status → status < 300 →
      (∀ value, ¬tells value) →
      Verdict limit status bytes tells telling means (.error (.protocol detail))
  | told : bytes.length ≤ limit.toNat → status ∈ telling →
      Verdict limit status bytes tells telling means (.error (means (statusText bytes)))
  | failed {detail} : bytes.length ≤ limit.toNat → ¬(200 ≤ status ∧ status < 300) →
      status ∉ telling → Verdict limit status bytes tells telling means (.error (.transport detail))

theorem verdict_registered (limit : UInt64) (subject : String)
    (whole : response.body.whole? = some bytes) :
    Verdict limit response.status bytes (Registered.ToldBy subject bytes)
      [ClientError.notFoundStatus] .notFound (registered limit subject response) := by
  rw [registered]
  obtain ⟨exceeds, actual, refused⟩ | ⟨fits, ⟨low, high⟩, success⟩ | ⟨fits, outside, failed⟩ :=
    payload_cases VersionPayload.codec limit whole
  · rw [refused]
    exact .tooLong exceeds
  · rw [success]
    cases decoded : VersionPayload.codec.ofBytes? bytes with
    | none =>
      refine .unreadable fits low high fun value told => ?_
      rw [Registered.toldBy_iff, decoded] at told
      cases told
    | some payload =>
      have isTold (value : Registered) :
          value.ToldBy subject bytes ↔ payload.registered? subject = some value := by
        rw [Registered.toldBy_iff, decoded, Option.bind_some]
      dsimp only
      cases known : payload.registered? subject with
      | none =>
        refine .unreadable fits low high fun value told => ?_
        cases known.symm.trans ((isTold value).1 told)
      | some value => exact .served fits low high ((isTold value).2 known)
  · rw [failed]
    dsimp only [ClientError.toRegistryError]
    split
    · rename_i absent
      exact .told fits (List.mem_singleton.2 absent)
    · rename_i other
      exact .failed fits outside (mt List.mem_singleton.1 other)

theorem verdict_modeOf (limit : UInt64) (whole : response.body.whole? = some bytes) :
    Verdict limit response.status bytes (SubjectMode.ToldBy bytes) modelessStatuses .unsupported
      (modeOf limit response) := by
  rw [modeOf]
  obtain ⟨exceeds, actual, refused⟩ | ⟨fits, ⟨low, high⟩, success⟩ | ⟨fits, outside, failed⟩ :=
    payload_cases ModePayload.codec limit whole
  · rw [refused]
    exact .tooLong exceeds
  · rw [success]
    cases decoded : ModePayload.codec.ofBytes? bytes with
    | none =>
      refine .unreadable fits low high fun value told => ?_
      rw [SubjectMode.toldBy_iff, decoded] at told
      cases told
    | some payload =>
      exact .served fits low high (SubjectMode.toldBy_iff.2 (by rw [decoded, Option.map_some]))
  · rw [failed]
    dsimp only
    split
    · exact .told fits ‹_›
    · rename_i other
      have present : response.status ≠ ClientError.notFoundStatus := by
        rintro same
        exact other (same ▸ List.mem_cons_self)
      rw [ClientError.toRegistryError, if_neg present]
      exact .failed fits outside other

/-- An answer that breaks off tells nothing. -/
theorem registered_of_none (limit : UInt64) (subject : String)
    (broken : response.body.whole? = none) :
    ∃ error, registered limit subject response = .error error ∧
      ∀ detail, error ≠ .notFound detail := by
  obtain ⟨error, failed, other⟩ := Body.read_of_none broken
  have refused : payload VersionPayload.codec limit response = .error error := by
    rw [payload, failed]
    rfl
  refine ⟨error.toRegistryError, by rw [registered, refused], fun detail => ?_⟩
  cases error with
  | status code text => exact absurd rfl (other code text)
  | config | transport | protocol | tooLarge => nofun

end Client

end SchemaLedger
