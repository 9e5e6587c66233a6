import Mathlib.Algebra.Order.Group.Nat
import SchemaLedger.Proofs.Settings.Validation
import SchemaLedger.Proofs.Sync.Exchange
import SchemaLedger.Sync.Lookup

namespace SchemaLedger

theorem Span.nanos_ofMillis (millis : Nat) :
    (ofMillis millis).nanos = min (millis * nanosInMilli) greatest := rfl

theorem Span.nanos_scale (span : Span) (factor : Nat) :
    (span.scale factor).nanos = min (span.nanos * factor) greatest := rfl

/-- What becomes of a call that nobody cuts short: it ends after some nanoseconds, or never. -/
inductive Reaction (α : Type)
  | ends (after : Nat) (result : Except RegistryError α)
  | hangs

namespace Reaction

variable {α : Type}

/-- What a caller sees who waits up to a limit. A call that ends at the very deadline ends in
time. -/
def attempt (limit : Span) : Reaction α → Attempt α
  | hangs => .timedOut
  | ends after result =>
    if limit.nanos < after then .timedOut
    else match result with
      | .ok value => .answered value
      | .error error => .failed error

/-- How long such a caller waits. -/
def wait (limit : Span) : Reaction α → Nat
  | hangs => limit.nanos
  | ends after _ => min after limit.nanos

/-- Whoever misses a deadline has waited for it. -/
theorem wait_of_timedOut {limit : Span} {reaction : Reaction α}
    (late : reaction.attempt limit = .timedOut) : reaction.wait limit = limit.nanos := by
  cases reaction with
  | hangs => rfl
  | ends after result =>
    by_cases above : limit.nanos < after
    · exact Nat.min_eq_right (Nat.le_of_lt above)
    · simp only [attempt, if_neg above] at late
      cases result <;> cases late

end Reaction

/-- What becomes of the calls to a registry, by their number and by what they ask for. -/
abbrev Reactions : Type := Nat → (call : Query) → Reaction call.Reply

/-- An exchange and the moment at which it was begun. -/
structure Note where
  moment : Nat
  exchange : Exchange

/-- All that was done, and the number of the calls among it. -/
structure Diary where
  calls : Nat
  notes : List Note

def Diary.empty : Diary := ⟨0, []⟩

/-- A registry with a clock and without a catalog. Time passes while a call is waited for and in
pauses. -/
def Reactions.host (reactions : Reactions) : Host Diary
  | .query limit call, now, diary =>
    let reaction := reactions diary.calls call
    (reaction.attempt limit, now + reaction.wait limit,
      ⟨diary.calls + 1, diary.notes ++ [⟨now, .query limit call, reaction.attempt limit⟩]⟩)
  | .store request, now, diary =>
    (.error (.store "no catalog"), now,
      { diary with notes := diary.notes ++ [⟨now, .store request, .error (.store "no catalog")⟩] })
  | .pause span, now, diary =>
    ((), now + span.nanos, { diary with notes := diary.notes ++ [⟨now, .pause span, ()⟩] })
  | .report event, now, diary =>
    ((), now, { diary with notes := diary.notes ++ [⟨now, .report event, ()⟩] })

namespace RetryPolicy

variable (policy : RetryPolicy) (subject : String) (reactions : Reactions) (start : Nat)

/-- The greatest number of attempts. -/
def allowed : Nat := max policy.attempts.toNat 1

/-- The pause behind an attempt, counted from zero. -/
def pauseAfter (i : Nat) : Span := policy.backoffDelay (.ofNat i)

/-- The moment of an attempt when all before it have missed their deadlines. -/
def moment : Nat → Nat
  | 0 => start
  | i + 1 => moment i + policy.requestTimeout.nanos + (policy.pauseAfter i).nanos

/-- How an attempt ends. -/
def ending (i : Nat) : Attempt Registered :=
  (reactions i (.latest subject)).attempt policy.requestTimeout

/-- The moment at which an attempt is over. -/
def endMoment (i : Nat) : Nat :=
  policy.moment start i + (reactions i (.latest subject)).wait policy.requestTimeout

/-- The notes on a missed deadline that another attempt follows. -/
def missed (i : Nat) : List Note :=
  let deadline := policy.moment start i + policy.requestTimeout.nanos
  [⟨policy.moment start i, .query policy.requestTimeout (.latest subject), .timedOut⟩,
    ⟨deadline, .report (.latestRetried subject (i + 1) (policy.pauseAfter i)), ()⟩,
    ⟨deadline, .pause (policy.pauseAfter i), ()⟩]

/-- What is told about the last attempt, unless it ended well. -/
def closing? (last : Nat) : Option Event :=
  match policy.ending subject reactions last with
  | .timedOut => some (.latestExhausted subject (last + 1))
  | attempt => Lookup.event? subject none attempt

/-- The notes on a whole look-up: the missed deadlines with the pauses behind them, the last call,
and what is told about it. -/
def diary (last : Nat) : Diary where
  calls := last + 1
  notes := (List.range last).flatMap (policy.missed subject start) ++
    ⟨policy.moment start last, .query policy.requestTimeout (.latest subject),
      policy.ending subject reactions last⟩ ::
    (policy.closing? subject reactions last).toList.map fun event =>
      ⟨policy.endMoment subject reactions start last, .report event, ()⟩

/-- A look-up that ends with the given attempt, counted from zero: the first one in time, or the
last one that is allowed. Nothing else is done, and the result is what that attempt alone says. The
count of the attempts stays within 32 bits. -/
structure EndsWith (last : Nat) : Prop where
  counted : last + 1 < 2 ^ 32
  late : ∀ i < last, policy.ending subject reactions i = .timedOut
  final : last + 1 = policy.allowed ∨
    last + 1 < policy.allowed ∧ policy.ending subject reactions last ≠ .timedOut
  run : (Program.latest policy subject).run reactions.host start .empty =
    (Lookup.ofAttempt (policy.ending subject reactions last),
      policy.endMoment subject reactions start last, policy.diary subject reactions start last)

variable {policy subject reactions start}

/-- Among the attempts that are allowed one is the first in time, or all are late. -/
theorem exists_last {α : Type} (ending : Nat → Attempt α) {allowed : Nat} (positive : 0 < allowed) :
    ∃ last, (∀ i < last, ending i = .timedOut) ∧
      (last + 1 = allowed ∨ last + 1 < allowed ∧ ending last ≠ .timedOut) := by
  induction allowed with
  | zero => cases positive
  | succ allowed ih =>
    rcases Nat.eq_zero_or_pos allowed with rfl | more
    · exact ⟨0, nofun, .inl rfl⟩
    · obtain ⟨last, late, final⟩ := ih more
      by_cases inTime : ending last = .timedOut
      · -- No attempt was in time, and one more is allowed.
        obtain rfl := final.resolve_right fun both => both.2 inTime
        refine ⟨last + 1, fun i before => ?_, .inl rfl⟩
        rcases Nat.lt_succ_iff_lt_or_eq.1 before with earlier | rfl
        · exact late i earlier
        · exact inTime
      · exact ⟨last, late, .inr ⟨by omega, inTime⟩⟩

/-- A missed deadline is noted, and after the pause the look-up goes on with one attempt less. -/
theorem run_missed {i : Nat} (late : policy.ending subject reactions i = .timedOut) (left : Nat)
    (notes : List Note) :
    (Program.latestFrom policy subject (left + 2) i).run reactions.host (policy.moment start i)
        ⟨i, notes⟩ =
      (Program.latestFrom policy subject (left + 1) (i + 1)).run reactions.host
        (policy.moment start (i + 1)) ⟨i + 1, notes ++ policy.missed subject start i⟩ := by
  have waited := Reaction.wait_of_timedOut late
  rw [ending] at late
  rw [Program.latestFrom]
  simp only [Bind.bind, Program.query, Program.report, Program.pause, Program.ask, Program.bind,
    Program.run, Reactions.host, late, waited, ne_eq, Nat.succ_ne_zero, not_false_eq_true, if_true,
    List.append_assoc]
  rfl

theorem run_all_missed {last : Nat}
    (late : ∀ i < last, policy.ending subject reactions i = .timedOut) (left : Nat) :
    (Program.latestFrom policy subject (left + 1 + last) 0).run reactions.host start .empty =
      (Program.latestFrom policy subject (left + 1) last).run reactions.host
        (policy.moment start last)
        ⟨last, (List.range last).flatMap (policy.missed subject start)⟩ := by
  induction last generalizing left with
  | zero => rfl
  | succ last ih =>
    have before := ih (fun i earlier => late i (Nat.lt_succ_of_lt earlier)) (left + 1)
    have more : left + 1 + (last + 1) = left + 1 + 1 + last := by omega
    rw [more, before, run_missed (late last (Nat.lt_succ_self last)), List.range_succ,
      List.flatMap_append, List.flatMap_singleton]

/-- The end of a call is told about, where there is something to tell, and is the result. -/
theorem run_settle (attempt : Attempt Registered) (now calls : Nat) (notes : List Note) :
    (Program.settle subject none attempt).run reactions.host now ⟨calls, notes⟩ =
      (Lookup.ofAttempt attempt, now, ⟨calls, notes ++
        (Lookup.event? subject none attempt).toList.map fun event =>
          ⟨now, .report event, ()⟩⟩) := by
  rw [Program.settle]
  cases Lookup.event? subject none attempt with
  | none => simp [Program.run, Pure.pure]
  | some event => rfl

/-- The last attempt is in time or has none behind it. -/
theorem run_last {last left : Nat}
    (final : left = 0 ∨ policy.ending subject reactions last ≠ .timedOut) (notes : List Note) :
    (Program.latestFrom policy subject (left + 1) last).run reactions.host
        (policy.moment start last) ⟨last, notes⟩ =
      (Lookup.ofAttempt (policy.ending subject reactions last),
        policy.endMoment subject reactions start last, ⟨last + 1, notes ++
          ⟨policy.moment start last, .query policy.requestTimeout (.latest subject),
            policy.ending subject reactions last⟩ ::
          (policy.closing? subject reactions last).toList.map fun event =>
            ⟨policy.endMoment subject reactions start last, .report event, ()⟩⟩) := by
  have called : reactions.host (.query policy.requestTimeout (.latest subject))
      (policy.moment start last) ⟨last, notes⟩ =
    (policy.ending subject reactions last, policy.endMoment subject reactions start last,
      ⟨last + 1, notes ++ [⟨policy.moment start last,
        .query policy.requestTimeout (.latest subject),
        policy.ending subject reactions last⟩]⟩) := rfl
  rw [Program.latestFrom, closing?]
  simp only [Bind.bind, Program.query, Program.ask, Program.bind, Program.run, called]
  cases ended : policy.ending subject reactions last with
  | answered value =>
    dsimp only
    rw [run_settle, List.append_assoc]
    rfl
  | failed error =>
    dsimp only
    rw [run_settle, List.append_assoc]
    rfl
  | timedOut =>
    obtain rfl := final.resolve_right (absurd ended)
    dsimp only
    simp only [ne_eq, not_true_eq_false, if_false, Program.latestFrom, Bind.bind, Program.report,
      Program.ask, Program.bind, Program.run, Reactions.host, List.append_assoc]
    rfl

/-- Every look-up ends with one of the attempts that are allowed. -/
theorem exists_endsWith (policy : RetryPolicy) (subject : String) (reactions : Reactions)
    (start : Nat) : ∃ last, policy.EndsWith subject reactions start last := by
  have positive : 0 < policy.allowed := Nat.lt_of_lt_of_le Nat.one_pos (Nat.le_max_right _ _)
  have word : policy.allowed < 2 ^ 32 := Nat.max_lt.2 ⟨policy.attempts.toNat_lt, by decide⟩
  obtain ⟨last, late, final⟩ := exists_last (policy.ending subject reactions) positive
  refine ⟨last, by omega, late, final, ?_⟩
  obtain ⟨left, whole⟩ : ∃ left, policy.allowed = left + 1 + last :=
    ⟨policy.allowed - 1 - last, by omega⟩
  have ends : left = 0 ∨ policy.ending subject reactions last ≠ .timedOut := by
    rcases final with none | ⟨-, inTime⟩
    · exact .inl (by omega)
    · exact .inr inTime
  have latest : Program.latest policy subject =
      Program.latestFrom policy subject (left + 1 + last) 0 :=
    congrArg (Program.latestFrom policy subject · 0) whole
  rw [latest, run_all_missed late, run_last ends]
  rfl

/-- The factor of an attempt is a power of two, held to 32 bits. -/
theorem backoffFactor_eq (attempt : UInt32) :
    backoffFactor attempt = min (2 ^ attempt.toNat) (2 ^ 32 - 1) := by
  rw [backoffFactor]
  split
  · rename_i small
    have exponent : attempt.toNat ≤ 31 := Nat.lt_succ_iff.1 (UInt32.lt_iff_toNat_lt.1 small)
    have power : 2 ^ attempt.toNat ≤ 2 ^ 31 := Nat.pow_le_pow_right (by decide) exponent
    exact (Nat.min_eq_left (Nat.le_trans power (by decide))).symm
  · rename_i large
    have exponent : 32 ≤ attempt.toNat := UInt32.le_iff_toNat_le.1 (UInt32.not_lt.1 large)
    have power : 2 ^ 32 ≤ 2 ^ attempt.toNat := Nat.pow_le_pow_right (by decide) exponent
    have below : 4294967295 ≤ 2 ^ attempt.toNat := Nat.le_trans (by decide) power
    exact (Nat.min_eq_right below).symm

/-- The pauses at any attempt: they never wrap, and never become shorter. -/
structure BacksOff (policy : RetryPolicy) : Prop where
  factor : ∀ attempt, backoffFactor attempt < 2 ^ 32
  delay : ∀ attempt, (policy.backoffDelay attempt).nanos =
    min (policy.baseDelay.nanos * min (2 ^ attempt.toNat) (2 ^ 32 - 1)) Span.greatest
  rises : ∀ earlier later : UInt32, earlier ≤ later →
    (policy.backoffDelay earlier).nanos ≤ (policy.backoffDelay later).nanos

theorem backsOff (policy : RetryPolicy) : policy.BacksOff := by
  have delay (attempt : UInt32) : (policy.backoffDelay attempt).nanos =
      min (policy.baseDelay.nanos * min (2 ^ attempt.toNat) (2 ^ 32 - 1)) Span.greatest := by
    rw [← backoffFactor_eq]
    rfl
  refine ⟨fun attempt => ?_, delay, fun earlier later order => ?_⟩
  · rw [backoffFactor_eq]
    exact Nat.lt_of_le_of_lt (Nat.min_le_right _ _) (by decide)
  · have powers : 2 ^ earlier.toNat ≤ 2 ^ later.toNat :=
      Nat.pow_le_pow_right (by decide) (UInt32.le_iff_toNat_le.1 order)
    have factors : min (2 ^ earlier.toNat) (2 ^ 32 - 1) ≤ min (2 ^ later.toNat) (2 ^ 32 - 1) := by
      omega
    have products := Nat.mul_le_mul_left policy.baseDelay.nanos factors
    rw [delay, delay]
    omega

/-- The pauses of one look-up: each is twice the one before, and no span reaches the longest. -/
structure Doubles (policy : RetryPolicy) : Prop where
  exact : ∀ i, i + 1 < policy.allowed →
    (policy.pauseAfter i).nanos = policy.baseDelay.nanos * 2 ^ i
  doubled : ∀ i, i + 2 < policy.allowed →
    (policy.pauseAfter (i + 1)).nanos = 2 * (policy.pauseAfter i).nanos
  below : ∀ i, i + 1 < policy.allowed → (policy.pauseAfter i).nanos < Span.greatest
  listing : policy.listTimeout.nanos = 2 * policy.requestTimeout.nanos
  listingBelow : policy.listTimeout.nanos < Span.greatest

/-- At most ten attempts, with a minute behind the first, stay far below the longest span. -/
theorem doubles_of_bounded {policy : RetryPolicy} (few : policy.allowed ≤ 10)
    (base : policy.baseDelay.nanos ≤ 60 * nanosInSecond)
    (timeout : policy.requestTimeout.nanos ≤ 120 * nanosInSecond) : policy.Doubles := by
  have far : 60 * nanosInSecond * 2 ^ 9 < Span.greatest := by decide
  have product (i : Nat) (another : i + 1 < policy.allowed) :
      policy.baseDelay.nanos * 2 ^ i < Span.greatest := by
    have power : 2 ^ i ≤ 2 ^ 9 := Nat.pow_le_pow_right (by decide) (by omega)
    exact Nat.lt_of_le_of_lt (Nat.mul_le_mul base power) far
  have exact (i : Nat) (another : i + 1 < policy.allowed) :
      (policy.pauseAfter i).nanos = policy.baseDelay.nanos * 2 ^ i := by
    have word : (UInt32.ofNat i).toNat = i := UInt32.toNat_ofNat_of_lt' (by
      have size : UInt32.size = 4294967296 := rfl
      omega)
    have factor : min (2 ^ i) (2 ^ 32 - 1) = 2 ^ i := by
      have power : 2 ^ i ≤ 2 ^ 9 := Nat.pow_le_pow_right (by decide) (by omega)
      omega
    rw [pauseAfter, policy.backsOff.delay, word, factor]
    exact Nat.min_eq_left (Nat.le_of_lt (product i another))
  have twice : policy.requestTimeout.nanos * 2 < Span.greatest :=
    Nat.lt_of_le_of_lt (Nat.mul_le_mul_right 2 timeout) (by decide)
  have listing : policy.listTimeout.nanos = policy.requestTimeout.nanos * 2 := by
    rw [listTimeout, Span.nanos_scale, Nat.min_eq_left (Nat.le_of_lt twice)]
  refine ⟨exact, fun i more => ?_, fun i another => ?_, by omega, by omega⟩
  · rw [exact i (by omega), exact (i + 1) more, Nat.pow_succ, ← Nat.mul_assoc, Nat.mul_comm]
  · rw [exact i another]
    exact product i another

end RetryPolicy

theorem SyncSettings.InRange.doubles {settings : SyncSettings} (inRange : settings.InRange) :
    settings.policy.retry.Doubles := by
  have seconds (n : Nat) : 1000 * n * nanosInMilli = n * nanosInSecond := by
    rw [nanosInMilli, nanosInSecond]
    omega
  have base := Nat.mul_le_mul_right nanosInMilli inRange.retryBaseDelay.2
  have timeout := Nat.mul_le_mul_right nanosInMilli inRange.requestTimeout.2
  refine RetryPolicy.doubles_of_bounded (Nat.max_le.2 ⟨inRange.maxRetries.2, by decide⟩) ?_ ?_
  · rw [policy, Span.nanos_ofMillis, ← seconds 60]
    exact Nat.le_trans (Nat.min_le_left _ _) base
  · rw [policy, Span.nanos_ofMillis, ← seconds 120]
    exact Nat.le_trans (Nat.min_le_left _ _) timeout

/-- Whatever a registry makes of the calls for a latest version, the look-up ends with the first
attempt in time or the last one that is allowed, calls no more, pauses between calls only and says
what that attempt says. The pauses never wrap and never become shorter. With settings that keep the
rules each of them is twice the one before, far from the longest span, and so is the time for the
list of all subjects. -/
theorem missed_deadlines_are_retried :
    (∀ (policy : RetryPolicy) subject reactions start,
        ∃ last, policy.EndsWith subject reactions start last) ∧
      (∀ policy : RetryPolicy, policy.BacksOff) ∧
      ∀ settings : SyncSettings, settings.validate = .ok () → settings.policy.retry.Doubles :=
  ⟨RetryPolicy.exists_endsWith, RetryPolicy.backsOff, fun _ valid =>
    (SyncSettings.validate_eq_ok_iff.1 valid).doubles⟩

/-- A registry that never answers is called three times, for ten seconds each, with pauses of half a
second and of a second in between. -/
theorem missed_deadlines_are_retried_of_silence :
    SyncSettings.standard.validate = .ok () ∧ SyncSettings.standard.policy.retry.Doubles ∧
      ∃ notes, (Program.latest SyncSettings.standard.policy.retry "orders").run
          (Reactions.host fun _ _ => .hangs) 0 .empty =
        (.unavailable, 31500000000, ⟨3, notes⟩) := by
  have valid : SyncSettings.standard.validate = .ok () := rfl
  obtain ⟨ends, -, doubles⟩ := missed_deadlines_are_retried
  obtain ⟨last, -, -, final, run⟩ := ends SyncSettings.standard.policy.retry "orders"
    (fun _ _ => .hangs) 0
  refine ⟨valid, doubles _ valid, ?_⟩
  rcases final with all | ⟨-, inTime⟩
  · obtain rfl : last = 2 := Nat.succ.inj all
    have moment : SyncSettings.standard.policy.retry.endMoment "orders" (fun _ _ => .hangs) 0 2 =
        31500000000 := by decide +kernel
    rw [moment] at run
    exact ⟨_, run⟩
  · exact absurd rfl inTime

end SchemaLedger
