import SchemaLedger.Proofs.Sync.Conduct

namespace SchemaLedger

def Attempt.value? {α : Type} : Attempt α → Option α
  | .answered value => some value
  | .timedOut => none
  | .failed _ => none

/-- The mark lies at a version or above it. -/
def Shelf.Reaches (shelf : Shelf) (version : UInt32) : Prop :=
  ∃ mark, shelf.mark = some mark ∧ version ≤ mark

namespace Replies

variable (replies : Replies) (subject : String)

/-- The settings of a subject, as far as they can be had. -/
def settings : EntryUpdate where
  compatibilityLevel := (replies (.config subject)).value?.join.bind (·.compatibilityLevel)
  readOnly := (replies (.mode subject)).value?.map (·.isReadOnly)
  environment := environment? subject

/-- What is found under a number by work that knows the latest version already. -/
def offer (latest : Registered) (version : UInt32) : Lookup Registered :=
  if version = latest.version then .found latest
  else .ofAttempt (replies (.version subject version))

/-- The registry has nothing to keep of a version. -/
def Barren (latest : Registered) (version : UInt32) : Prop :=
  replies.offer subject latest version ≠ .unavailable ∧ ∀ registered,
    replies.offer subject latest version = .found registered →
    Snapshot.ofRegistered? subject version registered = none

/-- There is nothing left to do: the registry offers no latest version, or the mark has reached it,
or none of the versions above the mark has anything to keep, up to the latest one or to one that
cannot be had, and the settings are those of the registry. -/
inductive Settled (shelf : Shelf) : Prop
  | unoffered : (∀ latest, replies (.latest subject) ≠ .answered latest) → Settled shelf
  | reached {latest} : replies (.latest subject) = .answered latest →
      shelf.Reaches latest.version → Settled shelf
  | idle {latest} : replies (.latest subject) = .answered latest →
      (∀ version, lowestSwept shelf.mark latest.version ≤ version.toNat → version ≤ latest.version →
        replies.Barren subject latest version ∨
          ∃ gap, lowestSwept shelf.mark latest.version ≤ gap.toNat ∧ gap ≤ version ∧
            replies.offer subject latest gap = .unavailable) →
      shelf.entry.map (replies.settings subject).apply = shelf.entry → Settled shelf

/-- The versions from `first` on and below `stop` have been gone through, on the way from one
catalog to another. -/
structure Through (latest : Registered) (first stop : Nat) (old new : Catalog) : Prop where
  rises : ∀ version, (old.shelf subject).Reaches version → (new.shelf subject).Reaches version
  bounded : ∀ version, (new.shelf subject).Reaches version →
    (old.shelf subject).Reaches version ∨ version.toNat < stop
  found : ∀ version, first ≤ version.toNat → version.toNat < stop →
    replies.offer subject latest version ≠ .unavailable
  dealt : ∀ version, first ≤ version.toNat → version.toNat < stop →
    (new.shelf subject).Reaches version ∨ replies.Barren subject latest version
  idle : (∀ version, first ≤ version.toNat → version.toNat < stop →
    replies.Barren subject latest version) → new = old

/-- All versions below the latest one have been gone through, or those below one that cannot be
had. -/
def Fetched (latest : Registered) (first : Nat) (missing : Option UInt32) (old new : Catalog) :
    Prop :=
  match missing with
  | none => first ≤ latest.version.toNat ∧
    replies.Through subject latest first latest.version.toNat old new
  | some gap => first ≤ gap.toNat ∧ gap ≤ latest.version ∧
    replies.offer subject latest gap = .unavailable ∧
    replies.Through subject latest first gap.toNat old new

/-- What work on a subject may come to. -/
inductive CaughtUp (start : Catalog) : Catalog → Prop
  | unoffered : (∀ latest, replies (.latest subject) ≠ .answered latest) → CaughtUp start start
  | reached {latest} : replies (.latest subject) = .answered latest →
      (start.shelf subject).Reaches latest.version → CaughtUp start start
  | advanced {latest stop between} : replies (.latest subject) = .answered latest →
      ¬(start.shelf subject).Reaches latest.version →
      replies.Through subject latest (lowestSwept (start.mark subject) latest.version) stop start
        between →
      (stop = latest.version.toNat + 1 ∨ ∃ gap, gap.toNat = stop ∧ gap ≤ latest.version ∧
        lowestSwept (start.mark subject) latest.version ≤ stop ∧
        replies.offer subject latest gap = .unavailable) →
      CaughtUp start (between.update subject (replies.settings subject)).2

end Replies

theorem EntryUpdate.apply_apply (update : EntryUpdate) (entry : Entry) :
    update.apply (update.apply entry) = update.apply entry := by
  obtain ⟨level, readOnly, environment⟩ := update
  cases level <;> cases readOnly <;> cases environment <;> rfl

namespace Shelf

variable {shelf : Shelf} {version target : UInt32} {row : Snapshot}

theorem reaches_put :
    (shelf.put row).2.Reaches version ↔ shelf.Reaches version ∨ version ≤ row.version := by
  obtain ⟨mark, atMark, own, rises⟩ := shelf.le_mark_put row
  constructor
  · rintro ⟨now, atNow, below⟩
    rcases mark_put_cases atNow with rfl | before
    · exact .inr below
    · exact .inl ⟨now, before, below⟩
  · rintro (⟨before, atBefore, below⟩ | below)
    · exact ⟨mark, atMark, UInt32.le_trans below (rises before atBefore)⟩
    · exact ⟨mark, atMark, UInt32.le_trans below own⟩

/-- Where work on a shelf begins, told by what its mark has reached. -/
theorem lowest_le_iff (behind : ¬shelf.Reaches target) (within : version ≤ target) :
    lowestSwept shelf.mark target ≤ version.toNat ↔
      ¬shelf.Reaches version ∧ (0 < version.toNat ∨ version = target) := by
  rw [UInt32.le_iff_toNat_le] at within
  rw [← UInt32.toNat_inj]
  cases atMark : shelf.mark with
  | none =>
    have unreached : ¬shelf.Reaches version := by
      rintro ⟨mark, isMark, -⟩
      cases atMark.symm.trans isMark
    have one : (Program.firstAbove none).toNat = 1 := rfl
    rw [lowestSwept, one]
    simp only [unreached, not_false_iff, true_and]
    omega
  | some mark =>
    have reaches (number : UInt32) : shelf.Reaches number ↔ number.toNat ≤ mark.toNat := by
      rw [Shelf.Reaches, atMark, ← UInt32.le_iff_toNat_le]
      simp
    rw [reaches] at behind ⊢
    have above : mark.toNat < target.toNat := by omega
    rw [lowestSwept, firstAbove_toNat_of_lt above]
    omega

end Shelf

namespace Replies

variable {replies : Replies} {subject : String} {latest : Registered} {first middle stop : Nat}
  {old between new start catalog : Catalog}

namespace Through

theorem refl (catalog : Catalog) : replies.Through subject latest stop stop catalog catalog where
  rises _ reached := reached
  bounded _ reached := .inl reached
  found version low high := absurd high (by omega)
  dealt version low high := absurd high (by omega)
  idle _ := rfl

theorem trans (before : replies.Through subject latest first middle old between)
    (after : replies.Through subject latest middle stop between new) (le : first ≤ middle)
    (le' : middle ≤ stop) : replies.Through subject latest first stop old new where
  rises version reached := after.rises version (before.rises version reached)
  bounded version reached := by
    rcases after.bounded version reached with earlier | below
    · exact (before.bounded version earlier).imp_right fun below => by omega
    · exact .inr below
  found version low high := by
    by_cases early : version.toNat < middle
    · exact before.found version low early
    · exact after.found version (by omega) high
  dealt version low high := by
    by_cases early : version.toNat < middle
    · exact (before.dealt version low early).imp_left (after.rises version)
    · exact after.dealt version (by omega) high
  idle barren := by
    have late := after.idle fun version low high => barren version (by omega) high
    have early := before.idle fun version low high => barren version low (by omega)
    exact late.trans early

/-- A single version, and the mark at most raised to it. -/
theorem single {version : UInt32} (atVersion : version.toNat = stop)
    (rises : ∀ other, (old.shelf subject).Reaches other → (new.shelf subject).Reaches other)
    (bounded : ∀ other, (new.shelf subject).Reaches other →
      (old.shelf subject).Reaches other ∨ other ≤ version)
    (found : replies.offer subject latest version ≠ .unavailable)
    (dealt : (new.shelf subject).Reaches version ∨ replies.Barren subject latest version)
    (idle : replies.Barren subject latest version → new = old) :
    replies.Through subject latest stop (stop + 1) old new := by
  have only {other : UInt32} (low : stop ≤ other.toNat) (high : other.toNat < stop + 1) :
      other = version := UInt32.toNat_inj.1 (by omega)
  refine
    { rises := rises
      bounded := fun other reached => ?_
      found := fun other low high => only low high ▸ found
      dealt := fun other low high => only low high ▸ dealt
      idle := fun barren => idle (barren version (by omega) (by omega)) }
  refine (bounded other reached).imp_right fun below => ?_
  rw [UInt32.le_iff_toNat_le] at below
  omega

/-- One version of which there is nothing to keep. -/
theorem barren {version : UInt32} (barren : replies.Barren subject latest version)
    (atVersion : version.toNat = stop) :
    replies.Through subject latest stop (stop + 1) catalog catalog :=
  single atVersion (fun _ reached => reached) (fun _ => .inl) barren.1 (.inr barren) fun _ => rfl

/-- One version that is kept. -/
theorem kept {version : UInt32} {registered : Registered} {row : Snapshot}
    (offered : replies.offer subject latest version = .found registered)
    (built : Snapshot.ofRegistered? subject version registered = some row)
    (atVersion : version.toNat = stop) :
    replies.Through subject latest stop (stop + 1) catalog (catalog.perform (.put row)).2 := by
  obtain ⟨own, number⟩ := Snapshot.ofRegistered?_subject built
  have reaches (other : UInt32) : ((catalog.perform (.put row)).2.shelf subject).Reaches other ↔
      (catalog.shelf subject).Reaches other ∨ other ≤ version := by
    subst own number
    simp only [Catalog.perform, Catalog.put, Catalog.shelf_setShelf_self]
    exact Shelf.reaches_put
  have found : replies.offer subject latest version ≠ .unavailable := fun missing => by
    cases offered.symm.trans missing
  refine single atVersion (fun other early => (reaches other).2 (.inl early))
    (fun other => (reaches other).1) found ?_ fun barren => ?_
  · exact .inl ((reaches version).2 (.inr (UInt32.le_refl version)))
  · have nothing := barren.2 registered offered
    cases nothing.symm.trans built

end Through

theorem Fetched.after {missing : Option UInt32}
    (through : replies.Through subject latest first (first + 1) old between)
    (rest : replies.Fetched subject latest (first + 1) missing between new) :
    replies.Fetched subject latest first missing old new := by
  cases missing with
  | none =>
    obtain ⟨low, rest⟩ := rest
    exact ⟨by omega, through.trans rest (Nat.le_succ _) low⟩
  | some gap =>
    obtain ⟨low, high, unavailable, rest⟩ := rest
    exact ⟨by omega, high, unavailable, through.trans rest (Nat.le_succ _) low⟩

/-- The work on a subject leaves nothing to do behind. -/
theorem CaughtUp.settled (caughtUp : replies.CaughtUp subject start catalog) :
    replies.Settled subject (catalog.shelf subject) := by
  cases caughtUp with
  | unoffered none => exact .unoffered none
  | reached offered reached => exact .reached offered reached
  | @advanced latest stop between offered behind through ends =>
    have marked : ((between.update subject (replies.settings subject)).2.shelf subject).mark =
        (between.shelf subject).mark := Catalog.mark_update between subject _
    have reaches (version : UInt32) :
        ((between.update subject (replies.settings subject)).2.shelf subject).Reaches version ↔
          (between.shelf subject).Reaches version := by
      rw [Shelf.Reaches, marked, Shelf.Reaches]
    by_cases current : (between.shelf subject).Reaches latest.version
    · exact .reached offered ((reaches _).2 current)
    refine .idle offered (fun version low within => ?_) ?_
    · rw [marked] at low ⊢
      have ahead := (Shelf.lowest_le_iff current within).1 low
      have begun : lowestSwept (start.mark subject) latest.version ≤ version.toNat :=
        (Shelf.lowest_le_iff behind within).2 ⟨fun early => ahead.1 (through.rises _ early), ahead.2⟩
      by_cases passed : version.toNat < stop
      · exact .inl ((through.dealt version begun passed).resolve_left ahead.1)
      · rw [UInt32.le_iff_toNat_le] at within
        rcases ends with all | ⟨gap, atGap, below, lowest, unavailable⟩
        · omega
        · have unreached := (Shelf.lowest_le_iff behind below).1 (atGap ▸ lowest)
          have still : ¬(between.shelf subject).Reaches gap := fun reached =>
            (through.bounded gap reached).elim unreached.1 (by omega)
          refine .inr ⟨gap, (Shelf.lowest_le_iff current below).2 ⟨still, unreached.2⟩, ?_,
            unavailable⟩
          exact UInt32.le_iff_toNat_le.2 (by omega)
    · rw [Catalog.update_snd, Option.map_map]
      congr 1
      exact funext (EntryUpdate.apply_apply _)

/-- Where there is nothing to do, the work on a subject does nothing. -/
theorem Settled.shelf_eq (settled : replies.Settled subject (start.shelf subject))
    (caughtUp : replies.CaughtUp subject start catalog) :
    catalog.shelf subject = start.shelf subject := by
  cases caughtUp with
  | unoffered => rfl
  | reached => rfl
  | @advanced latest stop between offered behind through ends =>
    cases settled with
    | unoffered none => exact absurd offered (none latest)
    | @reached other offered' reached =>
      cases offered.symm.trans offered'
      exact absurd reached behind
    | @idle other offered' idle fixed =>
      cases offered.symm.trans offered'
      have within {version : UInt32} (below : version.toNat < stop) : version ≤ latest.version := by
        rw [UInt32.le_iff_toNat_le]
        rcases ends with all | ⟨gap, atGap, most, -⟩
        · omega
        · rw [UInt32.le_iff_toNat_le] at most
          omega
      have same : between = start := through.idle fun version low high => by
        rcases idle version low (within high) with barren | ⟨gap, above, below, unavailable⟩
        · exact barren
        · rw [UInt32.le_iff_toNat_le] at below
          exact absurd unavailable (through.found gap above (by omega))
      rw [Catalog.update_snd, same, fixed]

end Replies

namespace Program

variable {α β : Type} {replies : Replies} {policy : RetryPolicy} {subject : String}
  {latest : Registered} {catalog : Catalog}

/-- Over a registry without moods and a catalog that refuses nothing, a program ends like this. -/
def Ends (replies : Replies) (post : α → Catalog → Prop) (program : Program α) (catalog : Catalog) :
    Prop :=
  ∀ told, program.Keeps (Conduct.steady replies .none).around (fun _ _ => True)
    (fun value _ catalog' => post value catalog') told catalog

theorem Course.ends {program : Program α} {post : α → Catalog → Prop} {start : Catalog}
    {told : List Exchange} {value : α}
    (course : Course (Conduct.steady replies .none).around program start told (.done value) catalog)
    (ends : program.Ends replies post start) : post value catalog :=
  course.kept_done trivial (ends [])

section Steps

variable {program : Program α} {post post' : α → Catalog → Prop}

theorem Ends.mono (ends : program.Ends replies post catalog)
    (weaker : ∀ value catalog, post value catalog → post' value catalog) :
    program.Ends replies post' catalog := fun told =>
  (ends told).mono fun value _ catalog => weaker value catalog

theorem ends_bind {f : α → Program β} {post : β → Catalog → Prop}
    (first : program.Ends replies (fun value => (f value).Ends replies post) catalog) :
    (program >>= f).Ends replies post catalog := fun told =>
  keeps_bind.2 ((first told).mono fun _ told' _ rest => rest told')

theorem ends_done {value : α} (holds : post value catalog) :
    (done value).Ends replies post catalog := fun _ => holds

variable {f : Unit → Program β} {post : β → Catalog → Prop}

theorem ends_query {limit : Span} {call : Query} {f : Attempt call.Reply → Program β}
    (rest : (f (replies call)).Ends replies post catalog) :
    (query limit call >>= f).Ends replies post catalog := by
  intro told attempt catalog' gives
  cases gives with
  | replied reply =>
    cases reply
    exact ⟨trivial, rest _⟩

theorem ends_store {request : Request} {f : Except StoreError request.Answer → Program β}
    (rest : (f (.ok (catalog.perform request).1)).Ends replies post (catalog.perform request).2) :
    (store request >>= f).Ends replies post catalog := by
  intro told answer catalog' gives
  cases gives with
  | accepted => exact ⟨trivial, rest _⟩
  | refused refused => cases refused

theorem ends_report {event : Event} (rest : (f ()).Ends replies post catalog) :
    (report event >>= f).Ends replies post catalog := by
  intro told answer catalog' gives
  cases gives with
  | reported => exact ⟨trivial, rest _⟩

theorem ends_pause {span : Span} (rest : (f ()).Ends replies post catalog) :
    (pause span >>= f).Ends replies post catalog := by
  intro told answer catalog' gives
  cases gives with
  | paused => exact ⟨trivial, rest _⟩

end Steps

theorem ends_settle {version : Option UInt32} {attempt : Attempt Registered} :
    (settle subject version attempt).Ends replies
      (fun found catalog' => found = Lookup.ofAttempt attempt ∧ catalog' = catalog) catalog := by
  unfold settle
  cases Lookup.event? subject version attempt with
  | none => exact ends_done ⟨rfl, rfl⟩
  | some event => exact ends_report (ends_done ⟨rfl, rfl⟩)

theorem ends_version {number : UInt32} (below : number ≠ latest.version) :
    (version policy subject number).Ends replies
      (fun found catalog' => found = replies.offer subject latest number ∧ catalog' = catalog)
      catalog := by
  rw [Replies.offer, if_neg below]
  exact ends_query ends_settle

theorem ends_latestFrom (left made : Nat)
    (asked : left ≠ 0 ∨ replies (.latest subject) = .timedOut) :
    (latestFrom policy subject left made).Ends replies
      (fun found catalog' => found = Lookup.ofAttempt (replies (.latest subject)) ∧
        catalog' = catalog) catalog := by
  induction left generalizing made with
  | zero =>
    have silent := asked.resolve_left (absurd rfl)
    rw [silent]
    exact ends_report (ends_done ⟨rfl, rfl⟩)
  | succ left ih =>
    refine ends_query ?_
    cases reply : replies (.latest subject) with
    | answered | failed => exact ends_settle
    | timedOut =>
      rw [reply] at ih
      have again := ih (made + 1) (.inr rfl)
      dsimp only
      split
      · exact ends_report (ends_pause again)
      · exact again

theorem ends_latest : (Program.latest policy subject).Ends replies
    (fun found catalog' => found = Lookup.ofAttempt (replies (.latest subject)) ∧
      catalog' = catalog) catalog :=
  ends_latestFrom _ _ (.inl (by omega))

theorem ends_config : (config policy subject).Ends replies
    (fun config catalog' => config = (replies (.config subject)).value?.join ∧ catalog' = catalog)
    catalog := by
  refine ends_query ?_
  cases replies (.config subject) with
  | answered => exact ends_done ⟨rfl, rfl⟩
  | timedOut | failed => exact ends_report (ends_done ⟨rfl, rfl⟩)

theorem ends_mode : (mode policy subject).Ends replies
    (fun mode catalog' => mode = (replies (.mode subject)).value? ∧ catalog' = catalog)
    catalog := by
  refine ends_query ?_
  cases replies (.mode subject) with
  | answered => exact ends_done ⟨rfl, rfl⟩
  | timedOut | failed => exact ends_report (ends_done ⟨rfl, rfl⟩)

theorem ends_refresh : (refresh policy subject).Ends replies
    (fun _ catalog' => catalog' = (catalog.update subject (replies.settings subject)).2)
    catalog := by
  refine ends_bind (ends_config.mono ?_)
  rintro _ _ ⟨rfl, rfl⟩
  refine ends_bind (ends_mode.mono ?_)
  rintro _ catalog ⟨rfl, rfl⟩
  refine ends_store ?_
  generalize (catalog.perform (.update subject _)).1 = changed
  cases changed with
  | true => exact ends_done rfl
  | false => exact ends_report (ends_done rfl)

theorem ends_keep {version : UInt32} {registered : Registered} {next : Nat}
    (offered : replies.offer subject latest version = .found registered)
    (atNext : version.toNat = next) :
    (keep subject version registered).Ends replies
      (fun _ catalog' => replies.Through subject latest next (next + 1) catalog catalog')
      catalog := by
  unfold keep
  split
  · rename_i bodyless
    have barren : replies.Barren subject latest version := by
      refine ⟨by rw [offered]; nofun, fun other same => ?_⟩
      cases offered.symm.trans same
      exact bodyless
    exact ends_report (ends_done (.barren barren atNext))
  · rename_i row built
    have kept : replies.Through subject latest next (next + 1) catalog
        (catalog.perform (.put row)).2 := .kept offered built atNext
    refine ends_store ?_
    cases (catalog.perform (.put row)).1 with
    | inserted => exact ends_done kept
    | alreadyPresent => exact ends_done kept

/-- The induction is on the number of versions still to fetch. -/
theorem ends_fetchFrom (count : Nat) {next : Nat} (number : UInt32) (tally : Tally)
    (atNext : count ≠ 0 → number.toNat = next) (upTo : next + count = latest.version.toNat) :
    (fetchFrom policy subject count number tally).Ends replies
      (fun result => replies.Fetched subject latest next result.2 catalog) catalog := by
  induction count generalizing number tally next catalog with
  | zero =>
    rw [Nat.add_zero] at upTo
    exact ends_done ⟨Nat.le_of_eq upTo, upTo ▸ .refl catalog⟩
  | succ count ih =>
    have here : number.toNat = next := atNext (Nat.succ_ne_zero count)
    have ahead : number.toNat < latest.version.toNat := by omega
    have below : number ≠ latest.version := by
      rintro rfl
      omega
    have step : (number + 1).toNat = next + 1 := by
      rw [toNat_succ_of_lt ahead latest.version.toNat_lt, here]
    have further {between : Catalog} (tally : Tally)
        (through : replies.Through subject latest next (next + 1) catalog between) :
        (fetchFrom policy subject count (number + 1) tally).Ends replies
          (fun result => replies.Fetched subject latest next result.2 catalog) between :=
      (ih (number + 1) tally (fun _ => step) (by omega)).mono fun _ _ rest => rest.after through
    refine ends_bind ((ends_version below).mono ?_)
    rintro _ catalog ⟨rfl, rfl⟩
    cases offered : replies.offer subject latest number with
    | found registered =>
      exact ends_bind ((ends_keep offered here).mono fun kept between => further _)
    | notFound =>
      have barren : replies.Barren subject latest number :=
        ⟨by rw [offered]; nofun, fun _ found => by cases offered.symm.trans found⟩
      exact ends_report (further _ (.barren barren here))
    | unavailable =>
      have within : number ≤ latest.version := UInt32.le_iff_toNat_le.2 (by omega)
      exact ends_report
        (ends_done ⟨Nat.le_of_eq here.symm, within, offered, here ▸ .refl catalog⟩)

theorem ends_advance (offered : replies (.latest subject) = .answered latest)
    (behind : ¬(catalog.shelf subject).Reaches latest.version) :
    (advance policy subject (catalog.mark subject) latest).Ends replies
      (fun _ => replies.CaughtUp subject catalog) catalog := by
  have distance : lowestSwept (catalog.mark subject) latest.version +
      (latest.version.toNat - (firstAbove (catalog.mark subject)).toNat) =
        latest.version.toNat := by
    simp only [lowestSwept]
    omega
  refine ends_report (ends_bind ((ends_fetchFrom _ _ _ (fun some => ?_) distance).mono ?_))
  · simp only [lowestSwept]
    omega
  rintro ⟨fetched, missing⟩ between through
  cases missing with
  | none =>
    obtain ⟨low, through⟩ := through
    refine ends_bind ((ends_keep (if_pos rfl) rfl).mono ?_)
    intro kept between' last
    refine ends_bind (ends_refresh.mono ?_)
    rintro _ _ rfl
    exact ends_done (.advanced offered behind (through.trans last low (Nat.le_succ _)) (.inl rfl))
  | some gap =>
    obtain ⟨above, below, unavailable, through⟩ := through
    refine ends_bind (ends_done (ends_bind (ends_refresh.mono ?_)))
    rintro _ _ rfl
    exact ends_done
      (.advanced offered behind through (.inr ⟨gap, rfl, below, above, unavailable⟩))

theorem ends_catchUp : (catchUp policy subject).Ends replies
    (fun _ => replies.CaughtUp subject catalog) catalog := by
  refine ends_store (ends_bind (ends_latest.mono ?_))
  rintro _ catalog ⟨rfl, rfl⟩
  cases asked : Lookup.ofAttempt (replies (.latest subject)) with
  | notFound | unavailable =>
    refine ends_done (.unoffered fun latest offered => ?_)
    rw [Lookup.ofAttempt_eq_found.2 offered] at asked
    cases asked
  | found latest =>
    have offered := Lookup.ofAttempt_eq_found.1 asked
    have current : (catalog.mark subject).any (latest.version ≤ ·) = true ↔
        (catalog.shelf subject).Reaches latest.version := by
      simp [Option.any_eq_true, Shelf.Reaches, Catalog.mark_eq]
    change Ends _ _ (if (catalog.mark subject).any (latest.version ≤ ·) then _ else _) _
    split
    · rename_i reached
      exact ends_report (ends_done (.reached offered (current.1 reached)))
    · rename_i behind
      exact ends_advance offered fun reached => behind (current.2 reached)

end Program

end SchemaLedger
