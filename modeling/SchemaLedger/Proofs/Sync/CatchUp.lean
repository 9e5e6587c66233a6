import SchemaLedger.Proofs.Sync.Sweep

namespace SchemaLedger

/-- Looking for versions of a subject below a bound and keeping what was found. -/
inductive Effect.Fetches (subject : String) (below : Nat) : Effect → Prop
  | latest {limit} : Fetches subject below (.query limit (.latest subject))
  | version {limit number} : number.toNat < below →
      Fetches subject below (.query limit (.version subject number))
  | put {row} : row.subject = subject → Fetches subject below (.store (.put row))
  | pause {span} : Fetches subject below (.pause span)
  | report {event} : Fetches subject below (.report event)

/-- Looking for the settings of a subject and keeping them. -/
inductive Effect.Settles (subject : String) : Effect → Prop
  | config {limit} : Settles subject (.query limit (.config subject))
  | mode {limit} : Settles subject (.query limit (.mode subject))
  | update {change} : Settles subject (.store (.update subject change))
  | report {event} : Settles subject (.report event)

theorem Effect.Fetches.about {subject : String} {below : Nat} {effect : Effect}
    (fetches : effect.Fetches subject below) : effect.About subject := by
  cases fetches with
  | latest | version => rfl
  | put own => exact congrArg some own
  | pause | report => trivial

theorem Effect.Settles.about {subject : String} {effect : Effect}
    (settles : effect.Settles subject) : effect.About subject := by
  cases settles with
  | config | mode | update => rfl
  | report => trivial

/-- A moment of the work on a subject that was begun in the catalog `start`. -/
def Underway (subject : String) (start : Catalog) (told : List Exchange) (catalog : Catalog) :
    Prop :=
  Unmoved subject start told catalog ∨ ∃ latest next,
    Swept subject start latest next told catalog ∧ next ≤ latest.version.toNat + 1

/-- What an outcome says about the work that ended with it. -/
def Concluded (subject : String) (start : Catalog) (outcome : Outcome) (told : List Exchange)
    (catalog : Catalog) : Prop :=
  match outcome with
  | .synced _ _ => ∃ latest,
    Swept subject start latest (latest.version.toNat + 1) told catalog
  | .interrupted _ _ missing => ∃ latest,
    Swept subject start latest missing.toNat told catalog ∧
      missing.toNat < latest.version.toNat ∧
      ∃ attempt, Heard told (.version subject missing) attempt ∧
        Lookup.ofAttempt attempt = .unavailable
  | .skipped .upToDate => Unmoved subject start told catalog ∧ ∃ latest mark,
    (∀ registered, Heard told (.latest subject) (.answered registered) ↔ registered = latest) ∧
      start.mark subject = some mark ∧ latest.version ≤ mark
  | .skipped .notInRegistry => Unmoved subject start told catalog ∧
    (∀ registered, ¬Heard told (.latest subject) (.answered registered)) ∧
      ∃ detail, Heard told (.latest subject) (.failed (.notFound detail))
  | .failed (.markUnread error) => Unmoved subject start told catalog ∧
    (∀ registered, ¬Heard told (.latest subject) (.answered registered)) ∧
      Answered told (.mark subject) (.error error)
  | .failed .latestUnavailable => Unmoved subject start told catalog ∧
    (∀ registered, ¬Heard told (.latest subject) (.answered registered)) ∧
      ∃ attempt, Heard told (.latest subject) attempt

theorem Unmoved.chatter {subject : String} {start catalog : Catalog} {told later : List Exchange}
    {call : Query} (unmoved : Unmoved subject start told catalog) (chatter : Chatter call later) :
    Unmoved subject start (told ++ later) catalog where
  rows := unmoved.rows
  mark := unmoved.mark
  attempts row answer answered :=
    (answered_append.1 answered).elim (unmoved.attempts row answer) chatter.not_answered

theorem Unmoved.report {subject : String} {start catalog : Catalog} {told : List Exchange}
    (unmoved : Unmoved subject start told catalog) (event : Event) :
    Unmoved subject start (told ++ [⟨.report event, ()⟩]) catalog where
  rows := unmoved.rows
  mark := unmoved.mark
  attempts row answer answered :=
    (answered_append.1 answered).elim (unmoved.attempts row answer) not_answered_report

theorem Unmoved.nil {subject : String} {start : Catalog} : Unmoved subject start [] start :=
  ⟨fun _ => rfl, rfl, fun _ _ => not_answered_nil⟩

/-- Asking for the mark moves nothing. -/
theorem Unmoved.begun (subject : String) (start : Catalog)
    (answer : Except StoreError (Option UInt32)) :
    Unmoved subject start [⟨.store (.mark subject), answer⟩] start where
  rows _ := rfl
  mark := rfl
  attempts row given member := by cases List.mem_singleton.1 member

/-- With a latest version above the mark a sweep begins, and nothing lies behind it yet. -/
theorem Unmoved.swept {subject : String} {start catalog : Catalog} {told : List Exchange}
    {latest : Registered} (unmoved : Unmoved subject start told catalog)
    (read : Answered told (.mark subject) (.ok (start.mark subject)))
    (only : ∀ registered,
      Heard told (.latest subject) (.answered registered) ↔ registered = latest)
    (ahead : ∀ mark, start.mark subject = some mark → mark.toNat < latest.version.toNat) :
    Swept subject start latest (lowestSwept (start.mark subject) latest.version) told catalog where
  read := read
  heard := (only latest).2 rfl
  only registered := (only registered).1
  ahead := ahead
  lowest := Nat.le_refl _
  handled version low high := absurd high (by omega)
  others version _ := unmoved.rows version
  attempts row answer answered := absurd answered (unmoved.attempts row answer)
  refused row error answered := absurd answered (unmoved.attempts row _)
  written row outcome answered := absurd answered (unmoved.attempts row _)
  mark := .inl unmoved.mark

theorem Unmoved.congr {subject : String} {start catalog start' catalog' : Catalog}
    {told : List Exchange} (unmoved : Unmoved subject start told catalog)
    (before : start.shelf subject = start'.shelf subject)
    (after : catalog.shelf subject = catalog'.shelf subject) :
    Unmoved subject start' told catalog' where
  rows version := by
    have same := unmoved.rows version
    rwa [Catalog.row?, Catalog.row?, before, after] at same
  mark := by
    have same := unmoved.mark
    rwa [Catalog.mark_eq, Catalog.mark_eq, before, after] at same
  attempts := unmoved.attempts

theorem Underway.congr {subject : String} {start catalog start' catalog' : Catalog}
    {told : List Exchange} (underway : Underway subject start told catalog)
    (before : start.shelf subject = start'.shelf subject)
    (after : catalog.shelf subject = catalog'.shelf subject) :
    Underway subject start' told catalog' := by
  rcases underway with unmoved | ⟨latest, next, swept, within⟩
  · exact .inl (unmoved.congr before after)
  · exact .inr ⟨latest, next, swept.congr before after, within⟩

theorem Concluded.congr {subject : String} {start catalog start' catalog' : Catalog}
    {outcome : Outcome} {told : List Exchange}
    (concluded : Concluded subject start outcome told catalog)
    (before : start.shelf subject = start'.shelf subject)
    (after : catalog.shelf subject = catalog'.shelf subject) :
    Concluded subject start' outcome told catalog' := by
  match outcome with
  | .synced _ _ =>
    obtain ⟨latest, swept⟩ := concluded
    exact ⟨latest, swept.congr before after⟩
  | .interrupted _ _ missing =>
    obtain ⟨latest, swept, further⟩ := concluded
    exact ⟨latest, swept.congr before after, further⟩
  | .skipped .upToDate =>
    obtain ⟨unmoved, latest, mark, only, atMark, reached⟩ := concluded
    refine ⟨unmoved.congr before after, latest, mark, only, ?_, reached⟩
    rw [← atMark, Catalog.mark_eq, Catalog.mark_eq, before]
  | .skipped .notInRegistry => exact ⟨concluded.1.congr before after, concluded.2⟩
  | .failed (.markUnread _) => exact ⟨concluded.1.congr before after, concluded.2⟩
  | .failed .latestUnavailable => exact ⟨concluded.1.congr before after, concluded.2⟩

namespace Program

variable {around : Surroundings} {policy : RetryPolicy} {subject : String}
  {start catalog : Catalog} {latest : Registered} {next : Nat} {told : List Exchange}

theorem keeps_keep {version : UInt32} {registered : Registered}
    (swept : Swept subject start latest next told catalog) (atNext : version.toNat = next)
    (within : next ≤ latest.version.toNat) (obtained : Obtained subject told version registered) :
    (keep subject version registered).Keeps around (Underway subject start)
      (fun _ told' catalog' => Swept subject start latest (next + 1) told' catalog')
      told catalog := by
  have reached {told' catalog'} (after : Swept subject start latest (next + 1) told' catalog') :
      Underway subject start told' catalog' := .inr ⟨latest, next + 1, after, by omega⟩
  unfold keep
  split
  · rename_i bodyless
    have after := swept.pass atNext
      (.bodyless obtained bodyless (swept.others version (.inr (by omega))))
    refine keeps_bind.2 ((keeps_report (reached (after.report _))).mono ?_)
    rintro _ told' catalog' ⟨rfl, rfl⟩
    exact after.report _
  · rename_i row built
    refine keeps_bind.2 ?_
    intro answer catalog' gives
    have after := swept.put atNext obtained built gives
    refine ⟨reached after, ?_⟩
    match answer with
    | .ok .inserted => exact after
    | .ok .alreadyPresent => exact after
    | .error error =>
      refine keeps_bind.2 ((keeps_report (reached (after.report _))).mono ?_)
      rintro _ told' catalog' ⟨rfl, rfl⟩
      exact after.report _

/-- The induction is on the number of versions still to fetch; the sweep is what every round hands
to the next. -/
theorem keeps_fetchFrom (count : Nat) (number : UInt32) (tally : Tally)
    (swept : Swept subject start latest next told catalog)
    (atNext : count ≠ 0 → number.toNat = next) (upTo : next + count = latest.version.toNat) :
    (fetchFrom policy subject count number tally).Keeps around (Underway subject start)
      (fun result told' catalog' => match result.2 with
        | none => Swept subject start latest latest.version.toNat told' catalog'
        | some missing => Swept subject start latest missing.toNat told' catalog' ∧
          missing.toNat < latest.version.toNat ∧
          ∃ attempt, Heard told' (.version subject missing) attempt ∧
            Lookup.ofAttempt attempt = .unavailable)
      told catalog := by
  induction count generalizing number tally next told catalog with
  | zero =>
    rw [Nat.add_zero] at upTo
    exact upTo ▸ swept
  | succ count ih =>
    have here : number.toNat = next := atNext (Nat.succ_ne_zero count)
    have ahead : number.toNat < latest.version.toNat := by omega
    have step : (number + 1).toNat = next + 1 := by
      rw [toNat_succ_of_lt ahead latest.version.toNat_lt, here]
    have aside {told'} {later} (sweep : Swept subject start latest next told' catalog)
        (chatter : Chatter (.version subject number) later) :
        Swept subject start latest next (told' ++ later) catalog :=
      sweep.chatter chatter nofun
    have reached {told' catalog' n} (after : Swept subject start latest n told' catalog')
        (small : n ≤ next + 1) : Underway subject start told' catalog' :=
      .inr ⟨latest, n, after, by omega⟩
    refine keeps_bind.2 ((keeps_version fun later chatter =>
      reached (aside swept chatter) (Nat.le_succ next)).mono ?_)
    rintro found told' catalog' ⟨rfl, attempt, later, rfl, rfl, heard, chatter⟩
    have after := aside swept chatter
    have heardNow : Heard (told ++ later) (.version subject number) attempt :=
      heard_append.2 (.inr heard)
    cases asked : Lookup.ofAttempt attempt with
    | found registered =>
      obtain rfl := Lookup.ofAttempt_eq_found.1 asked
      have obtained : Obtained subject (told ++ later) number registered := .inl heardNow
      refine keeps_bind.2 ((keeps_keep after here (by omega) obtained).mono ?_)
      intro kept told' catalog' swept'
      exact ih _ _ swept' (fun _ => step) (by omega)
    | notFound =>
      obtain ⟨detail, rfl⟩ := Lookup.ofAttempt_eq_notFound.1 asked
      have passed := after.pass here
        (.absent heardNow (after.others number (.inr (by omega))))
      have noted := passed.report (.versionAbsent subject number)
      refine keeps_bind.2 ((keeps_report (reached noted (Nat.le_refl _))).mono ?_)
      rintro _ told' catalog' ⟨rfl, rfl⟩
      exact ih _ _ noted (fun _ => step) (by omega)
    | unavailable =>
      have noted := aside after (.report (.versionUnavailable subject number))
      refine keeps_bind.2 ((keeps_report (reached noted (Nat.le_succ next))).mono ?_)
      rintro _ told' catalog' ⟨rfl, rfl⟩
      exact ⟨here ▸ noted, by omega, attempt, heardNow.append _, asked⟩

theorem keeps_refresh (swept : Swept subject start latest next told catalog)
    (within : next ≤ latest.version.toNat + 1) :
    (refresh policy subject).Keeps around (Underway subject start)
      (fun _ told' catalog' => Swept subject start latest next told' catalog' ∧
        ∃ later, told' = told ++ later)
      told catalog := by
  have reached {told' catalog'} (after : Swept subject start latest next told' catalog') :
      Underway subject start told' catalog' := .inr ⟨latest, next, after, within⟩
  refine keeps_bind.2 ((keeps_config fun later chatter =>
    reached (swept.chatter chatter nofun)).mono ?_)
  rintro config told' catalog' ⟨rfl, first, rfl, chatter⟩
  have configured := swept.chatter chatter nofun
  refine keeps_bind.2 ((keeps_mode fun later chatter =>
    reached (configured.chatter chatter nofun)).mono ?_)
  rintro mode told' catalog' ⟨rfl, second, rfl, chatter⟩
  have moded := configured.chatter chatter nofun
  refine keeps_bind.2 ?_
  intro answer catalog' gives
  have after := moded.update gives
  refine ⟨reached after, ?_⟩
  have noted (event : Event) := after.report event
  have grown (more : List Exchange) : told ++ first ++ second ++ more =
      told ++ (first ++ second ++ more) := by simp only [List.append_assoc]
  match answer with
  | .ok true => exact ⟨after, _, grown _⟩
  | .ok false =>
    refine keeps_bind.2 ((keeps_report (reached (noted _))).mono ?_)
    rintro _ told' catalog' ⟨rfl, rfl⟩
    exact ⟨noted _, _, (List.append_assoc ..).trans (grown _)⟩
  | .error error =>
    refine keeps_bind.2 ((keeps_report (reached (noted _))).mono ?_)
    rintro _ told' catalog' ⟨rfl, rfl⟩
    exact ⟨noted _, _, (List.append_assoc ..).trans (grown _)⟩

theorem keeps_advance
    (swept : Swept subject start latest (lowestSwept (start.mark subject) latest.version) told
      catalog) :
    (advance policy subject (start.mark subject) latest).Keeps around (Underway subject start)
      (fun worked told' catalog' => Concluded subject start worked.outcome told' catalog')
      told catalog := by
  have low : lowestSwept (start.mark subject) latest.version ≤ latest.version.toNat :=
    Nat.min_le_right _ _
  have begun := swept.report
    (.fetching subject (firstAbove (start.mark subject)) latest.version)
  refine keeps_bind.2 ((keeps_report (.inr ⟨latest, _, begun, by omega⟩)).mono ?_)
  rintro _ told' catalog' ⟨rfl, rfl⟩
  have distance : lowestSwept (start.mark subject) latest.version +
      (latest.version.toNat - (firstAbove (start.mark subject)).toNat) =
        latest.version.toNat := by
    simp only [lowestSwept]
    omega
  refine keeps_bind.2 ((keeps_fetchFrom _ _ _ begun ?_ distance).mono ?_)
  · intro some
    simp only [lowestSwept]
    omega
  rintro ⟨fetched, missing⟩ told' catalog' reach
  cases missing with
  | none =>
    have obtained : Obtained subject told' latest.version latest := .inr ⟨reach.heard, rfl⟩
    refine keeps_bind.2 ((keeps_keep reach rfl (Nat.le_refl _) obtained).mono ?_)
    intro kept told' catalog' done
    refine keeps_bind.2 ((keeps_refresh done (Nat.le_refl _)).mono ?_)
    rintro refreshed told'' catalog'' ⟨final, -⟩
    exact ⟨latest, final⟩
  | some gap =>
    obtain ⟨stopped, below, attempt, heard, unavailable⟩ := reach
    refine keeps_bind.2 (keeps_bind.2 ((keeps_refresh stopped (by omega)).mono ?_))
    rintro refreshed told'' catalog'' ⟨final, later, rfl⟩
    exact ⟨latest, final, below, attempt, heard.append later, unavailable⟩

theorem keeps_catchUp :
    (catchUp policy subject).Keeps around (Underway subject start)
      (fun worked told catalog => Concluded subject start worked.outcome told catalog)
      [] start := by
  refine keeps_bind.2 ?_
  intro answer catalog gives
  cases gives with
  | @refused _ error refusal =>
    have noted := (Unmoved.begun subject start (.error error)).report (.markUnread subject error)
    refine ⟨.inl (.begun subject start _), keeps_bind.2 ((keeps_report (.inl noted)).mono ?_)⟩
    rintro _ told' catalog' ⟨rfl, rfl⟩
    refine ⟨noted, ?_, List.mem_append_left _ (List.mem_singleton.2 rfl)⟩
    intro registered heard
    exact (heard_append.1 heard).elim not_heard_store not_heard_report
  | accepted allowed =>
    refine ⟨.inl (.begun subject start _), ?_⟩
    refine keeps_bind.2 ((keeps_latest fun later chatter =>
      .inl ((Unmoved.begun subject start _).chatter chatter)).mono ?_)
    rintro found told' catalog' ⟨same, later, rfl, chatter, agrees, attempt, asked⟩
    obtain rfl := same.symm
    have still := (Unmoved.begun subject start (.ok (start.mark subject))).chatter chatter
    have answered (registered : Registered) :
        Heard ([⟨.store (.mark subject), .ok (start.mark subject)⟩] ++ later) (.latest subject)
          (.answered registered) ↔ found = .found registered := by
      rw [heard_append, agrees.answered]
      exact or_iff_right not_heard_store
    cases found with
    | notFound =>
      obtain ⟨detail, heard⟩ := agrees.denied rfl
      refine ⟨still, fun registered heard => ?_, detail, heard_append.2 (.inr heard)⟩
      cases (answered registered).1 heard
    | unavailable =>
      refine ⟨still, fun registered heard => ?_, attempt, heard_append.2 (.inr asked)⟩
      cases (answered registered).1 heard
    | found latest =>
      have only (registered : Registered) :
          Heard ([⟨.store (.mark subject), .ok (start.mark subject)⟩] ++ later) (.latest subject)
            (.answered registered) ↔ registered = latest := by
        rw [answered, Lookup.found.injEq]
        exact eq_comm
      change Keeps _ _ _ (if (start.mark subject).any (latest.version ≤ ·) then _ else _) _ _
      split
      · rename_i current
        obtain ⟨mark, atMark, reached⟩ := (Option.any_eq_true _ _).1 current
        have noted := still.report (.upToDate subject latest.version)
        refine keeps_bind.2 ((keeps_report (.inl noted)).mono ?_)
        rintro _ told' catalog' ⟨rfl, rfl⟩
        refine ⟨noted, latest, mark, fun registered => ?_, atMark, of_decide_eq_true reached⟩
        exact heard_append.trans ((or_iff_left not_heard_report).trans (only registered))
      · rename_i behind
        have ahead (mark : UInt32) (atMark : start.mark subject = some mark) :
            mark.toNat < latest.version.toNat := by
          rw [atMark] at behind
          simpa [UInt32.le_iff_toNat_le] using behind
        have read := (answered_last [] (.mark subject) (.ok (start.mark subject))).append later
        exact keeps_advance (still.swept read only ahead)

theorem fetches_settle (below : Nat) (name : String) (version : Option UInt32)
    (attempt : Attempt Registered) :
    (settle name version attempt).Only (Effect.Fetches subject below) := by
  unfold settle
  split
  · exact only_bind ⟨.report, fun _ => trivial⟩ fun _ => trivial
  · trivial

theorem fetches_latestFrom (below left made : Nat) :
    (latestFrom policy subject left made).Only (Effect.Fetches subject below) := by
  induction left generalizing made with
  | zero => exact only_bind ⟨.report, fun _ => trivial⟩ fun _ => trivial
  | succ left ih =>
    refine only_bind ⟨.latest, fun _ => trivial⟩ fun attempt => ?_
    cases attempt with
    | answered | failed => exact fetches_settle _ _ _ _
    | timedOut =>
      dsimp only
      split
      · exact only_bind ⟨.report, fun _ => trivial⟩ fun _ => ⟨.pause, fun _ => ih _⟩
      · exact ih _

theorem fetches_keep (below : Nat) (version : UInt32) (registered : Registered) :
    (keep subject version registered).Only (Effect.Fetches subject below) := by
  unfold keep
  split
  · exact only_bind ⟨.report, fun _ => trivial⟩ fun _ => trivial
  · rename_i row built
    have own : row.subject = subject := (Snapshot.ofRegistered?_subject built).1
    refine only_bind ⟨.put own, fun _ => trivial⟩ fun answer => ?_
    match answer with
    | .ok .inserted => trivial
    | .ok .alreadyPresent => trivial
    | .error error => exact only_bind ⟨.report, fun _ => trivial⟩ fun _ => trivial

theorem fetches_fetchFrom {below : Nat} (small : below < 4294967296) (count : Nat)
    (number : UInt32) (tally : Tally) (upTo : count ≠ 0 → number.toNat + count ≤ below) :
    (fetchFrom policy subject count number tally).Only (Effect.Fetches subject below) := by
  induction count generalizing number tally with
  | zero => trivial
  | succ count ih =>
    have bound := upTo (Nat.succ_ne_zero count)
    have here : number.toNat < below := by omega
    have further : count ≠ 0 → (number + 1).toNat + count ≤ below := by
      intro more
      rw [toNat_succ_of_lt here small]
      omega
    refine only_bind (only_bind ⟨.version here, fun _ => trivial⟩ fun _ => fetches_settle _ _ _ _)
      fun found => ?_
    cases found with
    | found registered => exact only_bind (fetches_keep _ _ _) fun _ => ih _ _ further
    | notFound => exact only_bind ⟨.report, fun _ => trivial⟩ fun _ => ih _ _ further
    | unavailable => exact only_bind ⟨.report, fun _ => trivial⟩ fun _ => trivial

/-- All versions between the mark and the latest version are below the latest one. -/
theorem fetches_missing (mark : Option UInt32) (target : UInt32) (tally : Tally) :
    (fetchFrom policy subject (target.toNat - (firstAbove mark).toNat) (firstAbove mark) tally).Only
      (Effect.Fetches subject target.toNat) :=
  fetches_fetchFrom target.toNat_lt _ _ _ fun some => by omega

theorem settles_refresh : (refresh policy subject).Only (Effect.Settles subject) := by
  refine only_bind (only_bind ⟨.config, fun _ => trivial⟩ fun attempt => ?_) fun config => ?_
  · cases attempt with
    | answered => trivial
    | timedOut | failed => exact only_bind ⟨.report, fun _ => trivial⟩ fun _ => trivial
  refine only_bind (only_bind ⟨.mode, fun _ => trivial⟩ fun attempt => ?_) fun mode => ?_
  · cases attempt with
    | answered => trivial
    | timedOut | failed => exact only_bind ⟨.report, fun _ => trivial⟩ fun _ => trivial
  refine only_bind ⟨.update, fun _ => trivial⟩ fun answer => ?_
  match answer with
  | .ok true => trivial
  | .ok false => exact only_bind ⟨.report, fun _ => trivial⟩ fun _ => trivial
  | .error error => exact only_bind ⟨.report, fun _ => trivial⟩ fun _ => trivial

section Asked

variable {allowed : Effect → Prop}

/-- The work above the mark consists of fetching and settling. -/
theorem only_advance (fetch : ∀ below effect, effect.Fetches subject below → allowed effect)
    (settle : ∀ effect, effect.Settles subject → allowed effect) (mark : Option UInt32)
    (latest : Registered) : (advance policy subject mark latest).Only allowed := by
  have settled : (refresh policy subject).Only allowed := settles_refresh.mono settle
  refine only_bind ⟨fetch 0 _ .report, fun _ => trivial⟩ fun _ => ?_
  refine only_bind ((fetches_missing _ _ _).mono (fetch _)) fun result => ?_
  obtain ⟨fetched, missing⟩ := result
  cases missing with
  | none =>
    refine only_bind ((fetches_keep 0 _ _).mono (fetch 0)) fun _ => ?_
    exact only_bind settled fun _ => trivial
  | some gap => exact only_bind trivial fun _ => only_bind settled fun _ => trivial

theorem only_catchUp (fetch : ∀ below effect, effect.Fetches subject below → allowed effect)
    (settle : ∀ effect, effect.Settles subject → allowed effect)
    (read : allowed (.store (.mark subject))) : (catchUp policy subject).Only allowed := by
  have noted (event : Event) : (report event).Only allowed := ⟨fetch 0 _ .report, fun _ => trivial⟩
  refine only_bind ⟨read, fun _ => trivial⟩ fun answer => ?_
  cases answer with
  | error error => exact only_bind (noted _) fun _ => trivial
  | ok mark =>
    refine only_bind ((fetches_latestFrom 0 _ _).mono (fetch 0)) fun found => ?_
    cases found with
    | notFound | unavailable => trivial
    | found latest =>
      dsimp only
      split
      · exact only_bind (noted _) fun _ => trivial
      · exact only_advance fetch settle _ _

end Asked

theorem about_catchUp : (catchUp policy subject).About subject :=
  only_catchUp (fun _ _ => Effect.Fetches.about) (fun _ => Effect.Settles.about) rfl

end Program

end SchemaLedger
