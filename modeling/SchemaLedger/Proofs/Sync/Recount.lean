import SchemaLedger.Proofs.Sync.Accounts

namespace SchemaLedger

namespace Exchange

/-- The version that was called for, with its subject. -/
def version? : Exchange → Option (String × UInt32)
  | ⟨.query _ (.version subject number), _⟩ => some (subject, number)
  | _ => none

end Exchange

/-- `count` versions of a subject from one on. -/
def versionsFrom (subject : String) (first count : Nat) : List (String × UInt32) :=
  (List.range' first count).map fun number => (subject, .ofNat number)

theorem versionsFrom_succ (subject : String) (number : UInt32) (count : Nat) :
    versionsFrom subject number.toNat (count + 1) =
      (subject, number) :: versionsFrom subject (number.toNat + 1) count := by
  rw [versionsFrom, List.range'_succ, List.map_cons, UInt32.ofNat_toNat, versionsFrom]

/-- These versions were called for, one after the other, and so many rows came of it. -/
structure Brought (told : List Exchange) (asked : List (String × UInt32)) (new : Nat) : Prop where
  asked : told.filterMap Exchange.version? = asked
  new : told.countP Exchange.inserts = new

namespace Brought

variable {told later : List Exchange} {asked more : List (String × UInt32)} {m n : Nat}

theorem nil : Brought [] [] 0 := ⟨rfl, rfl⟩

theorem append (first : Brought told asked m) (second : Brought later more n) :
    Brought (told ++ later) (asked ++ more) (m + n) where
  asked := by rw [List.filterMap_append, first.asked, second.asked]
  new := by rw [List.countP_append, first.new, second.new]

theorem report (event : Event) : Brought [⟨.report event, ()⟩] [] 0 := ⟨rfl, rfl⟩

theorem prepend (second : Brought later more n) (first : Brought told [] 0) :
    Brought (told ++ later) more n := by
  have whole := first.append second
  rwa [List.nil_append, Nat.zero_add] at whole

/-- To look for no version below the first one is to call for none. -/
theorem of_fetches {subject : String} (new : later.countP Exchange.inserts = n)
    (fetches : ∀ x ∈ later, x.effect.Fetches subject 0) : Brought later [] n := by
  refine ⟨List.filterMap_eq_nil_iff.2 fun ⟨effect, answer⟩ member => ?_, new⟩
  cases fetches _ member with
  | version below => exact absurd below (Nat.not_lt_zero _)
  | latest | put | pause | report => rfl

theorem of_settles {subject : String} (new : later.countP Exchange.inserts = n)
    (settles : ∀ x ∈ later, x.effect.Settles subject) : Brought later [] n := by
  refine ⟨List.filterMap_eq_nil_iff.2 fun ⟨effect, answer⟩ member => ?_, new⟩
  cases settles _ member <;> rfl

theorem of_chatter {call : Query} (chatter : Chatter call later)
    (other : ∀ subject number, call ≠ .version subject number) : Brought later [] 0 := by
  obtain ⟨inserts, -⟩ := (Exchange.Quiet.uneventful chatter.quiet).counts
  refine ⟨List.filterMap_eq_nil_iff.2 fun ⟨effect, answer⟩ member => ?_, inserts⟩
  have within := chatter _ member
  cases effect with
  | query limit asked =>
    cases asked with
    | version subject number => exact absurd within.symm (other subject number)
    | subjects | latest | config | mode => rfl
  | store | pause | report => rfl

end Brought

/-- What an outcome says about the exchanges that it took, after the mark was read. -/
def Outcome.Recounts (subject : String) (mark : Option UInt32) (told : List Exchange) :
    Outcome → Prop
  | .synced new created => ∃ latest, Heard told (.latest subject) (.answered latest) ∧
      Brought told (versionsFrom subject (Program.firstAbove mark).toNat
        (latest.version.toNat - (Program.firstAbove mark).toNat)) new ∧
      created = (mark.isNone && decide (0 < new))
  | .interrupted new created missing => ∃ latest,
      Heard told (.latest subject) (.answered latest) ∧ Program.firstAbove mark ≤ missing ∧
      missing < latest.version ∧
      Brought told (versionsFrom subject (Program.firstAbove mark).toNat
        (missing.toNat - (Program.firstAbove mark).toNat + 1)) new ∧
      created = (mark.isNone && decide (0 < new))
  | .skipped _ | .failed _ => ∀ exchange ∈ told, exchange.Reads

/-- What was told before and called for nothing does not change the tale. -/
theorem Outcome.Recounts.prepend {outcome : Outcome} {subject : String} {mark : Option UInt32}
    {before later : List Exchange} (recounts : outcome.Recounts subject mark later)
    (silent : Brought before [] 0) (reads : ∀ exchange ∈ before, exchange.Reads) :
    outcome.Recounts subject mark (before ++ later) := by
  cases outcome with
  | synced new created =>
    obtain ⟨latest, heard, brought, isCreated⟩ := recounts
    exact ⟨latest, heard_append.2 (.inr heard), brought.prepend silent, isCreated⟩
  | interrupted new created missing =>
    obtain ⟨latest, heard, low, high, brought, isCreated⟩ := recounts
    exact ⟨latest, heard_append.2 (.inr heard), low, high, brought.prepend silent, isCreated⟩
  | skipped | failed => exact List.forall_mem_append.2 ⟨reads, recounts⟩

namespace Program

variable {α β : Type} {around : Surroundings} {post post' : α → List Exchange → Prop}
  {program : Program α} {policy : RetryPolicy} {subject : String} {allowed : Effect → Prop}

/-- Both of what a program leaves behind. -/
theorem Leaves.and (first : program.Leaves around post) (second : program.Leaves around post') :
    program.Leaves around fun value later => post value later ∧ post' value later := by
  intro told catalog
  have first := first told catalog
  have second := second told catalog
  suffices both : ∀ {program : Program α} {told' catalog},
      program.Keeps around (fun _ _ => True)
        (fun value told' _ => ∃ later, told' = told ++ later ∧ post value later) told' catalog →
      program.Keeps around (fun _ _ => True)
        (fun value told' _ => ∃ later, told' = told ++ later ∧ post' value later) told' catalog →
      program.Keeps around (fun _ _ => True) (fun value told' _ => ∃ later, told' = told ++ later ∧
        post value later ∧ post' value later) told' catalog from both first second
  intro program
  induction program with
  | done value =>
    rintro told' catalog ⟨later, rfl, holds⟩ ⟨later', same, holds'⟩
    cases List.append_cancel_left same
    exact ⟨later, rfl, holds, holds'⟩
  | perform effect rest ih =>
    intro told' catalog first second answer catalog' gives
    exact ⟨trivial, ih answer (first answer catalog' gives).2 (second answer catalog' gives).2⟩

/-- What is left behind is about the effects that the program asks for. -/
theorem Only.leaves (only : program.Only allowed) :
    program.Leaves around fun _ later => ∀ exchange ∈ later, allowed exchange.effect := by
  induction program with
  | done value => exact leaves_done (List.forall_mem_nil _)
  | perform effect rest ih =>
    intro told catalog answer catalog' gives
    refine ⟨trivial, (ih answer (only.2 answer) _ catalog').mono ?_⟩
    rintro value told' _ ⟨later, rfl, each⟩
    exact ⟨⟨effect, answer⟩ :: later, List.append_assoc .., List.forall_mem_cons.2 ⟨only.1, each⟩⟩

theorem leaves_ask (effect : Effect) :
    (ask effect).Leaves around fun answer later => later = [⟨effect, answer⟩] :=
  fun _ _ answer _ _ => ⟨trivial, [⟨effect, answer⟩], rfl, rfl⟩

theorem brought_report (event : Event) :
    (report event).Leaves around fun _ later => Brought later [] 0 :=
  (leaves_ask _).mono fun _ _ same => same ▸ .report event

/-- One version is called for, and nothing is written. -/
theorem brought_version {number : UInt32} : (version policy subject number).Leaves around
    fun _ later => Brought later [(subject, number)] 0 := by
  refine leaves_bind (leaves_ask _) fun attempt own same => ?_
  subst same
  have called : Brought [⟨.query policy.requestTimeout (.version subject number), attempt⟩]
      [(subject, number)] 0 := ⟨rfl, rfl⟩
  unfold settle
  split
  · refine leaves_bind (brought_report _) fun _ later silent => leaves_done ?_
    rw [List.append_nil]
    exact called.append silent
  · exact leaves_done (called.append .nil)

theorem brought_keep {number : UInt32} {registered : Registered} :
    (keep subject number registered).Leaves around
      fun kept later => Brought later [] kept.versionsNew :=
  (leaves_keep.and (fetches_keep 0 _ _).leaves).mono fun _ _ ⟨counts, fetches⟩ =>
    .of_fetches counts.versionsNew.symm fetches

theorem brought_refresh :
    (refresh policy subject).Leaves around fun _ later => Brought later [] 0 :=
  (leaves_refresh.and settles_refresh.leaves).mono fun _ _ ⟨counts, settles⟩ =>
    .of_settles counts.2.1 settles

/-- How far the versions were called for: all of them, or up to the one that could not be had. -/
def calledFor (number count : Nat) : Option UInt32 → Nat
  | none => count
  | some missing => missing.toNat - number + 1

/-- The induction is on the number of versions still to fetch, which are called for in their
order. -/
theorem brought_fetchFrom (count : Nat) (number : UInt32) (tally : Tally)
    (small : count ≠ 0 → number.toNat + count < 4294967296) :
    (fetchFrom policy subject count number tally).Leaves around fun result later => ∃ new,
      result.1.versionsNew = tally.versionsNew + new ∧
      (∀ missing ∈ result.2, number.toNat ≤ missing.toNat ∧
        missing.toNat < number.toNat + count) ∧
      Brought later (versionsFrom subject number.toNat (calledFor number.toNat count result.2))
        new := by
  induction count generalizing number tally with
  | zero => exact leaves_done ⟨0, rfl, by simp, .nil⟩
  | succ count ih =>
    have bound := small (Nat.succ_ne_zero count)
    have step : (number + 1).toNat = number.toNat + 1 :=
      toNat_succ_of_lt (Nat.lt_add_of_pos_right (Nat.succ_pos count)) bound
    have further : count ≠ 0 → (number + 1).toNat + count < 4294967296 := by omega
    -- What follows the first version is called for behind it.
    have whole {before later : List Exchange} {m new : Nat} {missing : Option UInt32}
        (first : Brought before [(subject, number)] m)
        (ahead : ∀ gap ∈ missing, (number + 1).toNat ≤ gap.toNat)
        (rest : Brought later (versionsFrom subject (number + 1).toNat
          (calledFor (number + 1).toNat count missing)) new) :
        Brought (before ++ later) (versionsFrom subject number.toNat
          (calledFor number.toNat (count + 1) missing)) (m + new) := by
      have same : calledFor number.toNat (count + 1) missing =
          calledFor (number + 1).toNat count missing + 1 := by
        cases missing with
        | none => rfl
        | some gap =>
          have := ahead gap rfl
          simp only [calledFor]
          omega
      rw [same, versionsFrom_succ, ← step]
      exact first.append rest
    refine leaves_bind brought_version fun found before called => ?_
    cases found with
    | found registered =>
      refine leaves_bind brought_keep fun kept between keeps => ?_
      refine (ih (number + 1) (tally + kept) further).mono ?_
      rintro result later ⟨new, total, within, rest⟩
      have first : Brought (before ++ between) [(subject, number)] (0 + kept.versionsNew) :=
        called.append keeps
      refine ⟨0 + kept.versionsNew + new, ?_, fun gap isGap => ?_, ?_⟩
      · rw [total, Tally.versionsNew_add]
        omega
      · have := within gap isGap
        omega
      · rw [← List.append_assoc]
        exact whole first (fun gap isGap => (within gap isGap).1) rest
    | notFound =>
      refine leaves_bind (brought_report _) fun _ between silent => ?_
      refine (ih (number + 1) tally further).mono ?_
      rintro result later ⟨new, total, within, rest⟩
      have first : Brought (before ++ between) [(subject, number)] 0 := called.append silent
      refine ⟨0 + new, by omega, fun gap isGap => ?_, ?_⟩
      · have := within gap isGap
        omega
      · rw [← List.append_assoc]
        exact whole first (fun gap isGap => (within gap isGap).1) rest
    | unavailable =>
      refine leaves_bind (brought_report _) fun _ between silent => leaves_done ?_
      rw [List.append_nil]
      refine ⟨0, rfl, fun gap isGap => ?_, ?_⟩
      · cases isGap
        omega
      · have once : calledFor number.toNat (count + 1) (some number) = 0 + 1 := by
          simp only [calledFor]
          omega
        rw [once, versionsFrom_succ]
        exact called.append silent

theorem leaves_sought : (latest policy subject).Leaves around fun found later =>
    (∀ registered, found = .found registered →
      Heard later (.latest subject) (.answered registered)) ∧
    Brought later [] 0 ∧ ∀ exchange ∈ later, exchange.Reads := by
  intro told catalog
  refine (keeps_latest fun _ _ => trivial).mono ?_
  rintro found told' catalog' ⟨-, later, rfl, chatter, agrees, -⟩
  exact ⟨later, rfl, fun registered => (agrees.answered registered).2,
    .of_chatter chatter nofun, fun exchange member => (chatter.quiet exchange member).reads⟩

/-- The work on versions above the mark, when the latest one has been heard of. -/
theorem recounts_advance {mark : Option UInt32} {latest : Registered} {before : List Exchange}
    (heard : Heard before (.latest subject) (.answered latest)) (silent : Brought before [] 0) :
    (advance policy subject mark latest).Leaves around fun worked later =>
      worked.outcome.Recounts subject mark (before ++ later) := by
  have known (later : List Exchange) : Heard (before ++ later) (.latest subject)
      (.answered latest) := heard.append later
  have small : latest.version.toNat - (firstAbove mark).toNat ≠ 0 → (firstAbove mark).toNat +
      (latest.version.toNat - (firstAbove mark).toNat) < 4294967296 := by
    have bound := latest.version.toNat_lt
    omega
  refine leaves_bind (brought_report _) fun _ begun announced => ?_
  refine leaves_bind (brought_fetchFrom _ _ _ small) fun result fetching fetched => ?_
  obtain ⟨tally, missing⟩ := result
  obtain ⟨new, total, within, called⟩ := fetched
  have count : tally.versionsNew = new := by
    rw [total]
    exact Nat.zero_add new
  cases missing with
  | none =>
    refine leaves_bind brought_keep fun kept keeping keeps => ?_
    refine leaves_bind brought_refresh fun _ settling settles => leaves_done ?_
    rw [List.append_nil]
    have rest := (called.append (keeps.append settles)).prepend announced
    refine ⟨latest, known _, ?_, rfl⟩
    rw [Tally.versionsNew_add, count]
    simpa only [calledFor, List.append_nil, Nat.add_zero, List.append_assoc] using
      rest.prepend silent
  | some gap =>
    obtain ⟨low, high⟩ := within gap rfl
    have idle : (done Tally.zero).Leaves around
        fun kept later => kept.versionsNew = 0 ∧ Brought later [] 0 := leaves_done ⟨rfl, .nil⟩
    refine leaves_bind idle fun kept keeping ⟨zero, nothing⟩ => ?_
    refine leaves_bind brought_refresh fun _ settling settles => leaves_done ?_
    rw [List.append_nil]
    have rest := (called.append (nothing.append settles)).prepend announced
    refine ⟨latest, known _, UInt32.le_iff_toNat_le.2 low, UInt32.lt_iff_toNat_lt.2 ?_, ?_, rfl⟩
    · omega
    · rw [Tally.versionsNew_add, count, zero]
      simpa only [calledFor, List.append_nil, Nat.add_zero, List.append_assoc] using
        rest.prepend silent

/-- The outcome of the work on a subject says what it was told. -/
theorem Course.recounts {start catalog : Catalog} {told : List Exchange} {worked : Worked}
    (course : Course around (catchUp policy subject) start told (.done worked) catalog) :
    worked.outcome.Recounts subject (start.mark subject) told := by
  have keeps : (catchUp policy subject).Keeps around (fun _ _ => True)
      (fun worked told _ => worked.outcome.Recounts subject (start.mark subject) told) [] start := by
    refine keeps_bind.2 fun answer catalog gives => ⟨trivial, ?_⟩
    have silent : Brought [⟨.store (.mark subject), answer⟩] [] 0 := ⟨rfl, rfl⟩
    have reads : ∀ exchange ∈ [(⟨.store (.mark subject), answer⟩ : Exchange)],
        exchange.Reads := by
      intro exchange member request isStore
      cases List.mem_singleton.1 member
      cases isStore
      rfl
    have recount {program : Program Worked}
        (leaves : program.Leaves around fun worked later =>
          worked.outcome.Recounts subject (start.mark subject) later) :
        program.Keeps around (fun _ _ => True)
          (fun worked told _ => worked.outcome.Recounts subject (start.mark subject) told)
          ([] ++ [⟨.store (.mark subject), answer⟩]) catalog := by
      refine (leaves _ catalog).mono ?_
      rintro worked told' catalog' ⟨later, rfl, recounts⟩
      exact recounts.prepend silent reads
    cases gives with
    | refused =>
      refine recount (leaves_bind (leaves_ask _) fun _ later same => leaves_done ?_)
      subst same
      exact List.forall_mem_singleton.2 (Exchange.Quiet.reads Effect.Quiet.report)
    | accepted =>
      refine recount (leaves_bind leaves_sought fun found before sought => ?_)
      obtain ⟨heard, silent, reads⟩ := sought
      cases found with
      | notFound | unavailable =>
        refine leaves_done ?_
        rwa [List.append_nil]
      | found latest =>
        change Leaves _ _ (if (start.mark subject).any (latest.version ≤ ·) then _ else _)
        split
        · refine leaves_bind (leaves_ask _) fun _ later same => leaves_done ?_
          subst same
          exact List.forall_mem_append.2 ⟨reads, List.forall_mem_singleton.2
            (Exchange.Quiet.reads Effect.Quiet.report)⟩
        · exact recounts_advance (heard latest rfl) silent
  exact course.kept_done trivial keeps

end Program

end SchemaLedger
