import SchemaLedger.Proofs.Registry.Response
import SchemaLedger.Proofs.Sync.History
import SchemaLedger.Service.Connection

namespace SchemaLedger

namespace Client

variable {client : Client} {subject : String} {response : HttpResponse} {bytes : List UInt8}

/-- The answer came, is whole and no longer than allowed, and says that there is no such thing. -/
def Denied (client : Client) (carried : Except String HttpResponse) : Prop :=
  ∃ response bytes, carried = .ok response ∧ response.body.whole? = some bytes ∧
    bytes.length ≤ client.maxResponseBytes.toNat ∧ response.status = 404

/-- The answer came, is whole and no longer than allowed, and is a version of a known dialect. -/
def Served (client : Client) (subject : String) (carried : Except String HttpResponse)
    (registered : Registered) : Prop :=
  ∃ response bytes, carried = .ok response ∧ response.body.whole? = some bytes ∧
    bytes.length ≤ client.maxResponseBytes.toNat ∧
      (200 ≤ response.status ∧ response.status < 300) ∧
        registered.ToldBy subject bytes

/-- What a client makes of whatever came for a call for a schema. -/
def schema (client : Client) (subject : String) :
    Except String HttpResponse → Except RegistryError Registered
  | .error detail => .error (ClientError.transport detail).toRegistryError
  | .ok response => registered client.maxResponseBytes subject response

theorem answer_latest (client : Client) (network : Network) (subject : String) :
    client.answer network (.latest subject) =
      client.schema subject (network (client.request (.latest subject))) := by
  unfold answer
  cases network (client.request (.latest subject)) <;> rfl

theorem answer_version (client : Client) (network : Network) (subject : String)
    (number : UInt32) : client.answer network (.version subject number) =
      client.schema subject (network (client.request (.version subject number))) := by
  unfold answer
  cases network (client.request (.version subject number)) <;> rfl

theorem denied_iff (whole : response.body.whole? = some bytes) : client.Denied (.ok response) ↔
    bytes.length ≤ client.maxResponseBytes.toNat ∧ response.status = 404 := by
  constructor
  · rintro ⟨_, others, ⟨⟩, same, fits, absent⟩
    cases whole.symm.trans same
    exact ⟨fits, absent⟩
  · rintro ⟨fits, absent⟩
    exact ⟨response, bytes, rfl, whole, fits, absent⟩

theorem served_iff (whole : response.body.whole? = some bytes) {registered : Registered} :
    client.Served subject (.ok response) registered ↔
      bytes.length ≤ client.maxResponseBytes.toNat ∧
        (200 ≤ response.status ∧ response.status < 300) ∧
          registered.ToldBy subject bytes := by
  constructor
  · rintro ⟨_, others, ⟨⟩, same, served⟩
    cases whole.symm.trans same
    exact served
  · intro served
    exact ⟨response, bytes, rfl, whole, served⟩

/-- A look-up for a schema goes by what the answer says, and by nothing where it says nothing. -/
structure Believes (client : Client) (subject : String) (carried : Except String HttpResponse)
    (lookup : Lookup Registered) : Prop where
  notFound : lookup = .notFound ↔ client.Denied carried
  found : ∀ registered, lookup = .found registered ↔ client.Served subject carried registered
  unavailable : lookup = .unavailable ↔
    ¬client.Denied carried ∧ ∀ registered, ¬client.Served subject carried registered

theorem Believes.of_iff {carried : Except String HttpResponse} {lookup : Lookup Registered}
    (absent : lookup = .notFound ↔ client.Denied carried)
    (served : ∀ registered, lookup = .found registered ↔ client.Served subject carried registered) :
    client.Believes subject carried lookup := by
  refine ⟨absent, served, ?_⟩
  simp only [← absent, ← served]
  cases lookup <;> simp

/-- Without a whole answer nothing is believed. -/
theorem Believes.of_error {carried : Except String HttpResponse} {error : RegistryError}
    (broken : ∀ response bytes, carried = .ok response → response.body.whole? ≠ some bytes)
    (other : ∀ detail, error ≠ .notFound detail) :
    client.Believes subject carried (Lookup.ofAttempt (.failed error)) := by
  refine .of_iff (iff_of_false ?_ ?_) fun registered => iff_of_false ?_ ?_
  · rw [Lookup.ofAttempt_eq_notFound]
    rintro ⟨detail, same⟩
    exact other detail (Attempt.failed.inj same)
  · rintro ⟨response, bytes, came, whole, -⟩
    exact broken response bytes came whole
  · rw [Lookup.ofAttempt_eq_found]
    exact nofun
  · rintro ⟨response, bytes, came, whole, -⟩
    exact broken response bytes came whole

/-- What is made of a whole answer by its size, its status and its body. -/
theorem believes_registered (client : Client) (subject : String)
    (whole : response.body.whole? = some bytes) : client.Believes subject (.ok response)
      (Lookup.ofAttempt (.ofAnswer (registered client.maxResponseBytes subject response))) := by
  have verdict := verdict_registered client.maxResponseBytes subject whole
  generalize registered client.maxResponseBytes subject response = answer at verdict
  refine .of_iff ?_ fun value => ?_
  · rw [denied_iff whole, Lookup.ofAttempt_eq_notFound]
    cases verdict with
    | tooLong exceeds => simp [Attempt.ofAnswer, Nat.not_le.2 exceeds]
    | served _ low high | unreadable _ low high =>
      have present : response.status ≠ 404 := by omega
      simp [Attempt.ofAnswer, present]
    | told fits absent =>
      have status : response.status = 404 := List.mem_singleton.1 absent
      simp [Attempt.ofAnswer, fits, status]
    | failed _ _ other =>
      have present : response.status ≠ 404 := mt List.mem_singleton.2 other
      simp [Attempt.ofAnswer, present]
  · rw [served_iff whole, Lookup.ofAttempt_eq_found]
    cases verdict with
    | tooLong exceeds => simp [Attempt.ofAnswer, Nat.not_le.2 exceeds]
    | @served other fits low high told =>
      have same : value.ToldBy subject bytes ↔ other = value :=
        ⟨told.unique, fun same => same ▸ told⟩
      simp [Attempt.ofAnswer, fits, low, high, same]
    | unreadable _ _ _ none => simp [Attempt.ofAnswer, none value]
    | told _ absent =>
      have status : response.status = 404 := List.mem_singleton.1 absent
      simp [Attempt.ofAnswer, status]
    | failed _ outside => simp [Attempt.ofAnswer, outside]

theorem believes_schema (client : Client) (subject : String)
    (carried : Except String HttpResponse) : client.Believes subject carried
      (Lookup.ofAttempt (.ofAnswer (client.schema subject carried))) := by
  cases carried with
  | error detail => exact .of_error (by rintro _ _ ⟨⟩) (by rintro _ ⟨⟩)
  | ok response =>
    cases whole : response.body.whole? with
    | some bytes => exact believes_registered client subject whole
    | none =>
      obtain ⟨error, failed, other⟩ := registered_of_none client.maxResponseBytes subject whole
      rw [schema, failed]
      refine .of_error ?_ other
      rintro _ bytes ⟨⟩ same
      cases whole.symm.trans same

/-- Calls end with whatever this client makes of any network, or are given up. Any request to the
catalog may fail. -/
def around (client : Client) : Surroundings where
  replies _ call attempt := attempt = .timedOut ∨
    ∃ network, attempt = .ofAnswer (client.answer network call)
  accepts _ _ := True
  refuses _ _ _ := True

end Client

/-- The work on a subject got past a version between the mark and the latest version. -/
def GotPast (subject : String) (start : Catalog) (told : List Exchange) (outcome : Outcome)
    (version : UInt32) : Prop :=
  (Program.firstAbove (start.mark subject)).toNat ≤ version.toNat ∧
    ∃ latest, Heard told (.latest subject) (.answered latest) ∧
      version.toNat < latest.version.toNat ∧
        match outcome with
        | .synced _ _ => True
        | .interrupted _ _ missing => version.toNat < missing.toNat
        | _ => False

/-- What lies behind a sweep was asked for by its number, and the registry answered. -/
theorem Swept.heard_version {subject : String} {start catalog : Catalog} {latest : Registered}
    {next : Nat} {told : List Exchange} (swept : Swept subject start latest next told catalog)
    {version : UInt32} (above : (Program.firstAbove (start.mark subject)).toNat ≤ version.toNat)
    (below : version.toNat < latest.version.toNat) (behind : version.toNat < next) :
    (∃ detail, Heard told (.version subject version) (.failed (.notFound detail))) ∨
      ∃ registered, Heard told (.version subject version) (.answered registered) := by
  have swept' := swept.handled version (Nat.le_trans (Nat.min_le_left _ _) above) behind
  have asked {registered : Registered} (obtained : Obtained subject told version registered) :
      Heard told (.version subject version) (.answered registered) := by
    refine obtained.resolve_right ?_
    rintro ⟨heard, rfl⟩
    exact absurd below (swept.only registered heard ▸ Nat.lt_irrefl _)
  cases swept' with
  | absent heard => exact .inl ⟨_, heard⟩
  | bodyless obtained | refused obtained | kept obtained => exact .inr ⟨_, asked obtained⟩

theorem Concluded.heard_version {subject : String} {start catalog : Catalog} {outcome : Outcome}
    {told : List Exchange} {version : UInt32}
    (concluded : Concluded subject start outcome told catalog)
    (passed : GotPast subject start told outcome version) :
    (∃ detail, Heard told (.version subject version) (.failed (.notFound detail))) ∨
      ∃ registered, Heard told (.version subject version) (.answered registered) := by
  obtain ⟨above, latest, heard, below, ended⟩ := passed
  match outcome with
  | .synced _ _ =>
    obtain ⟨other, swept⟩ := concluded
    obtain rfl := swept.only latest heard
    exact swept.heard_version above below (Nat.lt_succ_of_lt below)
  | .interrupted _ _ missing =>
    obtain ⟨other, swept, -⟩ := concluded
    obtain rfl := swept.only latest heard
    exact swept.heard_version above below ended
  | .skipped _ | .failed _ => exact ended.elim

namespace Program

variable {policy : RetryPolicy} {subject : String} {told : List Exchange}

theorem asks_any {α : Type} (program : Program α) :
    program.Asks (fun _ _ => True) (fun _ _ => True) told := by
  induction program generalizing told with
  | done => trivial
  | perform effect rest ih => exact ⟨trivial, fun answer => ih answer⟩

theorem asks_advance_outcome (mark : Option UInt32) (latest : Registered) :
    (advance policy subject mark latest).Asks (fun _ _ => True)
      (fun worked _ => worked.outcome ≠ .skipped .notInRegistry) told := by
  refine asks_bind.2 ((asks_any _).mono fun _ _ _ => ?_)
  refine asks_bind.2 ((asks_any _).mono fun result _ _ => ?_)
  obtain ⟨fetched, missing⟩ := result
  cases missing with
  | none =>
    refine asks_bind.2 ((asks_any _).mono fun kept _ _ => ?_)
    exact asks_bind.2 ((asks_any _).mono fun refreshed _ _ => nofun)
  | some gap =>
    refine asks_bind.2 ((asks_any _).mono fun kept _ _ => ?_)
    exact asks_bind.2 ((asks_any _).mono fun refreshed _ _ => nofun)

/-- A subject is called missing when its latest version was denied and never otherwise. -/
theorem asks_catchUp_missing : (catchUp policy subject).Asks (fun _ _ => True)
    (fun worked told => worked.outcome = .skipped .notInRegistry →
      Lookup.notFound.Settled (fun _ => False) (Heard told (.latest subject))) [] := by
  refine asks_bind.2 ⟨trivial, fun answer => ?_⟩
  cases answer with
  | error error => exact asks_bind.2 ⟨trivial, fun _ => nofun⟩
  | ok mark =>
    refine asks_bind.2 (((asks_latestFrom _ _).widen fun _ _ _ => trivial).mono ?_)
    intro found told' settled
    cases found with
    | notFound => exact fun _ => settled.retried fun _ heard => absurd heard not_heard_store
    | unavailable => exact nofun
    | found latest =>
      dsimp only
      split
      · exact asks_bind.2 ⟨trivial, fun _ => nofun⟩
      · exact (asks_advance_outcome mark latest).mono fun _ _ other same => absurd same other

end Program

namespace Client

variable {client : Client} {policy : RunPolicy} {start catalog : Catalog} {pass : Pass} {task : Task}
  {worked : Worked}

/-- A version is passed over when it was denied or served, each in a whole answer. -/
theorem served_or_denied_of_gotPast
    (reach : Pass.Reach client.around policy start pass catalog) (member : task ∈ pass.tasks)
    (done : task.rest = .done worked) {version : UInt32}
    (passed : GotPast task.subject start task.told worked.outcome version) :
    ∃ network : Network,
      let carried := network (client.request (.version task.subject version))
      Heard task.told (.version task.subject version)
          (.ofAnswer (client.answer network (.version task.subject version))) ∧
        (client.Denied carried ∨ ∃ registered, client.Served task.subject carried registered) := by
  obtain ⟨-, _, _, course, -⟩ := reach.course member
  rcases (reach.concluded member done).heard_version passed with ⟨detail, heard⟩ | ⟨value, heard⟩
  · obtain ⟨-, late | ⟨network, same⟩⟩ := course.heard_allowed heard
    · cases late
    refine ⟨network, same ▸ heard, .inl ?_⟩
    rw [answer_version] at same
    exact (believes_schema client task.subject _).notFound.1 (same ▸ rfl)
  · obtain ⟨-, late | ⟨network, same⟩⟩ := course.heard_allowed heard
    · cases late
    refine ⟨network, same ▸ heard, .inr ⟨value, ?_⟩⟩
    rw [answer_version] at same
    exact ((believes_schema client task.subject _).found value).1 (same ▸ rfl)

/-- A subject is called missing when its latest version was denied, by the one answer that came in
time. -/
theorem denied_of_notInRegistry
    (reach : Pass.Reach client.around policy start pass catalog) (member : task ∈ pass.tasks)
    (done : task.rest = .done worked) (missing : worked.outcome = .skipped .notInRegistry) :
    ∃ network : Network, client.Denied (network (client.request (.latest task.subject))) ∧
      Heard task.told (.latest task.subject)
          (.ofAnswer (client.answer network (.latest task.subject))) ∧
        ∀ attempt, Heard task.told (.latest task.subject) attempt → attempt = .timedOut ∨
          attempt = .ofAnswer (client.answer network (.latest task.subject)) := by
  obtain ⟨-, _, _, course, -⟩ := reach.course member
  rw [done] at course
  obtain ⟨attempt, same, heard, sole⟩ := course.asks Program.asks_catchUp_missing missing
  obtain ⟨detail, rfl⟩ := Lookup.ofAttempt_eq_notFound.1 same.symm
  obtain ⟨-, late | ⟨network, came⟩⟩ := course.heard_allowed (heard nofun)
  · cases late
  refine ⟨network, ?_, came ▸ heard nofun, fun other isHeard => ?_⟩
  · rw [answer_latest] at came
    exact (believes_schema client task.subject _).notFound.1 (came ▸ rfl)
  · exact (sole other isHeard).elim False.elim (came ▸ ·)

/-- How a client that is asked for schemas tells absence from failure, and what becomes of either on
the way to the catalog. -/
structure Affirms (client : Client) : Prop where
  latest : ∀ {network : Network} {subject response bytes},
    network (client.request (.latest subject)) = .ok response →
    response.body.whole? = some bytes →
    Verdict client.maxResponseBytes response.status bytes (Registered.ToldBy subject bytes) [404]
      .notFound (client.answer network (.latest subject))
  version : ∀ {network : Network} {subject number response bytes},
    network (client.request (.version subject number)) = .ok response →
    response.body.whole? = some bytes →
    Verdict client.maxResponseBytes response.status bytes (Registered.ToldBy subject bytes) [404]
      .notFound (client.answer network (.version subject number))
  mode : ∀ {network : Network} {subject response bytes},
    network (client.request (.mode subject)) = .ok response →
    response.body.whole? = some bytes →
    Verdict client.maxResponseBytes response.status bytes (SubjectMode.ToldBy bytes) [404, 405, 501]
      .unsupported (client.answer network (.mode subject))
  latestBelieved : ∀ (network : Network) (subject : String),
    client.Believes subject (network (client.request (.latest subject)))
      (Lookup.ofAttempt (.ofAnswer (client.answer network (.latest subject))))
  versionBelieved : ∀ (network : Network) (subject : String) (number : UInt32),
    client.Believes subject (network (client.request (.version subject number)))
      (Lookup.ofAttempt (.ofAnswer (client.answer network (.version subject number))))
  latestSettled : ∀ {around policy subject start told found catalog},
    Program.Course around (Program.latest policy subject) start told (.done found) catalog →
    found.Settled (fun _ => False) (Heard told (.latest subject))
  versionSettled : ∀ {around policy subject number start told found catalog},
    Program.Course around (Program.version policy subject number) start told (.done found) catalog →
    found.Settled (fun _ => False) (Heard told (.version subject number))
  passed : ∀ {policy start pass catalog}, Pass.Reach client.around policy start pass catalog →
    ∀ task ∈ pass.tasks, ∀ worked, task.rest = .done worked →
    ∀ version, GotPast task.subject start task.told worked.outcome version →
    ∃ network : Network,
      let carried := network (client.request (.version task.subject version))
      Heard task.told (.version task.subject version)
          (.ofAnswer (client.answer network (.version task.subject version))) ∧
        (client.Denied carried ∨ ∃ registered, client.Served task.subject carried registered)
  missing : ∀ {policy start pass catalog}, Pass.Reach client.around policy start pass catalog →
    ∀ task ∈ pass.tasks, ∀ worked, task.rest = .done worked →
    worked.outcome = .skipped .notInRegistry →
    ∃ network : Network, client.Denied (network (client.request (.latest task.subject))) ∧
      Heard task.told (.latest task.subject)
          (.ofAnswer (client.answer network (.latest task.subject))) ∧
        ∀ attempt, Heard task.told (.latest task.subject) attempt → attempt = .timedOut ∨
          attempt = .ofAnswer (client.answer network (.latest task.subject))

end Client

/-- Whatever a registry on the web answers, at whatever size and cut into whatever chunks: a body
that is too long is a breach of protocol whatever the status is; otherwise a success is a version
where the body is one and a breach of protocol where it is not, one status denies a version, three
say that there are no modes, and every other one is a failure. A look-up goes by the one answer that
came in time and finds nothing to be absent but what was denied. So a pass gets past a version only
if it was denied or served, and calls a subject missing only if its latest version was denied. -/
theorem absence_is_affirmed (client : Client) : client.Affirms where
  latest came whole := by
    rw [Client.answer_latest, came]
    exact Client.verdict_registered _ _ whole
  version came whole := by
    rw [Client.answer_version, came]
    exact Client.verdict_registered _ _ whole
  mode came whole := by
    unfold Client.answer
    rw [came]
    exact Client.verdict_modeOf _ whole
  latestBelieved network subject := by
    rw [Client.answer_latest]
    exact Client.believes_schema client subject _
  versionBelieved network subject number := by
    rw [Client.answer_version]
    exact Client.believes_schema client subject _
  latestSettled course := (course.asks (Program.asks_latestFrom _ _)).retried
    fun _ heard => absurd heard not_heard_nil
  versionSettled course := (course.asks Program.asks_version).retried
    fun _ heard => absurd heard not_heard_nil
  passed reach _ member _ done _ passed :=
    Client.served_or_denied_of_gotPast reach member done passed
  missing reach _ member _ done missing := Client.denied_of_notInRegistry reach member done missing

/-- A client of a registry without a path of its own, with room for a hundred bytes. -/
def plainClient : Client :=
  ⟨⟨"http", [], [], "registry".toList, none, [], none, none⟩, none, "", 100⟩

/-- A version of a known dialect. What stands beside it is no text, but nobody reads it. -/
def oddBody : List UInt8 :=
  Utf8.encode "\x7b\"version\":3,\"note\":\"" ++
    0xFF :: Utf8.encode "\",\"schemaType\":\"json\"\x7d"

/-- A task that is alone in the crew goes on. -/
theorem Pass.Reach.alone {around : Surroundings} {policy : RunPolicy} {start catalog after : Catalog}
    {told heard : List Exchange} {summary : Summary} {waiting : List String} {permits : Nat}
    {subject : String} {effect : Effect} {rest : effect.Answer → Program Worked}
    {ended counted : List Task} {answer : effect.Answer}
    (reach : Pass.Reach around policy start ⟨told, .round ⟨summary, waiting, permits,
      [⟨subject, heard, .perform effect rest⟩], ended, counted⟩⟩ catalog)
    (gives : around.Gives heard catalog effect answer after) :
    Pass.Reach around policy start ⟨told, .round ⟨summary, waiting, permits,
      [⟨subject, heard ++ [⟨effect, answer⟩], rest answer⟩], ended, counted⟩⟩ after :=
  reach.next (.round (@Round.Goes.worked _ _ _ _ _ _ [] _ _ _ _ [] _ _ _ _ _ gives))

/-- The registry serves a version. Another lists a subject, lets one call for its latest version
wait too long and denies the next. -/
theorem absence_is_affirmed_of_plainClient :
    (∃ network : Network,
      let registered : Registered := ⟨"orders", 3, ⟨none, .json, none⟩, none, none, none⟩
      network (plainClient.request (.latest "orders")) = .ok ⟨200, .chunk oddBody .ended⟩ ∧
        plainClient.answer network (.latest "orders") = .ok registered ∧
          plainClient.Served "orders" (network (plainClient.request (.latest "orders")))
            registered) ∧
    ∃ pass catalog task,
    Pass.Reach plainClient.around .standard .empty pass catalog ∧ task ∈ pass.tasks ∧
      task.subject = "orders" ∧ task.rest = .done ⟨.skipped .notInRegistry, .zero⟩ ∧
      ∃ network : Network, plainClient.Denied (network (plainClient.request (.latest task.subject))) ∧
        Heard task.told (.latest task.subject)
            (.ofAnswer (plainClient.answer network (.latest task.subject))) ∧
          ∀ attempt, Heard task.told (.latest task.subject) attempt → attempt = .timedOut ∨
            attempt = .ofAnswer (plainClient.answer network (.latest task.subject)) := by
  have served : plainClient.answer (fun _ => .ok ⟨200, .chunk oddBody .ended⟩) (.latest "orders") =
      .ok ⟨"orders", 3, ⟨none, .json, none⟩, none, none, none⟩ := by with_unfolding_all rfl
  have believed := (absence_is_affirmed plainClient).latestBelieved
    (fun _ => .ok ⟨200, .chunk oddBody .ended⟩) "orders"
  rw [served] at believed
  refine ⟨⟨_, rfl, served, (believed.found _).1 rfl⟩, ?_⟩
  let listing : Network := fun _ => .ok ⟨200, .chunk (Utf8.encode "[\"orders\"]") .ended⟩
  let nothing : Network := fun _ => .ok ⟨404, .ended⟩
  have lists : plainClient.answer listing .subjects = .ok ["orders"] := by decide +kernel
  have first : Pass.Reach plainClient.around .standard .empty _ .empty := .start
  have listed := first.next (.told (@Surroundings.Gives.replied _ _ _ _ _
    (Attempt.answered ["orders"]) (.inr ⟨listing, by rw [lists]; rfl⟩)))
  have known := listed.next (.told (.accepted trivial))
  have opened := known.next .opened
  have begun := opened.next (.round .begun)
  have marked := begun.alone (.accepted trivial)
  have late := marked.alone (@Surroundings.Gives.replied _ _ _ _ _ Attempt.timedOut (.inl rfl))
  have noted := late.alone .reported
  have paused := noted.alone .paused
  have denied := paused.alone (@Surroundings.Gives.replied _ _ _ _ _
    (Attempt.failed (.notFound "")) (.inr ⟨nothing, rfl⟩))
  have reach := denied.alone .reported
  exact ⟨_, _, _, reach, List.mem_singleton.2 rfl, rfl, rfl,
    (absence_is_affirmed plainClient).missing reach _ (List.mem_singleton.2 rfl) _ rfl rfl⟩

end SchemaLedger
