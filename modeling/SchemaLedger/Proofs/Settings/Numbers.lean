import SchemaLedger.Command.Job
import SchemaLedger.Proofs.Sync.Retry

namespace SchemaLedger

/-- A span within the greatest is kept to the nanosecond. -/
theorem Span.nanos_ofMillis_of_lt {millis : Nat} (short : millis * nanosInMilli < greatest) :
    (ofMillis millis).nanos = millis * nanosInMilli :=
  Nat.min_eq_left (Nat.le_of_lt short)

/-- No 64 bits of seconds are too many. -/
theorem Span.nanos_ofSeconds (seconds : UInt64) :
    (ofSeconds seconds.toNat).nanos = seconds.toNat * nanosInSecond := by
  have word : seconds.toNat ≤ 18446744073709551615 := Nat.le_of_lt_succ seconds.toNat_lt
  have product := Nat.mul_le_mul_right nanosInSecond word
  exact Nat.min_eq_left (Nat.le_trans product (by decide))

/-- Each number of the settings, but for the wait for a database, is the one its part works with: no
lower limit raises it, and no longest span cuts it off. -/
structure Settings.Exact (s : Settings) : Prop where
  crew : s.sync.policy.crewSize = s.sync.maxConcurrent.toNat
  attempts : ∀ subject, Program.latest s.sync.policy.retry subject =
    Program.latestFrom s.sync.policy.retry subject s.sync.maxRetries.toNat 0
  timeout : s.sync.policy.retry.requestTimeout.nanos = s.sync.requestTimeoutMillis.toNat * 1000000
  delay : s.sync.policy.retry.baseDelay.nanos = s.sync.retryBaseDelayMillis.toNat * 1000000
  pauses : s.sync.policy.retry.Doubles
  responses : s.registry.client.maxResponseBytes = s.registry.maxResponseBytes ∧
    0 < s.registry.maxResponseBytes.toNat ∧ s.registry.maxResponseBytes.toNat ≤ 256 * 1024 * 1024
  interval : s.sync.interval.nanos = s.sync.intervalSeconds.toNat * 1000000000 ∧
    0 < s.sync.interval.nanos

section Sync

variable {s : SyncSettings} (inRange : s.InRange)

include inRange

theorem SyncSettings.InRange.crewSize : s.policy.crewSize = s.maxConcurrent.toNat :=
  Nat.max_eq_left inRange.maxConcurrent.1

theorem SyncSettings.InRange.allowed : s.policy.retry.allowed = s.maxRetries.toNat :=
  Nat.max_eq_left inRange.maxRetries.1

theorem SyncSettings.InRange.nanos_requestTimeout :
    s.policy.retry.requestTimeout.nanos = s.requestTimeoutMillis.toNat * nanosInMilli := by
  have product := Nat.mul_le_mul_right nanosInMilli inRange.requestTimeout.2
  exact Span.nanos_ofMillis_of_lt (Nat.lt_of_le_of_lt product (by decide))

theorem SyncSettings.InRange.nanos_baseDelay :
    s.policy.retry.baseDelay.nanos = s.retryBaseDelayMillis.toNat * nanosInMilli := by
  have product := Nat.mul_le_mul_right nanosInMilli inRange.retryBaseDelay.2
  exact Span.nanos_ofMillis_of_lt (Nat.lt_of_le_of_lt product (by decide))

theorem SyncSettings.InRange.interval_pos : 0 < s.interval.nanos := by
  have some : 0 < s.intervalSeconds.toNat :=
    Nat.pos_of_ne_zero fun zero => inRange.interval (UInt64.toNat_inj.1 zero)
  rw [SyncSettings.interval, Span.nanos_ofSeconds]
  exact Nat.mul_pos some (by decide)

end Sync

theorem Settings.exact_of_valid {s : Settings} (valid : s.validate = .ok ()) : s.Exact := by
  obtain ⟨registry, sync, -, -⟩ := Settings.validate_eq_ok_iff.1 valid
  have inRange := SyncSettings.validate_eq_ok_iff.1 sync
  have kept := RegistrySettings.validate_eq_ok_iff.1 registry
  have attempts (subject : String) : Program.latest s.sync.policy.retry subject =
      Program.latestFrom s.sync.policy.retry subject s.sync.maxRetries.toNat 0 := by
    have unfolded : Program.latest s.sync.policy.retry subject =
      Program.latestFrom s.sync.policy.retry subject s.sync.policy.retry.allowed 0 := rfl
    rw [unfolded, inRange.allowed]
  exact {
    crew := inRange.crewSize
    attempts := attempts
    timeout := inRange.nanos_requestTimeout
    delay := inRange.nanos_baseDelay
    pauses := inRange.doubles
    responses := ⟨rfl, kept.maxResponseBytes⟩
    interval := ⟨Span.nanos_ofSeconds _, inRange.interval_pos⟩ }

/-- The settings with another wait. -/
def Settings.waiting (s : Settings) (millis : UInt64) : Settings :=
  { s with store := { s.store with busyTimeoutMillis := millis } }

/-- No rule looks at the wait. -/
theorem Settings.validate_waiting (s : Settings) (millis : UInt64) :
    (s.waiting millis).validate = s.validate := rfl

theorem error_of_bind_iff {ε α β : Type} {first : Except ε α} {next : α → Except ε β} {error : ε} :
    (first >>= next) = .error error ↔
      first = .error error ∨ ∃ value, first = .ok value ∧ next value = .error error := by
  cases first <;> simp [bind, Except.bind]

section Crash

variable {settings : Settings} {place : Place} {database : Database}

theorem DurableSettings.fault?_eq_crashed_iff {s : DurableSettings} :
    s.fault? place = some .crashed ↔
      pathFault? place s.path = none ∧ 2147483647 < s.busyTimeoutMillis.toNat := by
  rw [fault?]
  cases pathFault? place s.path with
  | some error => simp
  | none =>
    by_cases fits : s.busyTimeoutMillis.toNat ≤ 2147483647
    · simp [waitFits, longestWaitMillis, fits]
    · simp [waitFits, longestWaitMillis, fits, Nat.lt_of_not_le fits]

/-- A database that can be looked into does not end the program. -/
theorem crashes_of_openDatabase {s : DurableSettings} :
    (openDatabase s place database).1 = .error .crashed ↔ s.fault? place = some .crashed := by
  rw [openDatabase, openStepwise]
  cases s.fault? place with
  | some fault => simp
  | none => cases database.prepareStepwise fun _ => false <;> simp

theorem StoreSettings.openBackend_of_durable? {s : StoreSettings} {durable : DurableSettings}
    (isDurable : s.durable? = some durable) : s.openBackend place database = .error .crashed ↔
      (openDatabase durable place database).1 = .error .crashed := by
  rw [openBackend, isDurable]
  dsimp only
  generalize openDatabase durable place database = opened
  rcases opened with ⟨(_ | _) | _, _⟩ <;> simp

theorem StoreSettings.openBackend_eq_crashed_iff {s : StoreSettings} :
    s.openBackend place database = .error .crashed ↔ ∃ path, s.kind = .sqlite ∧
      s.path = some path ∧ pathFault? place path = none ∧
        2147483647 < s.busyTimeoutMillis.toNat := by
  obtain ⟨kind, path, wait, journal, sync⟩ := s
  cases kind with
  | memory => simp [openBackend, durable?]
  | sqlite =>
    cases path with
    | none => simp [openBackend, durable?]
    | some path =>
      rw [openBackend_of_durable? rfl, crashes_of_openDatabase,
        DurableSettings.fault?_eq_crashed_iff]
      simp

namespace CommandError

variable {α : Type} {made : Except SetupError α}

theorem ofSetup_eq_crashed_iff : ofSetup made = .error .crashed ↔ made = .error .crashed := by
  rcases made with error | value
  · cases error <;> simp [ofSetup]
  · simp [ofSetup]

theorem ofSetup_ne_noInterval : ofSetup made ≠ .error .noInterval := by
  rcases made with error | value
  · cases error <;> simp [ofSetup]
  · simp [ofSetup]

end CommandError

theorem LoggingSettings.makeFilter_ne_crashed (s : LoggingSettings) :
    s.makeFilter ≠ .error .crashed := by
  rw [makeFilter]
  split <;> simp

/-- Only the catalog crashes. -/
theorem crashes_of_service
    (crashed : CommandError.ofSetup (Service.ofSettings settings place database) =
      .error .crashed) : settings.store.openBackend place database = .error .crashed := by
  obtain early | ⟨client, -, crashed⟩ :=
    error_of_bind_iff.1 (CommandError.ofSetup_eq_crashed_iff.1 crashed)
  · rw [RegistrySettings.makeClient] at early
    split at early <;> cases early
  · obtain crashed | ⟨_, -, late⟩ := error_of_bind_iff.1 crashed
    · exact crashed
    · cases late

theorem Order.crashes_of_job {order : Order}
    (crashed : order.job settings place database = .error .crashed) :
    settings.store.openBackend place database = .error .crashed := by
  cases order with
  | sync =>
    obtain early | ⟨_, -, crashed⟩ := error_of_bind_iff.1 crashed
    · exact absurd (CommandError.ofSetup_eq_crashed_iff.1 early)
        (LoggingSettings.makeFilter_ne_crashed _)
    · obtain crashed | ⟨_, -, late⟩ := error_of_bind_iff.1 crashed
      · exact crashes_of_service crashed
      · cases late
  | serve interval =>
    obtain early | ⟨_, -, crashed⟩ := error_of_bind_iff.1 crashed
    · exact absurd (CommandError.ofSetup_eq_crashed_iff.1 early)
        (LoggingSettings.makeFilter_ne_crashed _)
    · obtain crashed | ⟨_, -, late⟩ := error_of_bind_iff.1 crashed
      · exact crashes_of_service crashed
      · split at late <;> cases late
  | validate => cases crashed
  | list | describe =>
    obtain crashed | ⟨_, -, late⟩ := error_of_bind_iff.1 crashed
    · exact CommandError.ofSetup_eq_crashed_iff.1 crashed
    · cases late

/-- Where passes are some time apart, every scheduler has its ticks. -/
theorem Order.job_ne_noInterval (apart : 0 < settings.sync.interval.nanos) (order : Order) :
    order.job settings place database ≠ .error .noInterval := by
  intro failed
  cases order with
  | sync =>
    obtain early | ⟨_, -, failed⟩ := error_of_bind_iff.1 failed
    · exact CommandError.ofSetup_ne_noInterval early
    · obtain failed | ⟨_, -, late⟩ := error_of_bind_iff.1 failed
      · exact CommandError.ofSetup_ne_noInterval failed
      · cases late
  | serve interval =>
    obtain early | ⟨_, -, failed⟩ := error_of_bind_iff.1 failed
    · exact CommandError.ofSetup_ne_noInterval early
    · obtain failed | ⟨_, -, late⟩ := error_of_bind_iff.1 failed
      · exact CommandError.ofSetup_ne_noInterval failed
      · rw [Interval.ofSpan?, dif_pos apart] at late
        cases interval <;> cases late
  | validate => cases failed
  | list | describe =>
    obtain failed | ⟨_, -, late⟩ := error_of_bind_iff.1 failed
    · exact CommandError.ofSetup_ne_noInterval failed
    · cases late

end Crash

/-- Settings that keep the rules hand every number to its part as it is, but for one: however long a
database is to be waited for, the settings keep the rules, and the program ends with a crash exactly
where a database can be opened and the wait is longer than an engine takes. -/
theorem checked_numbers_are_taken_as_they_are (settings : Settings)
    (valid : settings.validate = .ok ()) :
    settings.Exact ∧
      (∀ millis, (settings.waiting millis).validate = .ok ()) ∧
      (∀ order place database, Order.job settings place database order = .error .crashed →
        settings.store.kind = .sqlite ∧ 2147483647 < settings.store.busyTimeoutMillis.toNat) ∧
      (∀ order place database, Order.job settings place database order ≠ .error .noInterval) ∧
      ∀ place database, Order.list.job settings place database = .error .crashed ↔
        ∃ path, settings.store.kind = .sqlite ∧ settings.store.path = some path ∧
          pathFault? place path = none ∧
          2147483647 < settings.store.busyTimeoutMillis.toNat := by
  have exact := Settings.exact_of_valid valid
  refine ⟨exact, fun millis => (settings.validate_waiting millis).trans valid,
    fun order place database crashed => ?_,
    fun order place database => order.job_ne_noInterval exact.interval.2,
    fun place database => ?_⟩
  · obtain ⟨_, kind, -, -, long⟩ :=
      StoreSettings.openBackend_eq_crashed_iff.1 (Order.crashes_of_job crashed)
    exact ⟨kind, long⟩
  · rw [← @StoreSettings.openBackend_eq_crashed_iff place database]
    refine ⟨Order.crashes_of_job, fun crashes => error_of_bind_iff.2 (.inl ?_)⟩
    exact CommandError.ofSetup_eq_crashed_iff.2 crashes

/-- A database in a file, with numbers at the ends of their ranges. -/
def Settings.strained : Settings where
  registry := ⟨"http://registry.local:8081", none, none, defaultUserAgent, 268435456⟩
  sync := ⟨256, 120000, 10, 60000, 18446744073709551615⟩
  store := ⟨.sqlite, some "catalog.db", 2147483647, .wal, .full⟩
  logging := .standard

theorem checked_numbers_are_taken_as_they_are_of_strained :
    Settings.strained.validate = .ok () ∧ Settings.strained.sync.policy.crewSize = 256 ∧
      (Settings.strained.sync.policy.retry.pauseAfter 8).nanos = 60000000000 * 2 ^ 8 ∧
      Order.list.job Settings.strained .available .blank ≠ .error .crashed := by
  have valid : Settings.strained.validate = .ok () := by decide +kernel
  obtain ⟨exact, -, crashes, -, -⟩ := checked_numbers_are_taken_as_they_are .strained valid
  refine ⟨valid, exact.crew, exact.pauses.exact 8 (by decide), fun crashed => ?_⟩
  exact absurd (crashes _ _ _ crashed).2 (by decide)

/-- The settings keep the rules with a wait that no engine takes, and the program crashes. -/
theorem an_accepted_wait_ends_the_program :
    let settings := Settings.strained.waiting 2147483648
    settings.validate = .ok () ∧ settings.store.kind = .sqlite ∧
      ¬settings.store.busyTimeoutMillis.toNat ≤ 2147483647 ∧
      Order.list.job settings .available .blank = .error .crashed := by
  have usable : pathFault? .available "catalog.db" = none := by decide +kernel
  have crashes : (Settings.strained.waiting 2147483648).store.openBackend .available .blank =
      .error .crashed :=
    StoreSettings.openBackend_eq_crashed_iff.2 ⟨"catalog.db", rfl, rfl, usable, by decide⟩
  refine ⟨by decide +kernel, rfl, by decide, error_of_bind_iff.2 (.inl ?_)⟩
  exact CommandError.ofSetup_eq_crashed_iff.2 crashes

end SchemaLedger
