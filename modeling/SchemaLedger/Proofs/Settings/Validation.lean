import SchemaLedger.Settings.Settings

namespace SchemaLedger

variable {kept : Bool} {fault : SettingsFault} {next : Unit → Except SettingsFault Unit}

theorem demand_eq_ok_iff : demand kept fault = .ok () ↔ kept = true := by
  cases kept <;> simp [demand]

theorem bind_eq_ok_iff {first : Except SettingsFault Unit} :
    (first >>= next) = .ok () ↔ first = .ok () ∧ next () = .ok () := by
  cases first <;> simp [bind, Except.bind]

theorem demand_bind_eq_ok_iff :
    (demand kept fault >>= next) = .ok () ↔ kept = true ∧ next () = .ok () := by
  rw [bind_eq_ok_iff, demand_eq_ok_iff]

/-- What the settings of a registry are like that keep the rules. -/
structure RegistrySettings.Kept (s : RegistrySettings) : Prop where
  url : startsWith "http://" (trimBlank s.url) = true ∨
    startsWith "https://" (trimBlank s.url) = true
  credentials : s.username.isSome = s.password.isSome
  userAgent : trimBlank s.userAgent ≠ "" ∧ s.userAgent.utf8ByteSize ≤ 256
  maxResponseBytes : 0 < s.maxResponseBytes.toNat ∧ s.maxResponseBytes.toNat ≤ 268435456

theorem RegistrySettings.validate_eq_ok_iff {s : RegistrySettings} :
    s.validate = .ok () ↔ s.Kept := by
  have nothing : ¬(startsWith "http://" "" = true ∨ startsWith "https://" "" = true) := by decide
  simp only [validate, demand_bind_eq_ok_iff, demand_eq_ok_iff, Bool.and_eq_true, Bool.or_eq_true,
    decide_eq_true_eq, beq_iff_eq, UInt64.le_iff_toNat_le]
  constructor
  · rintro ⟨-, url, credentials, userAgent, positive, bounded⟩
    refine ⟨url, credentials, userAgent, Nat.pos_of_ne_zero fun zero => ?_, bounded⟩
    exact positive (UInt64.toNat_inj.1 zero)
  · rintro ⟨url, credentials, userAgent, positive, bounded⟩
    refine ⟨fun empty => ?_, url, credentials, userAgent, fun zero => ?_, bounded⟩
    · rw [empty] at url
      exact nothing url
    · rw [zero] at positive
      exact Nat.lt_irrefl 0 positive

/-- The ranges of the numbers that govern a run. -/
structure SyncSettings.InRange (s : SyncSettings) : Prop where
  maxConcurrent : 1 ≤ s.maxConcurrent.toNat ∧ s.maxConcurrent.toNat ≤ 256
  requestTimeout : 100 ≤ s.requestTimeoutMillis.toNat ∧ s.requestTimeoutMillis.toNat ≤ 120000
  maxRetries : 1 ≤ s.maxRetries.toNat ∧ s.maxRetries.toNat ≤ 10
  retryBaseDelay : 1 ≤ s.retryBaseDelayMillis.toNat ∧ s.retryBaseDelayMillis.toNat ≤ 60000
  interval : s.intervalSeconds ≠ 0

/-- The rules are kept exactly by numbers in their ranges. -/
theorem SyncSettings.validate_eq_ok_iff {s : SyncSettings} : s.validate = .ok () ↔ s.InRange := by
  simp only [validate, demand_bind_eq_ok_iff, demand_eq_ok_iff, Bool.and_eq_true, decide_eq_true_eq,
    UInt64.le_iff_toNat_le, UInt32.le_iff_toNat_le]
  constructor
  · rintro ⟨maxConcurrent, requestTimeout, maxRetries, retryBaseDelay, interval⟩
    exact ⟨maxConcurrent, requestTimeout, maxRetries, retryBaseDelay, interval⟩
  · rintro ⟨maxConcurrent, requestTimeout, maxRetries, retryBaseDelay, interval⟩
    exact ⟨maxConcurrent, requestTimeout, maxRetries, retryBaseDelay, interval⟩

/-- A catalog in memory has no path, and a database has one that keeps the rules for paths. -/
theorem StoreSettings.validate_eq_ok_iff {s : StoreSettings} :
    s.validate = .ok () ↔ s.kind = .memory ∧ s.path = none ∨
      ∃ path, s.kind = .sqlite ∧ s.path = some path ∧ checkPath path = .ok () := by
  obtain ⟨kind, path, wait, journal, sync⟩ := s
  cases kind <;> cases path <;> simp [validate]

/-- The settings keep the rules when each section does. -/
theorem Settings.validate_eq_ok_iff {s : Settings} : s.validate = .ok () ↔
    s.registry.validate = .ok () ∧ s.sync.validate = .ok () ∧ s.store.validate = .ok () ∧
      s.logging.validate = .ok () := by
  simp only [validate, bind_eq_ok_iff]

end SchemaLedger
