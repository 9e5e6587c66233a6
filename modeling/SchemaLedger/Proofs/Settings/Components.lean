import SchemaLedger.Proofs.Settings.Validation
import SchemaLedger.Proofs.Text.Path
import SchemaLedger.Proofs.Url.Scheme
import SchemaLedger.Service.Setup

namespace SchemaLedger

namespace Client

variable {settings : ClientSettings}

theorem credentials?_of_paired {username password : Option String}
    (paired : username.isSome = password.isSome) :
    credentials? username password = .ok (username.bind fun u => password.map fun p => (u, p)) := by
  cases username <;> cases password <;> first | rfl | cases paired

/-- With a name and a password or neither of them, and a limit above zero, only the address and the
name of the agent are left to be looked at. -/
theorem ofSettings_of_kept (paired : settings.username.isSome = settings.password.isSome)
    (limited : settings.maxResponseBytes ≠ 0) {base : Url}
    (readable : Url.parse settings.baseUrl = .ok base) : ofSettings settings =
      if isHeaderText settings.userAgent then
        .ok ⟨base, settings.username.bind fun u => settings.password.map fun p => (u, p),
          settings.userAgent, settings.maxResponseBytes⟩
      else .error (.config "builder error") := by
  rw [ofSettings, readable, credentials?_of_paired paired]
  exact if_neg limited

theorem ofSettings_of_unreadable (unreadable : Url.parse settings.baseUrl = .error .unreadable) :
    ofSettings settings = .error (.config "invalid registry url") := by
  rw [ofSettings, unreadable]
  rfl

end Client

/-- What stands at a place, if no database can be there, or why it cannot be one. -/
def Place.fault? : Place → Option DurableError
  | directory => some (.invalid "store path must be a file, not a directory")
  | unreachable detail => some (.io detail)
  | unusable detail => some (.database detail)
  | available => none

namespace StoreSettings

/-- A path that keeps the rules is refused for nothing but what stands at its place. One that does
not is refused for the same fault wherever it leads. -/
theorem pathFault?_eq (place : Place) (path : String) : pathFault? place path =
    match checkPath path with
    | .ok () => place.fault?
    | .error .storePathEmpty => some (.invalid "store path must not be empty")
    | .error .storePathTooLong => some (.invalid "store path exceeds length limit")
    | .error _ => some (.invalid "store path contains an overlong component") := by
  by_cases empty : path = ""
  · rw [empty]
    rfl
  · have limits : Place.pathLimits = Settings.pathLimits := rfl
    have named : demand (path ≠ "") .storePathEmpty = .ok () := by simp [demand, empty]
    unfold pathFault?
    rw [if_neg empty, checkPath, named, limits]
    cases Path.fault? Settings.pathLimits path with
    | none => cases place <;> rfl
    | some fault => cases fault <;> rfl

theorem checkPath_eq_ok_iff {path : String} :
    checkPath path = .ok () ↔ path ≠ "" ∧ Path.Short path := by
  have short : Path.Short path ↔ Path.fault? Settings.pathLimits path = none :=
    (Path.fault?_eq_none_iff (by decide)).symm
  rw [checkPath, demand_bind_eq_ok_iff, decide_eq_true_eq, short]
  refine and_congr_right fun _ => ?_
  cases Path.fault? Settings.pathLimits path with
  | none => exact iff_of_true rfl rfl
  | some fault => cases fault <;> exact iff_of_false nofun nofun

theorem durable?_of_valid {s : StoreSettings} (valid : s.validate = .ok ()) :
    (s.kind = .memory ∧ s.durable? = none) ∨ ∃ durable, s.kind = .sqlite ∧
      s.durable? = some durable ∧ s.path = some durable.path ∧ checkPath durable.path = .ok () := by
  rcases validate_eq_ok_iff.1 valid with ⟨memory, -⟩ | ⟨path, sqlite, isPath, kept⟩
  · refine .inl ⟨memory, ?_⟩
    rw [durable?, memory]
  · refine .inr ⟨⟨path, s.busyTimeoutMillis, s.journal, s.sync⟩, sqlite, ?_, isPath, kept⟩
    rw [durable?, sqlite, isPath]
    rfl

end StoreSettings

/-- Settings that keep the rules, and the checks of the parts that are made from them. A client is
refused only an address that cannot be read or a name that no header can carry. There are settings
for a database exactly where one is wanted, and its path is refused only for what stands there. A
path that breaks a rule for paths is refused by the database for the same; and what these rules are
does not depend on how a path is taken apart. -/
theorem settings_pass_the_checks_of_the_parts :
    (∀ settings : Settings, settings.validate = .ok () →
      ((Url.parse (trimBlank settings.registry.url) = .error .unreadable ∧
          Client.ofSettings settings.registry.client = .error (.config "invalid registry url")) ∨
        ∃ base, Url.parse (trimBlank settings.registry.url) = .ok base ∧
          (Client.isHeaderText settings.registry.userAgent = false ∧
            Client.ofSettings settings.registry.client = .error (.config "builder error") ∨
          Client.isHeaderText settings.registry.userAgent = true ∧
            ∃ client, Client.ofSettings settings.registry.client = .ok client)) ∧
      (settings.store.durable?.isSome = true ↔ settings.store.kind = .sqlite) ∧
      ∀ durable, settings.store.durable? = some durable → settings.store.path = some durable.path ∧
        ∀ place, pathFault? place durable.path = place.fault?) ∧
    (∀ path place,
      (StoreSettings.checkPath path = .error .storePathEmpty →
        pathFault? place path = some (.invalid "store path must not be empty")) ∧
      (StoreSettings.checkPath path = .error .storePathTooLong →
        pathFault? place path = some (.invalid "store path exceeds length limit")) ∧
      (StoreSettings.checkPath path = .error .storePathComponentTooLong →
        pathFault? place path = some (.invalid "store path contains an overlong component"))) ∧
    ∀ path, StoreSettings.checkPath path = .ok () ↔ path ≠ "" ∧ Path.Short path := by
  refine ⟨fun settings valid => ?_, fun path place => ?_,
    fun _ => StoreSettings.checkPath_eq_ok_iff⟩
  · obtain ⟨registry, -, store, -⟩ := Settings.validate_eq_ok_iff.1 valid
    have kept := RegistrySettings.validate_eq_ok_iff.1 registry
    have limited : settings.registry.maxResponseBytes ≠ 0 := fun zero =>
      absurd kept.maxResponseBytes.1 (by rw [zero]; decide)
    refine ⟨?_, ?_⟩
    · rcases Url.parse_of_startsWith kept.url with ⟨base, readable⟩ | unreadable
      · have made := @Client.ofSettings_of_kept settings.registry.client kept.credentials limited
          base readable
        refine .inr ⟨base, readable, ?_⟩
        cases carried : Client.isHeaderText settings.registry.userAgent with
        | false =>
          exact .inl ⟨rfl, made.trans (if_neg (by simp [RegistrySettings.client, carried]))⟩
        | true => exact .inr ⟨rfl, _, made.trans (if_pos carried)⟩
      · exact .inl ⟨unreadable, Client.ofSettings_of_unreadable unreadable⟩
    · rcases StoreSettings.durable?_of_valid store with ⟨memory, none⟩ |
        ⟨durable, sqlite, isDurable, isPath, keeps⟩
      · rw [none, memory]
        exact ⟨by decide, nofun⟩
      · rw [isDurable, sqlite]
        refine ⟨iff_of_true rfl rfl, fun other same => ?_⟩
        obtain rfl := Option.some.inj same
        refine ⟨isPath, fun place => ?_⟩
        rw [StoreSettings.pathFault?_eq, keeps]
  · rw [StoreSettings.pathFault?_eq]
    refine ⟨fun refused => ?_, fun refused => ?_, fun refused => ?_⟩ <;> rw [refused]

/-- An address between blanks of several kinds, and a path with dots, slashes in a row and
characters of several bytes. -/
def Settings.spaced : Settings where
  registry := ⟨"\u3000 \thttps://registry.local:443/catalog \u00a0\n", none, none, defaultUserAgent,
    defaultMaxResponseBytes⟩
  sync := .standard
  store := ⟨.sqlite, some ".//\u00e9t\u00e9/../catalog.db", 5000, .wal, .full⟩
  logging := .standard

theorem settings_pass_the_checks_of_the_parts_of_spaced :
    Settings.spaced.validate = .ok () ∧
      (∃ client, Client.ofSettings Settings.spaced.registry.client = .ok client) ∧
      ∃ durable, Settings.spaced.store.durable? = some durable ∧
        pathFault? .available durable.path = none := by
  have valid : Settings.spaced.validate = .ok () := by decide +kernel
  have readable : Url.parse (trimBlank Settings.spaced.registry.url) ≠ .error .unreadable := by
    decide +kernel
  have carried : Client.isHeaderText Settings.spaced.registry.userAgent = true := by decide +kernel
  obtain ⟨client, -, paths⟩ := settings_pass_the_checks_of_the_parts.1 .spaced valid
  refine ⟨valid, ?_, ⟨_, rfl, (paths _ rfl).2 .available⟩⟩
  rcases client with ⟨unreadable, -⟩ | ⟨base, -, ⟨notCarried, -⟩ | ⟨-, made⟩⟩
  · exact absurd unreadable readable
  · rw [carried] at notCarried
    cases notCarried
  · exact made

end SchemaLedger
