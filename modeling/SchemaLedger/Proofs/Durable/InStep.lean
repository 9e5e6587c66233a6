import SchemaLedger.Proofs.Durable.Refinement
import SchemaLedger.Service.Connection
import SchemaLedger.Sync.Ingest

namespace SchemaLedger

/-- A shelf has a row of a kind. -/
def Shelf.Has (shelf : Shelf) : SubjectTable → Prop
  | .versions => shelf.versions.keys ≠ []
  | .artifacts => shelf.artifacts ≠ []
  | .remarks => shelf.remarks.keys ≠ []
  | .entries => shelf.entry.isSome

/-- Versions do not lie on a shelf without an entry. -/
theorem Shelf.Sound.occupied_iff {subject : String} {shelf : Shelf} (sound : shelf.Sound subject) :
    shelf.Occupied ↔ ∃ table, shelf.Has table := by
  have remarked : shelf.Has .remarks ↔ shelf.remarks.entries ≠ [] :=
    not_congr List.map_eq_nil_iff
  constructor
  · rintro (entry | artifacts | remarks)
    · exact ⟨.entries, entry⟩
    · exact ⟨.artifacts, artifacts⟩
    · exact ⟨.remarks, remarked.2 remarks⟩
  · rintro ⟨table, has⟩
    cases table with
    | versions => exact .inl (sound.entry_isSome_iff.2 has)
    | artifacts => exact .inr (.inl has)
    | remarks => exact .inr (.inr (remarked.1 has))
    | entries => exact .inl has

namespace Backend

/-- What requests may lead to when they are made of an empty catalog in memory or of a database that
has just been opened. Statements may fail in the midst of a request. -/
inductive Reached : Backend → Prop
  | memory : Reached (.memory .empty)
  | opened {settings place db} : openDatabase settings place .blank = (.ok (), db) →
      Reached (.durable db)
  | kept {backend} (request : Request) : Reached backend →
      Reached (Backend.keeper request backend).2
  | faulted {db} (broken : Nat → Bool) (request : Request) : Reached (.durable db) →
      Reached (.durable (db.perform broken request).2)

/-- There is a row of a subject in a table. -/
def Has (backend : Backend) (subject : String) (table : SubjectTable) : Prop :=
  match backend, table with
  | memory catalog, table => (catalog.shelf subject).Has table
  | durable db, .versions => .text subject ∈ db.versions.rows.map (·.subject)
  | durable db, .artifacts => .text subject ∈ db.artifacts.rows.map (·.subject)
  | durable db, .remarks => .text subject ∈ db.remarks.rows.map (·.subject)
  | durable db, .entries => .text subject ∈ db.entries.rows.map (·.subject)

/-- There is a row of a version of a subject. -/
def Stores (backend : Backend) (subject : String) (version : UInt32) : Prop :=
  match backend with
  | memory catalog => (catalog.row? subject version).isSome
  | durable db => ∃ row ∈ db.versions.rows,
    row.subject = .text subject ∧ row.version = .ofWord version

/-- There is an entry of a subject with a mark. -/
def Marks (backend : Backend) (subject : String) (mark : Option UInt32) : Prop :=
  match backend with
  | memory catalog => ∃ entry, (catalog.shelf subject).entry = some entry ∧ entry.mark = mark
  | durable db => ∃ row ∈ db.entries.rows,
    row.subject = .text subject ∧ row.mark = .ofOption .ofWord mark

/-- Entries and versions are in step, and the answers say what the rows are. -/
structure InStep (backend : Backend) : Prop where
  versioned : ∀ subject, backend.Has subject .versions ↔ ∃ version, backend.Stores subject version
  entered : ∀ subject, backend.Has subject .entries ↔ ∃ version, backend.Stores subject version
  marked : ∀ subject, backend.Has subject .entries → ∃ highest,
    (∀ mark, backend.Marks subject mark ↔ mark = some highest) ∧
      backend.Stores subject highest ∧ ∀ version, backend.Stores subject version → version ≤ highest
  known : ∃ names, (Backend.keeper .known backend).1 = .ok names ∧
    ∀ subject, Table.contains names subject = true ↔ ∃ table, backend.Has subject table
  reported : ∀ ask now subject, ∃ found,
    ((Program.subjectReport subject).run (Backend.host ask) now backend).1 = .ok found ∧
      (found = none ↔ ∀ version, ¬backend.Stores subject version) ∧
      ∀ report ∈ found, report.entry.subject = subject ∧ report.versions ≠ [] ∧
        report.versions.Pairwise (· < ·) ∧
        (∀ version, version ∈ report.versions ↔ backend.Stores subject version) ∧
        report.versions.getLast? = report.entry.mark

/-- The rows are those of a catalog. -/
inductive Shows : Backend → Catalog → Prop
  | memory {catalog} : catalog.Sound → Shows (.memory catalog) catalog
  | durable {db catalog} : db.Houses catalog → Shows (.durable db) catalog

namespace Shows

variable {backend : Backend} {catalog : Catalog} {subject : String}

theorem sound (shows : backend.Shows catalog) : catalog.Sound := by
  cases shows with
  | memory sound => exact sound
  | durable houses => exact houses.sound

/-- Every request is carried out on the rows, and answered by them unless a row cannot be read. -/
theorem keep (shows : backend.Shows catalog) (request : Request) :
    (Backend.keeper request backend).2.Shows (catalog.perform request).2 ∧
      ((∀ subject version, request ≠ .snapshot subject version) →
        (Backend.keeper request backend).1 = .ok (catalog.perform request).1) := by
  cases shows with
  | memory sound => exact ⟨.memory (sound.perform request), fun _ => rfl⟩
  | durable houses =>
    obtain ⟨housed, answered⟩ := houses.perform request
    refine ⟨.durable housed, fun other => ?_⟩
    exact congrArg (Except.mapError DurableError.toStoreError) (answered other)

theorem has_iff (shows : backend.Shows catalog) (table : SubjectTable) :
    backend.Has subject table ↔ (catalog.shelf subject).Has table := by
  cases shows with
  | memory => rfl
  | durable houses =>
    cases table with
    | versions =>
      refine (houses.versions.mem_iff houses.sound subject).trans (not_congr ?_)
      simp only [Drawer.versions, Table.keys, List.map_eq_nil_iff]
    | artifacts =>
      refine (houses.artifacts.mem_iff houses.sound subject).trans (not_congr ?_)
      simp only [Drawer.artifacts, List.map_eq_nil_iff]
    | remarks =>
      refine (houses.remarks.mem_iff houses.sound subject).trans (not_congr ?_)
      simp only [Drawer.remarks, Table.keys, List.map_eq_nil_iff]
    | entries =>
      refine (houses.entries.mem_iff houses.sound subject).trans ?_
      cases atEntry : (catalog.shelf subject).entry with
      | none => simp [Drawer.entries, Shelf.Has, atEntry]
      | some entry => simp [Drawer.entries, Shelf.Has, atEntry]

theorem stores_iff (shows : backend.Shows catalog) (version : UInt32) :
    backend.Stores subject version ↔ (catalog.row? subject version).isSome := by
  cases shows with
  | memory => rfl
  | durable houses =>
    have found := any_eq_of_filter (houses.filter_versions subject version)
    rw [Option.isSome_map] at found
    rw [← found, List.any_eq_true]
    simp only [Stores, Bool.and_eq_true, decide_eq_true_eq]

theorem marks_iff (shows : backend.Shows catalog) (mark : Option UInt32) :
    backend.Marks subject mark ↔
      ∃ entry, (catalog.shelf subject).entry = some entry ∧ entry.mark = mark := by
  cases shows with
  | memory => rfl
  | @durable db _ houses =>
    have own := houses.filter_entries subject
    have chosen (row : EntryRow) : row ∈ db.entries.rows ∧ row.subject = .text subject ↔
        ∃ entry, (catalog.shelf subject).entry = some entry ∧ .ofEntry entry = row := by
      have member : row ∈ db.entries.rows.filter (fun row => row.subject = .text subject) ↔
          row ∈ ((catalog.shelf subject).entry.map EntryRow.ofEntry).toList := by rw [own]
      rw [List.mem_filter, decide_eq_true_eq, Option.mem_toList] at member
      exact member.trans Option.map_eq_some_iff
    have spelled (entry : Entry) : (EntryRow.ofEntry entry).mark = .ofOption .ofWord mark ↔
        entry.mark = mark := by
      constructor
      · intro same
        have first := Cell.optional_word entry.mark
        have read := congrArg (Cell.optional Cell.asWord) same
        rw [Cell.optional_word, EntryRow.ofEntry, first] at read
        exact Except.ok.inj read
      · rintro rfl
        rfl
    simp only [Marks, ← and_assoc, chosen]
    constructor
    · rintro ⟨row, ⟨entry, atEntry, rfl⟩, same⟩
      exact ⟨entry, atEntry, (spelled entry).1 same⟩
    · rintro ⟨entry, atEntry, same⟩
      exact ⟨.ofEntry entry, ⟨entry, atEntry, rfl⟩, (spelled entry).2 same⟩

/-- The report on a subject shows its entry and its versions. -/
theorem run_subjectReport (shows : backend.Shows catalog)
    (ask : (query : Query) → Attempt query.Reply) (now : Nat) (subject : String) :
    ((Program.subjectReport subject).run (Backend.host ask) now backend).1 =
      .ok ((catalog.shelf subject).entry.map fun entry =>
        ⟨entry, (catalog.shelf subject).versions.keys⟩) := by
  obtain ⟨after, first⟩ := shows.keep (.entry subject)
  obtain ⟨-, second⟩ := after.keep (.versions subject)
  replace first := first fun _ _ same => by cases same
  replace second := second fun _ _ same => by cases same
  simp only [Program.subjectReport, Bind.bind, Program.bind, Program.store, Program.ask, Program.run,
    Backend.host, first, Catalog.perform]
  cases atEntry : (catalog.shelf subject).entry with
  | none => rfl
  | some entry =>
    simp only [Program.run, Backend.host, second, Catalog.perform]
    rfl

theorem exists_stores_iff (shows : backend.Shows catalog) :
    (∃ version, backend.Stores subject version) ↔ (catalog.shelf subject).Has .versions := by
  simp only [shows.stores_iff, Catalog.row?, ← Table.mem_keys_iff]
  constructor
  · rintro ⟨version, member⟩
    exact List.ne_nil_of_mem member
  · exact List.exists_mem_of_ne_nil _

theorem inStep (shows : backend.Shows catalog) : backend.InStep where
  versioned subject := (shows.has_iff .versions).trans shows.exists_stores_iff.symm
  entered subject := by
    rw [shows.has_iff, shows.exists_stores_iff]
    exact (shows.sound.shelves subject).entry_isSome_iff
  marked subject entered := by
    have sound := shows.sound.shelves subject
    obtain ⟨entry, atEntry⟩ := Option.isSome_iff_exists.1 ((shows.has_iff .entries).1 entered)
    obtain ⟨highest, isMark, stored⟩ := sound.reached entry atEntry
    have atMark : (catalog.shelf subject).mark = some highest := by
      rw [Shelf.mark, atEntry, Option.bind_some, isMark]
    refine ⟨highest, fun mark => ?_, (shows.stores_iff highest).2 stored, fun version isStored => ?_⟩
    · rw [shows.marks_iff, atEntry]
      constructor
      · rintro ⟨other, same, rfl⟩
        cases same
        exact isMark
      · rintro rfl
        exact ⟨entry, rfl, isMark⟩
    · obtain ⟨row, found⟩ := Option.isSome_iff_exists.1 ((shows.stores_iff version).1 isStored)
      obtain ⟨mark, isHighest, below⟩ := sound.marked version row found
      cases atMark.symm.trans isHighest
      exact below
  known := by
    obtain ⟨-, answered⟩ := shows.keep .known
    refine ⟨catalog.known, answered (fun _ _ same => by cases same), fun subject => ?_⟩
    simp only [shows.has_iff]
    exact shows.sound.contains_known.trans (shows.sound.shelves subject).occupied_iff
  reported ask now subject := by
    have sound := shows.sound.shelves subject
    refine ⟨_, shows.run_subjectReport ask now subject, ?_, ?_⟩
    · rw [← not_exists, shows.exists_stores_iff, Option.map_eq_none_iff]
      exact Option.not_isSome_iff_eq_none.symm.trans (not_congr sound.entry_isSome_iff)
    · intro report isReport
      obtain ⟨entry, atEntry, rfl⟩ := Option.map_eq_some_iff.1 isReport
      have entered : (catalog.shelf subject).entry.isSome := by rw [atEntry]; rfl
      refine ⟨sound.own entry atEntry, sound.entry_isSome_iff.1 entered, Table.keys_ascending _,
        fun version => ?_, ?_⟩
      · rw [shows.stores_iff, Table.mem_keys_iff, Catalog.row?]
      · rw [sound.getLast?_keys, Shelf.mark, atEntry, Option.bind_some]

end Shows

theorem Reached.shows {backend : Backend} (reached : backend.Reached) :
    ∃ catalog, backend.Shows catalog := by
  induction reached with
  | memory => exact ⟨.empty, .memory Catalog.sound_empty⟩
  | opened opened => exact ⟨.empty, .durable (fresh_of_opened opened ▸ Database.fresh_houses)⟩
  | kept request _ ih =>
    obtain ⟨catalog, shows⟩ := ih
    exact ⟨_, (shows.keep request).1⟩
  | @faulted db broken request _ ih =>
    obtain ⟨catalog, shows⟩ := ih
    rcases db.perform_broken broken request with ⟨error, failed⟩ | unbroken
    · rw [failed]
      exact ⟨catalog, shows⟩
    · rw [unbroken]
      exact ⟨_, (shows.keep request).1⟩

theorem reached_fresh : Reached (.durable .fresh) :=
  .opened (@openDatabase_blank (.standard "catalog.db") .available (by decide +kernel))

theorem Reached.after {backend : Backend} (reached : backend.Reached) (requests : List Request) :
    (Backend.keeper.after requests backend).Reached := by
  induction requests generalizing backend with
  | nil => exact reached
  | cons request rest ih => exact ih (reached.kept request)

theorem after_durable (requests : List Request) (db : Database) :
    Backend.keeper.after requests (.durable db) = .durable (Database.keeper.after requests db) := by
  induction requests generalizing db with
  | nil => rfl
  | cons request rest ih => exact ih _

end Backend

/-- Whatever is requested of an empty catalog, in memory or in a new database and with or without
faults of the database: a subject has an entry as long as it has a version, and its mark is the
highest of them; the subjects of the rows are the ones that are known; and there is a report on the
subjects with versions and on no others, with the versions in ascending order up to the mark. -/
theorem backends_stay_in_step {backend : Backend} (reached : backend.Reached) : backend.InStep := by
  obtain ⟨catalog, shows⟩ := reached.shows
  exact shows.inStep

/-- Versions out of order and an artifact of a subject without versions, in a database one of whose
statements fails at last. -/
theorem backends_stay_in_step_of_orderRequests :
    let db := Database.keeper.after (orderRequests.take 8) .fresh
    let backend := Backend.durable (db.perform (· = 1) (.remove (Names.ofList ["orders"]))).2
    backend.Reached ∧ backend.InStep ∧ backend.Has "orders" .entries ∧
      backend.Stores "orders" 10 ∧ backend.Stores "orders" 2 ∧ backend.Marks "orders" (some 10) ∧
      backend.Has "drafts" .artifacts ∧ ¬backend.Has "drafts" .entries := by
  intro db backend
  have opened : openDatabase (.standard "catalog.db") .available .blank = (.ok (), .fresh) :=
    openDatabase_blank (by decide +kernel)
  have reached : (Backend.durable db).Reached := by
    rw [← Backend.after_durable]
    exact (Backend.Reached.opened opened).after _
  have faulted := reached.faulted (· = 1) (.remove (Names.ofList ["orders"]))
  refine ⟨faulted, backends_stay_in_step faulted, ?_, ?_, ?_, ?_, ?_, ?_⟩
  all_goals
    dsimp only [backend, Backend.Has, Backend.Stores, Backend.Marks]
    decide +kernel

end SchemaLedger
