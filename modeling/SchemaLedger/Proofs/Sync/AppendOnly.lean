import SchemaLedger.Proofs.Sync.World

namespace SchemaLedger

/-- What a catalog has of a subject is still there in another one. -/
structure Catalog.Grows (subject : String) (old new : Catalog) : Prop where
  rows : ∀ version row, old.row? subject version = some row → new.row? subject version = some row
  mark : ∀ mark, old.mark subject = some mark →
    ∃ mark', new.mark subject = some mark' ∧ mark ≤ mark'

namespace Catalog

variable {old middle new catalog : Catalog} {subject : String} {version : UInt32}

theorem Grows.refl (subject : String) (catalog : Catalog) : catalog.Grows subject catalog :=
  ⟨fun _ _ stored => stored, fun mark atMark => ⟨mark, atMark, UInt32.le_refl mark⟩⟩

theorem Grows.trans (first : old.Grows subject middle) (second : middle.Grows subject new) :
    old.Grows subject new where
  rows version row stored := second.rows version row (first.rows version row stored)
  mark mark atMark := by
    obtain ⟨between, atBetween, low⟩ := first.mark mark atMark
    obtain ⟨last, atLast, high⟩ := second.mark between atBetween
    exact ⟨last, atLast, UInt32.le_trans low high⟩

/-- Only the entry and the versions of the subject count. -/
theorem Grows.of_same (rows : ∀ version, new.row? subject version = old.row? subject version)
    (mark : new.mark subject = old.mark subject) : old.Grows subject new where
  rows version _ stored := (rows version).trans stored
  mark mark' atMark := ⟨mark', mark.trans atMark, UInt32.le_refl mark'⟩

theorem Grows.of_shelf (same : new.shelf subject = old.shelf subject) : old.Grows subject new :=
  .of_same (fun version => by rw [row?, row?, same]) (by rw [mark_eq, mark_eq, same])

theorem row?_put (catalog : Catalog) (row : Snapshot) (version : UInt32) :
    (catalog.put row).2.row? row.subject version =
      if version = row.version then some ((catalog.row? row.subject version).getD row)
      else catalog.row? row.subject version := by
  rw [put, row?, shelf_setShelf_self, Shelf.find?_put, row?]

theorem put_fst (catalog : Catalog) (row : Snapshot) : (catalog.put row).1 =
    if (catalog.row? row.subject row.version).isSome then .alreadyPresent else .inserted :=
  (catalog.shelf row.subject).put_fst row

/-- To put a version that is there changes no row. -/
theorem row?_put_of_isSome {row : Snapshot}
    (there : (catalog.row? row.subject row.version).isSome) (subject : String) (version : UInt32) :
    (catalog.put row).2.row? subject version = catalog.row? subject version := by
  by_cases own : subject = row.subject
  · subst own
    rw [row?_put]
    split
    · rename_i same
      obtain ⟨kept, found⟩ := Option.isSome_iff_exists.1 there
      rw [same, found, Option.getD_some]
    · rfl
  · rw [put, row?_setShelf, if_neg own]

theorem grows_put (catalog : Catalog) (row : Snapshot) :
    catalog.Grows row.subject (catalog.put row).2 where
  rows version kept stored := by
    rw [row?_put, stored, Option.getD_some, ite_self]
  mark mark atMark := by
    obtain ⟨mark', atMark', -, rises⟩ := (catalog.shelf row.subject).le_mark_put row
    refine ⟨mark', ?_, rises mark atMark⟩
    rw [put, mark_eq, shelf_setShelf_self, atMark']

/-- Every request but a removal of the subject leaves what is there of it. -/
theorem grows_perform {request : Request}
    (spared : ∀ names, request = .remove names → Table.contains names subject = false) :
    catalog.Grows subject (catalog.perform request).2 := by
  cases about : request.subject? with
  | none =>
    cases request with
    | remove names =>
      refine .of_shelf ?_
      rw [perform, shelf_remove, spared names rfl, if_neg Bool.false_ne_true]
    | known | count | entries => exact .refl subject catalog
    | mark | put | update | entry | snapshot | versions | attach | annotate => cases about
  | some name =>
    by_cases same : subject = name
    · subst same
      cases request with
      | put row =>
        cases about
        exact grows_put catalog row
      | update _ change =>
        cases about
        exact .of_same (row?_update catalog subject change) (mark_update catalog subject change)
      | attach artifact | annotate remark =>
        cases about
        refine .of_same (fun version => ?_) ?_
        · simp [perform, attach, annotate, row?]
        · simp [perform, attach, annotate, mark_eq, Shelf.mark]
      | mark | entry | snapshot | versions => exact .refl subject catalog
      | known | count | remove | entries => cases about
    · exact .of_shelf (shelf_perform_of_ne about same)

/-- One if there is a row of the version. -/
def stored (catalog : Catalog) (subject : String) (version : UInt32) : Nat :=
  (catalog.row? subject version).isSome.toNat

end Catalog

/-- The request is to remove the subject. -/
def Call.Covers (call : Call) (subject : String) : Prop :=
  ∃ names, call.request = .remove names ∧ Table.contains names subject = true

/-- The call was answered that the version is new. -/
def Call.inserts (subject : String) (version : UInt32) : Call → Bool
  | ⟨_, .put row, .ok .inserted⟩ => row.subject = subject && row.version = version
  | _ => false

/-- What the calls of one step do to the catalog that is shown. Only the text of a snapshot may be
answered otherwise. -/
inductive Catalog.Logs (catalog : Catalog) : List Call → Catalog → Prop
  | idle : Logs catalog [] catalog
  | failed {caller request error} : Logs catalog [⟨caller, request, .error error⟩] catalog
  | carried {caller request value}
      (answered : (∀ subject version, request ≠ .snapshot subject version) →
        value = (catalog.perform request).1) :
      Logs catalog [⟨caller, request, .ok value⟩] (catalog.perform request).2

namespace Catalog

variable {catalog catalog' : Catalog} {calls : List Call} {subject : String}

theorem Logs.grows (logs : catalog.Logs calls catalog')
    (spared : ∀ call ∈ calls, ¬call.Covers subject) : catalog.Grows subject catalog' := by
  cases logs with
  | idle | failed => exact .refl subject catalog
  | carried =>
    refine grows_perform fun names same => Bool.eq_false_iff.2 fun within => ?_
    exact List.forall_mem_singleton.1 spared ⟨names, same, within⟩

/-- A put is answered that the version is new exactly when it was not there. -/
theorem stored_put (catalog : Catalog) (row : Snapshot) (caller : Option Pass) (subject : String)
    (version : UInt32) :
    catalog.stored subject version +
        (if Call.inserts subject version ⟨caller, .put row, .ok (catalog.put row).1⟩
          then 1 else 0) =
      (catalog.put row).2.stored subject version := by
  have outcome := catalog.put_fst row
  by_cases own : row.subject = subject
  · subst own
    rw [outcome, stored, stored, row?_put]
    by_cases same : version = row.version
    · subst same
      rw [if_pos rfl]
      cases catalog.row? row.subject row.version with
      | none => simp [Call.inserts]
      | some kept => simp [Call.inserts]
    · rw [if_neg same]
      have other : row.version ≠ version := Ne.symm same
      cases (catalog.row? row.subject row.version).isSome <;> simp [Call.inserts, other]
  · have unchanged : (catalog.put row).2.row? subject version = catalog.row? subject version := by
      rw [put, row?_setShelf, if_neg (Ne.symm own)]
    rw [stored, stored, unchanged, outcome]
    cases (catalog.row? row.subject row.version).isSome <;> simp [Call.inserts, own]

/-- Nothing but a put brings a version. -/
theorem stored_perform {request : Request}
    (grows : catalog.Grows subject (catalog.perform request).2)
    (other : ∀ row, request ≠ .put row) (version : UInt32) :
    (catalog.perform request).2.stored subject version = catalog.stored subject version := by
  rw [stored, stored]
  cases before : catalog.row? subject version with
  | some row => rw [grows.rows version row before]
  | none =>
    cases after : (catalog.perform request).2.row? subject version with
    | none => rfl
    | some row =>
      rcases row?_perform_cases after with found | put
      · cases before.symm.trans found
      · exact absurd put (other row)

theorem Logs.stored (logs : catalog.Logs calls catalog')
    (spared : ∀ call ∈ calls, ¬call.Covers subject) (version : UInt32) :
    catalog.stored subject version + calls.countP (·.inserts subject version) =
      catalog'.stored subject version := by
  have grows := logs.grows spared
  cases logs with
  | idle => rfl
  | @failed _ request _ => cases request <;> rfl
  | @carried caller request value answered =>
    by_cases puts : ∃ row, request = .put row
    · obtain ⟨row, rfl⟩ := puts
      obtain rfl := answered fun _ _ same => by cases same
      have counted := stored_put catalog row caller subject version
      rw [List.countP_singleton]
      exact counted
    · have other : ∀ row, request ≠ .put row := fun row same => puts ⟨row, same⟩
      have silent : Call.inserts subject version ⟨caller, request, .ok value⟩ = false := by
        cases request with
        | put row => exact absurd rfl (other row)
        | _ => rfl
      rw [stored_perform grows other, List.countP_singleton, silent]
      rfl

end Catalog

namespace Backend

variable {backend after : Backend} {catalog : Catalog} {subject : String}

/-- How the row of a version is kept. -/
def spelled : Backend → Snapshot → Row
  | memory _, row => .snapshot row
  | durable _, row => .versionCells (.ofSnapshot row)

theorem Gives.spelled {effect : Effect} {answer : effect.Answer}
    (gives : backend.Gives effect answer after) : after.spelled = backend.spelled := by
  cases gives with
  | kept request => cases backend <;> rfl
  | faulted | replied | refused | paused | reported => rfl

/-- The rows of a subject are those that are found on its shelf. -/
theorem Shows.mem_versions_iff (shows : backend.Shows catalog) {row : Row} :
    (row ∈ backend.rows .versions ∧ row.subject = .text subject) ↔
      ∃ version kept, catalog.row? subject version = some kept ∧ backend.spelled kept = row := by
  have onShelf : row ∈ (catalog.shelf subject).versions.entries.map (fun e => backend.spelled e.2) ↔
      ∃ version kept, catalog.row? subject version = some kept ∧ backend.spelled kept = row := by
    simp only [List.mem_map, Prod.exists, Catalog.row?, Table.find?_eq_some_iff]
  rw [← onShelf]
  cases shows with
  | memory sound =>
    have same := @Drawer.filter_subject _ (.records .versions) _ sound subject
    have member : row ∈ _ ↔ row ∈ (Drawer.records .versions).rows (catalog.shelf subject) :=
      iff_of_eq (congrArg (row ∈ ·) same)
    rw [List.mem_filter, decide_eq_true_eq] at member
    exact member
  | durable houses =>
    have same := houses.versions.filter_subject houses.sound subject
    constructor
    · rintro ⟨isRow, isSubject⟩
      obtain ⟨cells, inTable, rfl⟩ := List.mem_map.1 isRow
      have own := same.mem_iff.1 (List.mem_filter.2 ⟨inTable, decide_eq_true isSubject⟩)
      obtain ⟨entry, isEntry, rfl⟩ := List.mem_map.1 own
      exact List.mem_map.2 ⟨entry, isEntry, rfl⟩
    · intro isRow
      obtain ⟨entry, isEntry, rfl⟩ := List.mem_map.1 isRow
      have own := same.mem_iff.2 (List.mem_map_of_mem isEntry)
      obtain ⟨inTable, isSubject⟩ := List.mem_filter.1 own
      exact ⟨List.mem_map_of_mem inTable, of_decide_eq_true isSubject⟩

/-- A request is logged with what it does to the catalog that is shown. -/
theorem Shows.logs {request : Request} {answer : Except StoreError request.Answer}
    (shows : backend.Shows catalog) (gives : backend.Gives (.store request) answer after)
    (caller : Option Pass) :
    ∃ catalog', after.Shows catalog' ∧ catalog.Logs [⟨caller, request, answer⟩] catalog' := by
  rcases shows.given gives with ⟨error, rfl, rfl⟩ | ⟨value, rfl, carried⟩
  · exact ⟨catalog, shows, .failed⟩
  · obtain ⟨kept, answered⟩ := shows.keep request
    rw [carried] at kept answered
    exact ⟨_, kept, .carried fun other => Except.ok.inj (answered other)⟩

end Backend

namespace World

variable {world world' first second : World} {calls log : List Call} {catalog : Catalog}
  {subject : String}

theorem Step.logs (step : Step world calls world') (shows : world.backend.Shows catalog) :
    ∃ catalog', world'.backend.Shows catalog' ∧ catalog.Logs calls catalog' := by
  cases step with
  | asked gives => exact shows.logs gives none
  | begun | moved => exact ⟨catalog, shows, .idle⟩
  | @answered _ _ _ _ pass _ _ effect _ _ gives =>
    cases effect with
    | store request => exact shows.logs gives (some pass)
    | query | pause | report =>
      cases gives
      exact ⟨catalog, shows, .idle⟩

theorem Step.spelled (step : Step world calls world') :
    world'.backend.spelled = world.backend.spelled := by
  cases step with
  | asked gives | answered _ gives => exact gives.spelled
  | begun | moved => rfl

/-- Along a history without a removal of the subject its versions are added to, and each that is
added is answered to be new once. -/
theorem History.grows (history : History first log second) (shows : first.backend.Shows catalog)
    (spared : ∀ call ∈ log, ¬call.Covers subject) :
    ∃ catalog', second.backend.Shows catalog' ∧ catalog.Grows subject catalog' ∧
      second.backend.spelled = first.backend.spelled ∧
      ∀ version, catalog.stored subject version + log.countP (·.inserts subject version) =
        catalog'.stored subject version := by
  induction history with
  | start => exact ⟨catalog, shows, .refl subject catalog, rfl, fun _ => rfl⟩
  | next _ step ih =>
    obtain ⟨before, now⟩ := List.forall_mem_append.1 spared
    obtain ⟨between, showsBetween, grown, spelled, stored⟩ := ih before
    obtain ⟨catalog', showsAfter, logs⟩ := step.logs showsBetween
    refine ⟨catalog', showsAfter, grown.trans (logs.grows now), step.spelled.trans spelled,
      fun version => ?_⟩
    rw [List.countP_append, ← Nat.add_assoc, stored, logs.stored now]

end World

/-- What becomes of the versions of a subject between two moments, with the calls between them. -/
structure Appended (subject : String) (first : Backend) (log : List Call) (second : Backend) :
    Prop where
  rows : ∀ row ∈ first.rows .versions, row.subject = .text subject → row ∈ second.rows .versions
  mark : ∀ mark, (Backend.keeper (.mark subject) first).1 = .ok (some mark) →
    ∃ mark', (Backend.keeper (.mark subject) second).1 = .ok (some mark') ∧ mark ≤ mark'
  inserted : ∀ version, log.countP (·.inserts subject version) ≤ 1 ∧
    (log.countP (·.inserts subject version) = 1 ↔
      ¬first.Stores subject version ∧ second.Stores subject version)

/-- Between any two moments of any history, in memory or in a database and whatever the registry
serves: a run removes only subjects that are not on the list that it was given. A subject that
nobody else removes, and that the runs were told is listed, keeps the rows of its versions as they
are and a mark that does not fall, and a version of it is answered to be new once if it came in
between and never otherwise. -/
theorem versions_are_only_added {first second : World} {log : List Call} (reached : first.Reached)
    (history : World.History first log second) :
    (∀ call ∈ log, ∀ pass names, call.caller = some pass → call.request = .remove names →
      ∃ subjects, Listing pass.told subjects ∧
        ∀ subject ∈ subjects, Table.contains names subject = false) ∧
    ∀ subject, (∀ call ∈ log, call.Covers subject → ∃ pass subjects, call.caller = some pass ∧
        Listing pass.told subjects ∧ subject ∈ subjects) →
      Appended subject first.backend log second.backend := by
  have unlisted : ∀ call ∈ log, ∀ pass names, call.caller = some pass →
      call.request = .remove names → ∃ subjects, Listing pass.told subjects ∧
        ∀ subject ∈ subjects, Table.contains names subject = false := by
    intro call isCall pass names isCaller removes
    have spares := (history.orderly reached.orderly).2 call isCall pass isCaller
    rwa [removes] at spares
  refine ⟨unlisted, fun subject listed => ?_⟩
  have spared : ∀ call ∈ log, ¬call.Covers subject := by
    intro call isCall covers
    obtain ⟨pass, subjects, isCaller, listing, isListed⟩ := listed call isCall covers
    obtain ⟨names, removes, within⟩ := covers
    obtain ⟨others, same, avoided⟩ := unlisted call isCall pass names isCaller removes
    obtain rfl := (same subjects).1 ((listing subjects).2 rfl)
    rw [avoided subject isListed] at within
    cases within
  obtain ⟨catalog, shows⟩ := reached.backend.shows
  obtain ⟨catalog', shows', grows, spelled, stored⟩ := history.grows shows spared
  refine ⟨fun row isRow isSubject => ?_, fun mark isMark => ?_, fun version => ?_⟩
  · obtain ⟨version, kept, found, rfl⟩ := shows.mem_versions_iff.1 ⟨isRow, isSubject⟩
    exact (shows'.mem_versions_iff.2 ⟨version, kept, grows.rows version kept found,
      congrFun spelled kept⟩).1
  · have before := (shows.keep (.mark subject)).2 fun _ _ same => by cases same
    have after := (shows'.keep (.mark subject)).2 fun _ _ same => by cases same
    obtain ⟨mark', atMark, reaches⟩ := grows.mark mark (Except.ok.inj (before.symm.trans isMark))
    exact ⟨mark', after.trans (congrArg Except.ok atMark), reaches⟩
  · have counted := stored version
    rw [shows.stores_iff, shows'.stores_iff]
    simp only [Catalog.stored] at counted
    generalize log.countP (·.inserts subject version) = count at counted ⊢
    generalize (catalog.row? subject version).isSome = before at counted ⊢
    generalize (catalog'.row? subject version).isSome = after at counted ⊢
    cases before <;> cases after <;> simp at counted ⊢ <;> omega

/-- While a run has been told of one subject, another text is served for a stored version of it,
another subject is removed and a new version comes. -/
theorem versions_are_only_added_of_orderRequests :
    let db := Database.keeper.after (orderRequests.take 8) .fresh
    let requests : List Request := [.put { secondOrders with body := "other" },
      .remove (Names.ofList ["drafts"]), .put { secondOrders with version := 11 }]
    let after := Backend.durable (Database.keeper.after requests db)
    ∃ log runs, World.History ⟨.durable db, []⟩ log ⟨after, runs⟩ ∧
      (∀ call ∈ log, ¬call.Covers "orders") ∧ Appended "orders" (.durable db) log after ∧
      log.countP (·.inserts "orders" 2) = 0 ∧ log.countP (·.inserts "orders" 11) = 1 ∧
      after.Stores "orders" 2 ∧ ¬after.Has "drafts" .artifacts := by
  intro db requests after
  have opened : openDatabase (.standard "catalog.db") .available .blank = (.ok (), .fresh) :=
    openDatabase_blank (by decide +kernel)
  have reached : (Backend.durable db).Reached := by
    rw [← Backend.after_durable]
    exact (Backend.Reached.opened opened).after _
  have begun : World.History ⟨.durable db, []⟩ _ _ := .next .start (.begun .standard)
  have told := begun.next (@World.Step.answered _ _ [] _ _ _ [] _ _
    (.told (Attempt.answered ["orders"])) (.replied _))
  have served := told.next (.asked (.kept (.put { secondOrders with body := "other" })))
  have removed := served.next (.asked (.kept (.remove (Names.ofList ["drafts"]))))
  have history := removed.next (.asked (.kept (.put { secondOrders with version := 11 })))
  obtain ⟨log, runs, history, spared, old, new⟩ : ∃ log runs,
      World.History ⟨.durable db, []⟩ log ⟨after, runs⟩ ∧ (∀ call ∈ log, ¬call.Covers "orders") ∧
        log.countP (·.inserts "orders" 2) = 0 ∧ log.countP (·.inserts "orders" 11) = 1 := by
    refine ⟨_, _, history, ?_, ?_, ?_⟩
    · simp only [Exchange.calls, List.nil_append, List.cons_append, List.forall_mem_cons]
      refine ⟨?_, ?_, ?_, List.forall_mem_nil _⟩
      · rintro ⟨_, ⟨⟩, _⟩
      · rintro ⟨_, ⟨⟩, within⟩
        revert within
        decide +kernel
      · rintro ⟨_, ⟨⟩, _⟩
    · decide +kernel
    · decide +kernel
  obtain ⟨-, appended⟩ := versions_are_only_added ⟨_, [], reached, .start⟩ history
  refine ⟨log, runs, history, spared, appended "orders" fun call isCall covers =>
    absurd covers (spared call isCall), old, new, ?_, ?_⟩
  all_goals
    dsimp only [after, Backend.Has, Backend.Stores]
    decide +kernel

end SchemaLedger
