import SchemaLedger.Durable.Opening
import SchemaLedger.Proofs.Durable.Writing

namespace SchemaLedger

/-- The answers to requests made one after the other. -/
def Keeper.answers {σ : Type} (keeper : Keeper σ) :
    List Request → σ → List ((request : Request) × Except StoreError request.Answer)
  | [], _ => []
  | request :: rest, state =>
    ⟨request, (keeper request state).1⟩ :: keeper.answers rest (keeper request state).2

/-- What a request brings can be read back from the columns that hold it as JSON text. Artifacts and
remarks are never read back. -/
def Request.Storable : Request → Prop
  | .put row => row.Storable
  | _ => True

theorem Catalog.Storable.perform {catalog : Catalog} {request : Request}
    (storable : catalog.Storable) (isStorable : request.Storable) :
    (catalog.perform request).2.Storable := by
  intro subject version row stored
  rcases Catalog.row?_perform_cases stored with before | rfl
  · exact storable subject version row before
  · exact isStorable

/-- A database with all its tables and no rows. -/
def Database.fresh : Database :=
  ⟨.held [.integer layoutVersion], .held [], .held [], .held [], .held []⟩

theorem openDatabase_blank {settings : DurableSettings} {place : Place}
    (usable : settings.fault? place = none) :
    openDatabase settings place .blank = (.ok (), .fresh) := by
  rw [openDatabase, openStepwise, usable]
  rfl

theorem fresh_of_opened {settings : DurableSettings} {place : Place} {db : Database}
    (opened : openDatabase settings place .blank = (.ok (), db)) : db = .fresh := by
  cases fault : settings.fault? place with
  | none =>
    rw [openDatabase_blank fault] at opened
    exact (Prod.mk.inj opened).2.symm
  | some error =>
    rw [openDatabase, openStepwise, fault] at opened
    cases (Prod.mk.inj opened).1

namespace Database

variable {db : Database} {catalog : Catalog}

theorem fresh_houses : Database.fresh.Houses .empty where
  sound := Catalog.sound_empty
  entries := ⟨rfl, .refl _⟩
  versions := ⟨rfl, .refl _⟩
  artifacts := ⟨rfl, .refl _⟩
  remarks := ⟨rfl, .refl _⟩

theorem fresh_mirrors : Database.fresh.Mirrors .empty where
  toHouses := fresh_houses
  storable _ _ _ none := nomatch none

/-- To remove nothing changes nothing. -/
theorem Houses.remove_nothing (houses : db.Houses catalog) {names : Names}
    (nothing : names.size = 0) : (catalog.remove names).1 = .zero ∧
      db.Houses (catalog.remove names).2 := by
  rw [Names.eq_empty nothing, Catalog.remove_empty]
  exact ⟨rfl, houses⟩

/-- Every request leaves a database that houses what the catalog has become. The answers are alike,
but for a row that cannot be read back. -/
theorem Houses.perform (houses : db.Houses catalog) (request : Request) :
    (db.perform (fun _ => false) request).2.Houses (catalog.perform request).2 ∧
      ((∀ subject version, request ≠ .snapshot subject version) →
        (db.perform (fun _ => false) request).1 = .ok (catalog.perform request).1) := by
  cases request with
  | mark subject => exact ⟨houses, fun _ => houses.mark_eq subject⟩
  | put snapshot =>
    obtain ⟨after, does, housed⟩ := houses.put snapshot
    rw [Database.perform, does.transact]
    exact ⟨housed, fun _ => rfl⟩
  | update subject change =>
    obtain ⟨after, does, housed⟩ := houses.update subject change
    rw [Database.perform, does.transact]
    exact ⟨housed, fun _ => rfl⟩
  | known => exact ⟨houses, fun _ => houses.known_eq⟩
  | count names =>
    have whole := flatten_piecesOf subjectsAtOnce names.toList
    have does := Script.does_count houses.ready (whole ▸ names.toList_nodup)
    rw [whole, houses.countOf_eq] at does
    rw [Database.perform, does.transact]
    exact ⟨houses, fun _ => rfl⟩
  | remove names =>
    rw [Database.perform]
    split
    · rename_i nothing
      obtain ⟨zero, housed⟩ := houses.remove_nothing nothing
      exact ⟨housed, fun _ => congrArg Except.ok zero.symm⟩
    · obtain ⟨after, does, housed⟩ :=
        houses.remove names (flatten_piecesOf subjectsAtOnce names.toList)
      rw [does.transact]
      exact ⟨housed, fun _ => rfl⟩
  | entry subject => exact ⟨houses, fun _ => houses.entry_eq subject⟩
  | entries => exact ⟨houses, fun _ => houses.allEntries_eq⟩
  | snapshot subject version => exact ⟨houses, fun other => absurd rfl (other subject version)⟩
  | versions subject => exact ⟨houses, fun _ => houses.versionNumbers_eq subject⟩
  | attach artifact =>
    obtain ⟨after, does, housed⟩ := houses.attach artifact
    rw [Database.perform, does.transact]
    exact ⟨housed, fun _ => rfl⟩
  | annotate remark =>
    obtain ⟨after, does, housed⟩ := houses.annotate remark
    rw [Database.perform, does.transact]
    exact ⟨housed, fun _ => rfl⟩

/-- Every request is answered alike and keeps up the likeness. -/
theorem Mirrors.perform (mirrors : db.Mirrors catalog) {request : Request}
    (storable : request.Storable) :
    (db.perform (fun _ => false) request).1 = .ok (catalog.perform request).1 ∧
      (db.perform (fun _ => false) request).2.Mirrors (catalog.perform request).2 := by
  obtain ⟨housed, answered⟩ := mirrors.toHouses.perform request
  refine ⟨?_, housed, mirrors.storable.perform storable⟩
  by_cases reads : ∃ subject version, request = .snapshot subject version
  · obtain ⟨subject, version, rfl⟩ := reads
    exact mirrors.snapshot_eq subject version
  · exact answered fun subject version same => reads ⟨subject, version, same⟩

theorem Mirrors.answers (mirrors : db.Mirrors catalog) {requests : List Request}
    (storable : ∀ request ∈ requests, request.Storable) :
    Database.keeper.answers requests db = Catalog.keeper.answers requests catalog := by
  induction requests generalizing db catalog with
  | nil => rfl
  | cons request rest ih =>
    obtain ⟨first, later⟩ := List.forall_mem_cons.1 storable
    obtain ⟨answer, after⟩ := mirrors.perform first
    have answered : (Database.keeper request db).1 = (Catalog.keeper request catalog).1 :=
      congrArg (Except.mapError DurableError.toStoreError) answer
    rw [Keeper.answers, Keeper.answers, answered]
    exact congrArg _ (ih after later)

end Database

/-- A newly opened database answers every row of requests as an empty catalog in memory does, in
every answer and in the order of every list. -/
theorem database_answers_like_catalog {settings : DurableSettings} {place : Place} {db : Database}
    (opened : openDatabase settings place .blank = (.ok (), db)) {requests : List Request}
    (storable : ∀ request ∈ requests, request.Storable) :
    Database.keeper.answers requests db = Catalog.keeper.answers requests .empty := by
  rw [fresh_of_opened opened]
  exact Database.fresh_mirrors.answers storable

/-- One half, which is a double and no integer. -/
def oneHalf : Number :=
  .double ⟨false, 4503599627370496, 1021, by decide, by decide, .inr (by decide)⟩

/-- A value with values of every kind in it. -/
def ownerNotes : Json :=
  .object [("owner", .string "billing \"team\"\n"),
    ("tags", .array [.null, .bool true, .number (.integer (-7) (by decide) (by decide)),
      .number oneHalf])]

theorem ownerNotes_fits : ownerNotes.Fits Json.nestingLimit := by
  have tags : ∀ item ∈ [Json.null, .bool true, .number (.integer (-7) (by decide) (by decide)),
      .number oneHalf], item.Fits 125 := by
    simp only [List.forall_mem_cons]
    exact ⟨.null, .bool true, .number (Number.readsBack_integer _ _),
      .number (by decide +kernel), List.forall_mem_nil _⟩
  refine .object (by decide +kernel) ?_
  simp only [List.forall_mem_cons]
  exact ⟨.string _, .array tags, List.forall_mem_nil _⟩

/-- A version with JSON in nearly every column. -/
def secondOrders : Snapshot where
  subject := "orders"
  version := 2
  dialect := .avro
  registryId := some 41
  body := "body"
  hash := "hash"
  references := some [⟨"base", "orders.base", 3⟩]
  ruleSet := some .null
  metadata := some ownerNotes
  fields := some ⟨[⟨"email", .string "string", true⟩]⟩
  lintReport := none

theorem secondOrders_storable : secondOrders.Storable where
  ruleSet := by
    rintro _ ⟨⟩
    exact .null
  metadata := by
    rintro _ ⟨⟩
    exact ownerNotes_fits
  fields := by
    rintro _ ⟨⟩ note member
    cases List.mem_singleton.1 member
    exact .string _
  lintReport := by rintro _ ⟨⟩

/-- Writes of all kinds, reads of all kinds and a removal. -/
def orderRequests : List Request :=
  [.put secondOrders, .put { secondOrders with version := 10, hash := "other" }, .put secondOrders,
    .update "orders" ⟨some "FULL", none, some "prod"⟩, .attach ⟨"drafts", none, "diff", ownerNotes⟩,
    .annotate ⟨"orders", "note", ownerNotes⟩, .known, .entries, .entry "orders", .versions "orders",
    .snapshot "orders" 2, .count (Names.ofList ["orders", "drafts"]),
    .remove (Names.ofList ["orders"]), .mark "orders", .known]

theorem database_answers_like_catalog_of_orderRequests :
    openDatabase (.standard "catalog.db") .available .blank = (.ok (), .fresh) ∧
      (∀ request ∈ orderRequests, request.Storable) ∧
      Database.keeper.answers orderRequests .fresh = Catalog.keeper.answers orderRequests .empty := by
  have opened : openDatabase (.standard "catalog.db") .available .blank = (.ok (), .fresh) :=
    openDatabase_blank (by decide +kernel)
  have storable : ∀ request ∈ orderRequests, request.Storable := by
    have later : Request.Storable (.put { secondOrders with version := 10, hash := "other" }) :=
      { secondOrders_storable with }
    simp only [orderRequests, List.forall_mem_cons]
    exact ⟨secondOrders_storable, later, secondOrders_storable, trivial, trivial, trivial, trivial,
      trivial, trivial, trivial, trivial, trivial, trivial, trivial, trivial, List.forall_mem_nil _⟩
  exact ⟨opened, storable, database_answers_like_catalog opened storable⟩

end SchemaLedger
