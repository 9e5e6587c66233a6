import SchemaLedger.Proofs.Sync.Lookup
import SchemaLedger.Sync.Pass

namespace SchemaLedger

/-- The catalog was told to remove the subject, and did. -/
def Removed (subject : String) (told : List Exchange) : Prop :=
  ∃ names rows, Answered told (.remove names) (.ok rows) ∧ Table.contains names subject = true

theorem Removed.append {subject : String} {told : List Exchange} (removed : Removed subject told)
    (later : List Exchange) : Removed subject (told ++ later) := by
  obtain ⟨names, rows, answered, within⟩ := removed
  exact ⟨names, rows, answered.append later, within⟩

/-- A moment of an opening that began in the catalog `start`: shelves are removed or untouched, and
the registry has not given two lists. -/
structure Cleared (start : Catalog) (told : List Exchange) (catalog : Catalog) : Prop where
  removed : ∀ subject, Removed subject told → catalog.shelf subject = Shelf.empty ∧
    ∃ subjects, Heard told .subjects (.answered subjects) ∧ subject ∉ subjects
  others : ∀ subject, ¬Removed subject told → catalog.shelf subject = start.shelf subject
  once : ∀ subjects others, Heard told .subjects (.answered subjects) →
    Heard told .subjects (.answered others) → subjects = others

/-- The end of an opening. Either the registry gave no list and the pass is over, or the work is
about the listed subjects, and no other subject is left in the catalog unless a request failed. -/
def Opened (result : Option Names × Summary) (told : List Exchange) (catalog : Catalog) : Prop :=
  match result.1 with
  | none => ∃ attempt, Heard told .subjects attempt ∧ ∀ subjects, attempt ≠ .answered subjects
  | some listed => ∃ subjects, Heard told .subjects (.answered subjects) ∧
    listed = Names.ofList subjects ∧
    ((∀ subject, subject ∉ subjects → catalog.shelf subject = Shelf.empty) ∨
      ∃ request error, Answered told request (.error error))

theorem cleared_nil {start : Catalog} : Cleared start [] start :=
  ⟨fun _ ⟨_, _, answered, _⟩ => absurd answered not_answered_nil, fun _ _ => rfl,
    fun _ _ heard => absurd heard not_heard_nil⟩

/-- Exchanges without a removal and without another list. -/
theorem Cleared.append {start catalog : Catalog} {told later : List Exchange}
    (cleared : Cleared start told catalog)
    (unremoved : ∀ names rows, ¬Answered later (.remove names) (.ok rows))
    (unheard : ∀ subjects, ¬Heard later .subjects (.answered subjects)) :
    Cleared start (told ++ later) catalog where
  removed := by
    rintro subject ⟨names, rows, answered, within⟩
    have old := (answered_append.1 answered).resolve_right (unremoved names rows)
    obtain ⟨empty, subjects, heard, unlisted⟩ := cleared.removed subject ⟨names, rows, old, within⟩
    exact ⟨empty, subjects, heard.append later, unlisted⟩
  others subject untouched :=
    cleared.others subject fun removed => untouched (removed.append later)
  once subjects others first second := cleared.once subjects others
    ((heard_append.1 first).resolve_right (unheard subjects))
    ((heard_append.1 second).resolve_right (unheard others))

theorem Cleared.report {start catalog : Catalog} {told : List Exchange}
    (cleared : Cleared start told catalog) (event : Event) :
    Cleared start (told ++ [⟨.report event, ()⟩]) catalog :=
  cleared.append (fun _ _ => not_answered_report) fun _ => not_heard_report

/-- A refused request removes nothing. -/
theorem Cleared.refused {start catalog : Catalog} {told : List Exchange}
    (cleared : Cleared start told catalog) (request : Request) (error : StoreError) :
    Cleared start (told ++ [⟨.store request, .error error⟩]) catalog :=
  cleared.append (fun _ _ member => by cases List.mem_singleton.1 member)
    fun _ => not_heard_store

/-- A removal of subjects that are not listed. -/
theorem Cleared.remove {start catalog : Catalog} {told : List Exchange} {names : Names}
    {subjects : List String} (cleared : Cleared start told catalog)
    (heard : Heard told .subjects (.answered subjects))
    (unlisted : ∀ subject, Table.contains names subject = true → subject ∉ subjects)
    (rows : RowCounts) :
    Cleared start (told ++ [⟨.store (.remove names), .ok rows⟩]) (catalog.remove names).2 where
  removed := by
    rintro subject ⟨others, counts, answered, within⟩
    rw [Catalog.shelf_remove]
    rcases answered_append.1 answered with old | new
    · obtain ⟨empty, before, heardBefore, missing⟩ :=
        cleared.removed subject ⟨others, counts, old, within⟩
      refine ⟨?_, before, heardBefore.append _, missing⟩
      split
      · rfl
      · exact empty
    · cases List.mem_singleton.1 new
      exact ⟨if_pos within, subjects, heard.append _, unlisted subject within⟩
  once first second heardFirst heardSecond := cleared.once first second
    ((heard_append.1 heardFirst).resolve_right not_heard_store)
    ((heard_append.1 heardSecond).resolve_right not_heard_store)
  others subject untouched := by
    have kept : Table.contains names subject = false := by
      refine Bool.eq_false_iff.2 fun within => untouched ⟨names, rows, ?_, within⟩
      exact answered_last told (.remove names) _
    rw [Catalog.shelf_remove, kept]
    exact cleared.others subject fun removed => untouched (removed.append _)

namespace Catalog

variable {catalog : Catalog} {subject : String} {subjects : List String}

theorem shelf_of_unknown (unknown : Table.contains catalog.known subject = false) :
    catalog.shelf subject = Shelf.empty := by
  cases atSubject : catalog.shelves.find? subject with
  | none => simp [Catalog.shelf, atSubject]
  | some shelf =>
    have present : subject ∈ catalog.shelves.keys := by
      rw [Table.mem_keys_iff, atSubject]
      rfl
    have known := Names.contains_ofList.2 present
    rw [Catalog.known] at unknown
    rw [known] at unknown
    cases unknown

theorem unlisted_of_stale
    (isStale : Table.contains (catalog.known.without (Names.ofList subjects)) subject = true) :
    subject ∉ subjects := by
  intro listed
  have absent := (Names.contains_without.1 isStale).2
  rw [Names.contains_ofList.2 listed] at absent
  cases absent

theorem shelf_of_fresh (unlisted : subject ∉ subjects)
    (fresh : Table.contains (catalog.known.without (Names.ofList subjects)) subject = false) :
    catalog.shelf subject = Shelf.empty := by
  refine shelf_of_unknown (Bool.eq_false_iff.2 fun known => ?_)
  have absent : Table.contains (Names.ofList subjects) subject = false :=
    Bool.eq_false_iff.2 fun listed => unlisted (Names.contains_ofList.1 listed)
  have isStale := Names.contains_without.2 ⟨known, absent⟩
  rw [fresh] at isStale
  cases isStale

end Catalog

namespace Program

variable {around : Surroundings} {policy : RetryPolicy} {start catalog : Catalog}
  {told : List Exchange}

theorem keeps_listing :
    (listing policy).Keeps around (Cleared start)
      (fun found told' catalog' => Cleared start told' catalog' ∧ match found with
        | .found subjects => Heard told' .subjects (.answered subjects)
        | _ => ∃ attempt, Heard told' .subjects attempt ∧ ∀ subjects, attempt ≠ .answered subjects)
      [] start := by
  refine keeps_bind.2 ?_
  intro attempt catalog' gives
  cases gives
  have heard : Heard ([] ++ [⟨.query policy.listTimeout .subjects, attempt⟩]) .subjects attempt :=
    heard_singleton.2 rfl
  have after : Cleared start ([] ++ [⟨.query policy.listTimeout .subjects, attempt⟩]) start := by
    refine ⟨?_, fun _ _ => rfl, ?_⟩
    · rintro subject ⟨names, rows, answered, -⟩
      cases List.mem_singleton.1 answered
    · intro subjects others first second
      have same := (heard_singleton.1 first).trans (heard_singleton.1 second).symm
      cases same
      rfl
  refine ⟨after, ?_⟩
  cases attempt with
  | answered subjects => exact ⟨after, heard⟩
  | timedOut | failed error =>
    refine keeps_bind.2 ((keeps_report (after.report _)).mono ?_)
    rintro _ told' catalog' ⟨rfl, rfl⟩
    exact ⟨after.report _, _, heard.append _, nofun⟩

theorem keeps_stale (listed : Names) (cleared : Cleared start told catalog) :
    (stale listed).Keeps around (Cleared start)
      (fun found told' catalog' => catalog' = catalog ∧ Cleared start told' catalog ∧
        (∃ later, told' = told ++ later) ∧ match found with
          | .error error => Answered told' .known (.error error)
          | .ok stale => stale = catalog.known.without listed)
      told catalog := by
  refine keeps_bind.2 ?_
  intro answer catalog' gives
  cases gives with
  | @refused _ error =>
    have after := cleared.refused .known error
    exact ⟨after, rfl, after, ⟨_, rfl⟩, answered_last told .known _⟩
  | accepted =>
    have after : Cleared start (told ++ [⟨.store .known, .ok catalog.known⟩]) catalog :=
      cleared.append (fun _ _ member => by cases List.mem_singleton.1 member)
        fun _ => not_heard_store
    exact ⟨after, rfl, after, ⟨_, rfl⟩, rfl⟩

theorem keeps_reconcile {subjects : List String} (cleared : Cleared start told catalog)
    (heard : Heard told .subjects (.answered subjects)) :
    (reconcile (Names.ofList subjects)).Keeps around (Cleared start)
      (fun _ told' catalog' => Cleared start told' catalog' ∧
        Heard told' .subjects (.answered subjects) ∧
        ((∀ subject, subject ∉ subjects → catalog'.shelf subject = Shelf.empty) ∨
          ∃ request error, Answered told' request (.error error)))
      told catalog := by
  refine keeps_bind.2 ((keeps_stale _ cleared).mono ?_)
  rintro found told' catalog' ⟨same, cleared, ⟨first, rfl⟩, agrees⟩
  subst catalog'
  replace heard := heard.append first
  cases found with
  | error error => exact ⟨cleared, heard, .inr ⟨_, _, agrees⟩⟩
  | ok stale =>
    have unlisted (subject : String) (isStale : Table.contains stale subject = true) :
        subject ∉ subjects := Catalog.unlisted_of_stale (agrees ▸ isStale)
    have standing (subject : String) (missing : subject ∉ subjects)
        (fresh : Table.contains stale subject = false) : catalog.shelf subject = Shelf.empty :=
      Catalog.shelf_of_fresh missing (agrees ▸ fresh)
    clear agrees
    dsimp only
    split
    · rename_i nothing
      refine ⟨cleared, heard, .inl fun subject missing => standing subject missing ?_⟩
      have noEntries : stale.entries = [] := List.length_eq_zero_iff.1 nothing
      simp [Table.contains, Table.find?, Table.lookup, noEntries]
    · refine keeps_bind.2 ?_
      intro answer catalog' gives
      replace heard := heard.append [⟨.store (.count stale), answer⟩]
      cases gives with
      | @refused _ error =>
        have after := cleared.refused (.count stale) error
        exact ⟨after, after, heard, .inr ⟨_, _, answered_last _ (.count stale) _⟩⟩
      | accepted =>
        have counted : Cleared start (told ++ first ++
            [⟨.store (.count stale), .ok (catalog.count stale)⟩]) catalog :=
          cleared.append (fun _ _ member => by cases List.mem_singleton.1 member)
            fun _ => not_heard_store
        refine ⟨counted, ?_⟩
        refine keeps_bind.2 ((keeps_report (counted.report _)).mono ?_)
        rintro _ asked catalog' ⟨grown, same⟩
        subst catalog'
        have announced : Cleared start asked catalog := grown ▸ counted.report _
        have heardStill : Heard asked .subjects (.answered subjects) := grown ▸ heard.append _
        refine keeps_bind.2 ?_
        intro answer catalog' gives
        cases gives with
        | @refused _ error =>
          have after := announced.refused (.remove stale) error
          exact ⟨after, after, heardStill.append _, .inr ⟨_, _, answered_last _ (.remove stale) _⟩⟩
        | accepted =>
          have removed := announced.remove heardStill unlisted (catalog.count stale)
          refine ⟨removed, ?_⟩
          refine keeps_bind.2 ((keeps_report (removed.report _)).mono ?_)
          rintro _ told' catalog' ⟨rfl, rfl⟩
          refine ⟨removed.report _, (heardStill.append _).append _, .inl fun subject missing => ?_⟩
          rw [Catalog.shelf_remove]
          split
          · rfl
          · rename_i fresh
            exact standing subject missing (Bool.eq_false_iff.2 fresh)

theorem keeps_opening :
    (opening policy).Keeps around (Cleared start)
      (fun result told catalog => Cleared start told catalog ∧ Opened result told catalog)
      [] start := by
  refine keeps_bind.2 (keeps_listing.mono ?_)
  rintro found told catalog ⟨cleared, agrees⟩
  cases found with
  | notFound | unavailable =>
    refine keeps_bind.2 ((keeps_report (cleared.report _)).mono ?_)
    rintro _ told' catalog' ⟨rfl, rfl⟩
    obtain ⟨attempt, heard, unanswered⟩ := agrees
    exact ⟨cleared.report _, attempt, heard.append _, unanswered⟩
  | found subjects =>
    refine keeps_bind.2 ((keeps_reconcile cleared agrees).mono ?_)
    rintro removal told' catalog' ⟨cleared, heard, rest⟩
    cases removal with
    | ok removal => exact ⟨cleared, subjects, heard, rfl, rest⟩
    | error error =>
      refine keeps_bind.2 ((keeps_report (cleared.report _)).mono ?_)
      rintro _ told' catalog' ⟨rfl, rfl⟩
      refine ⟨cleared.report _, subjects, heard.append _, rfl, rest.imp_right ?_⟩
      rintro ⟨request, error, answered⟩
      exact ⟨request, error, answered.append _⟩

end Program

end SchemaLedger
