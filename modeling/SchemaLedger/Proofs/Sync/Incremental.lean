import Mathlib.Data.List.Chain
import SchemaLedger.Proofs.Sync.Holdings

namespace SchemaLedger

namespace Holdings

/-- From one registry to the next a subject may come or go; one that stays keeps all its versions
and gets new ones above its latest only. -/
def Grows (old new : Holdings) : Prop :=
  ∀ subject, new.Lists subject → ∀ latest registered, old.latest? subject = some (latest, registered) →
    ∀ version, version ≤ latest → new.find? subject version = old.find? subject version

/-- The rows of the catalog are those of the registry, no more and no fewer. -/
def Mirrored (held : Holdings) (catalog : Catalog) : Prop :=
  ∀ subject version, catalog.row? subject version = held.row? subject version

variable {old new : Holdings} {subject : String} {version other : UInt32}

theorem Grows.row? (grows : Grows old new) (listed : new.Lists subject) {row : Snapshot}
    (found : old.row? subject other = some row) (below : version ≤ other) :
    new.row? subject version = old.row? subject version := by
  obtain ⟨registered, held, -⟩ := Option.bind_eq_some_iff.1 found
  obtain ⟨⟨latest, last⟩, atLatest⟩ := Option.isSome_iff_exists.1
    (latest?_isSome (lists_of_find? held))
  have reaches := (find?_of_latest? atLatest).2.2 other (by rw [held]; rfl)
  rw [Holdings.row?, Holdings.row?,
    grows subject listed latest last atLatest version (UInt32.le_trans below reaches)]

theorem row?_eq_none {held : Holdings}
    (absent : ∀ row, held.row? subject version ≠ some row) : held.row? subject version = .none :=
  Option.eq_none_iff_forall_ne_some.2 absent

/-- Work on a listed subject, begun on the rows of an older registry, ends with those of the new
one. -/
theorem Grows.concluded (grows : Grows old new) (listed : new.Lists subject) {start catalog : Catalog}
    {policy : RetryPolicy} {told : List Exchange} {worked : Worked}
    (sound : (start.shelf subject).Sound subject)
    (mirrored : ∀ version, start.row? subject version = old.row? subject version)
    (course : Program.Course new.calm (Program.catchUp policy subject) start told (.done worked)
      catalog) :
    catalog.row? subject version = new.row? subject version := by
  have upToMark {mark : UInt32} (atMark : start.mark subject = some mark) (low : version ≤ mark) :
      start.row? subject version = new.row? subject version := by
    obtain ⟨row, stored⟩ := Catalog.row?_mark sound atMark
    rw [mirrored]
    exact (grows.row? listed ((mirrored mark).symm.trans stored) low).symm
  obtain ⟨latest, last, swept | ⟨unmoved, mark, atMark, current⟩⟩ := concluded_calm listed course
  · by_cases low : version.toNat < lowestSwept (start.mark subject) latest.version
    · rw [swept.others version (.inl low)]
      cases atMark : start.mark subject with
      | none =>
        have one : (Program.firstAbove .none).toNat = 1 := rfl
        rw [lowestSwept, atMark, one] at low
        rw [Catalog.row?_above sound (by simp [atMark]), eq_comm]
        refine row?_eq_none fun row found => ?_
        have positive := positive_of_row? found
        omega
      | some mark =>
        refine upToMark atMark (UInt32.le_iff_toNat_le.2 ?_)
        rw [lowestSwept, atMark, firstAbove_toNat_of_lt (swept.ahead mark atMark)] at low
        omega
    · have fresh : start.row? subject version = .none := by
        refine Catalog.row?_above sound fun mark atMark => UInt32.lt_iff_toNat_lt.2 ?_
        have lowest := swept.mark_lt_lowest atMark
        omega
      by_cases high : version.toNat < latest.version.toNat + 1
      · exact handled_calm course (swept.handled version (by omega) high) fresh
      · rw [swept.others version (.inr (by omega)), fresh, eq_comm]
        refine row?_eq_none fun row found => ?_
        have within := UInt32.le_iff_toNat_le.1 (row?_le_latest last found)
        omega
  · rw [unmoved.rows]
    by_cases low : version ≤ mark
    · exact upToMark atMark low
    · have high := UInt32.not_le.1 low
      rw [Catalog.row?_above sound fun number atNumber => by
        cases Option.some.inj (atMark.symm.trans atNumber)
        exact high, eq_comm]
      refine row?_eq_none fun row found => ?_
      exact low (UInt32.le_trans (row?_le_latest last found) current)

/-- A finished pass without faults brings the catalog from one registry to the next. -/
theorem Grows.mirrored (grows : Grows old new) {policy : RunPolicy} {start catalog : Catalog}
    {pass : Pass} (reach : Pass.Reach new.calm policy start pass catalog)
    (finished : pass.Finished) (sound : start.Sound) (mirrored : old.Mirrored start) :
    new.Mirrored catalog := by
  intro subject version
  rcases reach.finished finished with ⟨earlier, attempt, reply, unanswered⟩ |
    ⟨earlier, subjects, reply, worked, rest⟩
  · obtain ⟨subjects, same, -⟩ := reply
    exact absurd same (unanswered subjects)
  · obtain ⟨_, same, listed⟩ := reply
    cases same
    by_cases present : subject ∈ subjects
    · obtain ⟨task, member, rfl, worked, done⟩ := worked subject present
      obtain ⟨-, opened, own, course, before, after⟩ := reach.course member
      rw [done] at course
      have rows (number : UInt32) :
          opened.row? task.subject number = old.row? task.subject number := by
        rw [← mirrored, Catalog.row?, Catalog.row?, before]
      rw [Catalog.row?, ← after]
      exact grows.concluded ((listed task.subject).1 present)
        (before ▸ sound.shelves task.subject) rows course
    · rcases rest with empty | ⟨_, _, _, refused⟩
      · rw [Catalog.row?, empty subject present, row?_eq_none]
        · rfl
        · exact fun row found => present ((listed subject).2 (lists_of_row? found))
      · exact refused.elim

end Holdings

/-- Finished passes without faults, one over each of the registries in their order, on a catalog
that was empty at first. -/
inductive Follows : List Holdings → Catalog → Prop
  | start : Follows [] .empty
  | next {earlier catalog held policy pass catalog'} : Follows earlier catalog →
      Pass.Reach held.calm policy catalog pass catalog' → pass.Finished →
      Follows (earlier ++ [held]) catalog'

namespace Follows

variable {registries : List Holdings} {catalog : Catalog}

theorem sound (follows : Follows registries catalog) : catalog.Sound := by
  induction follows with
  | start => exact Catalog.sound_empty
  | next _ reach _ ih => exact reach.sound ih

/-- The catalog is settled by the last registry alone. -/
theorem mirrored (follows : Follows registries catalog)
    (grows : registries.IsChain Holdings.Grows) :
    (registries.getLast?.getD .blank).Mirrored catalog := by
  induction follows with
  | start => exact fun subject version => rfl
  | @next earlier catalog held policy pass catalog' previous reach finished ih =>
    obtain ⟨before, -, step⟩ := List.isChain_append.1 grows
    rw [List.getLast?_append, List.getLast?_singleton, Option.some_or, Option.getD_some]
    refine Holdings.Grows.mirrored ?_ reach finished previous.sound (ih before)
    cases last : earlier.getLast? with
    | none => exact fun subject _ latest registered none => nomatch none
    | some old => exact step old last held rfl

end Follows

/-- Runs a pass over each of the registries, one after the other. -/
def followEach (policy : RunPolicy) (registries : List Holdings) : Catalog :=
  registries.foldl (fun catalog held => steadyPass held.replies .none policy catalog) .empty

theorem follows_followEach (policy : RunPolicy) (registries : List Holdings) :
    Follows registries (followEach policy registries) := by
  induction registries using List.reverseRecOn with
  | nil => exact .start
  | append_singleton earlier held ih =>
    obtain ⟨pass, reach, finished⟩ := held.reach_replies policy (followEach policy earlier)
    rw [followEach, List.foldl_append]
    exact .next ih reach finished

/-- One pass over each of a growing sequence of registries, or a single one over the last of them:
versions and marks are the same, and the versions are those that the last registry has a text of. -/
theorem incremental_sync_eq_full_sync {earlier : List Holdings} {last : Holdings}
    (grows : (earlier ++ [last]).IsChain Holdings.Grows) :
    (∀ policy, Follows (earlier ++ [last]) (followEach policy (earlier ++ [last])) ∧
      Follows [last] (followEach policy [last])) ∧
    ∀ catalog fresh, Follows (earlier ++ [last]) catalog → Follows [last] fresh →
      ∀ subject, (catalog.shelf subject).versions = (fresh.shelf subject).versions ∧
        catalog.mark subject = fresh.mark subject ∧
        ∀ version, catalog.row? subject version =
          (last.find? subject version).bind (Snapshot.ofRegistered? subject version) := by
  refine ⟨fun policy => ⟨follows_followEach policy _, follows_followEach policy _⟩, ?_⟩
  intro catalog fresh follows single subject
  have mirrored := follows.mirrored grows
  have mirroredFresh := single.mirrored (List.isChain_singleton last)
  rw [List.getLast?_append, List.getLast?_singleton, Option.some_or, Option.getD_some] at mirrored
  have rows (version : UInt32) : catalog.row? subject version = fresh.row? subject version :=
    (mirrored subject version).trans (mirroredFresh subject version).symm
  refine ⟨Table.eq_of_find? rows, ?_, mirrored subject⟩
  exact Catalog.mark_eq_of_rows (follows.sound.shelves subject) (single.sound.shelves subject) rows

/-- A registry of one subject, at first with one version and later with a third one that has no
text. -/
def growingHoldings (grown : Bool) : Holdings :=
  .ofTable
    (.ofList [("orders", .ofList (
      (1, ⟨"orders", 1, ⟨some "{}", .avro, none⟩, none, none, none⟩) ::
        if grown then [(3, ⟨"orders", 3, ⟨none, .avro, none⟩, none, none, none⟩)] else []))])
    (by cases grown <;> decide)

theorem incremental_sync_of_growingHoldings :
    (followEach .standard [growingHoldings false, growingHoldings true]).mark "orders" = some 1 ∧
      (followEach .standard [growingHoldings true]).mark "orders" = some 1 := by
  have grows : ([growingHoldings false] ++ [growingHoldings true]).IsChain Holdings.Grows := by
    refine .cons_cons ?_ (.singleton _)
    intro subject listed latest registered last version low
    obtain ⟨versions, atSubject, last⟩ := Option.bind_eq_some_iff.1 last
    cases List.mem_singleton.1 (Table.find?_eq_some_iff.1 atSubject)
    cases last
    have few : version = 0 ∨ version = 1 := by
      have bound := UInt32.le_iff_toNat_le.1 low
      rw [← UInt32.toNat_inj, ← UInt32.toNat_inj]
      simp only [UInt32.reduceToNat] at bound ⊢
      omega
    rcases few with rfl | rfl <;> rfl
  have once : (followEach .standard [growingHoldings true]).mark "orders" = some 1 := by
    decide +kernel
  obtain ⟨runs, same⟩ := incremental_sync_eq_full_sync grows
  obtain ⟨each, fresh⟩ := runs .standard
  exact ⟨(same _ _ each fresh "orders").2.1.trans once, once⟩

end SchemaLedger
