import SchemaLedger.Proofs.Json.Content

namespace SchemaLedger

/-- Documents with the same strings, in any spelling, and the same members, in any order but for
those of one name. -/
inductive Document.Respelt : Document → Document → Prop
  | refl (document : Document) : Respelt document document
  | trans {a b c : Document} (first : Respelt a b) (second : Respelt b c) : Respelt a c
  | string {a b : Quoted} (same : a.text? = b.text?) : Respelt (.string a) (.string b)
  | item {before after : List Document} {a b : Document} (inner : Respelt a b) :
    Respelt (.array (before ++ a :: after)) (.array (before ++ b :: after))
  | member {before after : List (Quoted × Document)} {key key' : Quoted} {a b : Document}
    (same : key.text? = key'.text?) (inner : Respelt a b) :
    Respelt (.object (before ++ (key, a) :: after)) (.object (before ++ (key', b) :: after))
  | swap {before after : List (Quoted × Document)} {a b : Quoted × Document}
    (different : a.1.text? ≠ b.1.text?) :
    Respelt (.object (before ++ a :: b :: after)) (.object (before ++ b :: a :: after))

theorem Table.insert_comm {κ α : Type} [LT κ] [DecidableLT κ] [KeyOrder κ] [DecidableEq κ]
    (table : Table κ α) {a b : κ} (different : a ≠ b) (x y : α) :
    (table.insert a x).insert b y = (table.insert b y).insert a x := by
  refine eq_of_find? fun key => ?_
  by_cases atA : key = a
  · subst atA
    rw [find?_insert_of_ne _ _ different, find?_insert_self, find?_insert_self]
  · rw [find?_insert_of_ne _ x atA]
    by_cases atB : key = b
    · subst atB
      rw [find?_insert_self, find?_insert_self]
    · rw [find?_insert_of_ne _ _ atB, find?_insert_of_ne _ _ atB, find?_insert_of_ne _ _ atA]

namespace Document

variable {room : Nat}

theorem itemValues?_congr {a b : Document} (same : value? room a = value? room b)
    (before after : List Document) :
    itemValues? room (before ++ a :: after) = itemValues? room (before ++ b :: after) := by
  induction before with
  | nil => rw [List.nil_append, List.nil_append, itemValues?, itemValues?, same]
  | cons item rest ih => rw [List.cons_append, List.cons_append, itemValues?, itemValues?, ih]

theorem memberValues?_congr {key key' : Quoted} {a b : Document} (named : key.text? = key'.text?)
    (same : value? room a = value? room b) (before after : List (Quoted × Document)) :
    memberValues? room (before ++ (key, a) :: after) =
      memberValues? room (before ++ (key', b) :: after) := by
  induction before with
  | nil => rw [List.nil_append, List.nil_append, memberValues?, memberValues?, named, same]
  | cons member rest ih =>
    rw [List.cons_append, List.cons_append, memberValues?, memberValues?, ih]

theorem memberValues?_cons {member : Quoted × Document} {name : String} {value : Json}
    (named : member.1.text? = some name) (read : value? room member.2 = some value)
    (rest : List (Quoted × Document)) : memberValues? room (member :: rest) =
      (memberValues? room rest).map ((name, value) :: ·) := by
  rw [memberValues?, named, read, Option.map_eq_bind]
  rfl

/-- Whatever members came before, two neighbours of different names may change places. -/
theorem memberValues?_swap {a b : Quoted × Document} (different : a.1.text? ≠ b.1.text?)
    (before after : List (Quoted × Document)) (table : Table String Json) :
    (memberValues? room (before ++ a :: b :: after)).map
        (·.foldl (fun table e => table.insert e.1 e.2) table) =
      (memberValues? room (before ++ b :: a :: after)).map
        (·.foldl (fun table e => table.insert e.1 e.2) table) := by
  -- The members in front only change the table that the two neighbours are put into.
  induction before generalizing table with
  | nil =>
    simp only [List.nil_append, memberValues?]
    cases nameA : a.1.text? with
    | none => cases b.1.text? <;> cases value? room b.2 <;> rfl
    | some name =>
      cases nameB : b.1.text? with
      | none => cases value? room a.2 <;> rfl
      | some name' =>
        have apart : name ≠ name' := by rwa [nameA, nameB, ne_eq, Option.some.injEq] at different
        cases value? room a.2 <;> cases value? room b.2 <;> cases memberValues? room after <;>
          first | rfl | simp [Table.insert_comm table apart]
  | cons member rest ih =>
    rw [List.cons_append, List.cons_append]
    cases named : member.1.text? with
    | none => simp [memberValues?, named]
    | some name =>
      cases read : value? room member.2 with
      | none => simp [memberValues?, named, read]
      | some value =>
        rw [memberValues?_cons named read, memberValues?_cons named read, Option.map_map,
          Option.map_map]
        exact ih (table.insert name value)

/-- Renderings of one document are read as the same value, or none of them is. -/
theorem Respelt.value?_eq {a b : Document} (same : a.Respelt b) (room : Nat) :
    value? room a = value? room b := by
  induction same generalizing room with
  | refl _ => rfl
  | trans _ _ first second => exact (first room).trans (second room)
  | string same => rw [value?, value?, same]
  | item _ ih =>
    cases room with
    | zero => rfl
    | succ room => rw [value?, value?, itemValues?_congr (ih room)]
  | member same _ ih =>
    cases room with
    | zero => rfl
    | succ room => rw [value?, value?, memberValues?_congr same (ih room)]
  | @swap before after _ _ different =>
    cases room with
    | zero => rfl
    | succ room =>
      have tables := @memberValues?_swap room _ _ different before after .empty
      have values := congrArg (Option.map fun table => Json.object table.entries) tables
      rwa [Option.map_map, Option.map_map] at values

theorem Respelt.symm {a b : Document} (same : a.Respelt b) : b.Respelt a := by
  induction same with
  | refl document => exact .refl document
  | trans _ _ first second => exact .trans second first
  | string same => exact .string same.symm
  | item _ ih => exact .item ih
  | member same _ ih => exact .member same.symm ih
  | swap different => exact .swap different.symm

/-- Items are respelt one by one, behind those that are done. -/
theorem Respelt.items {α : Type} {a b : α → Document} {list : List α}
    (each : ∀ i ∈ list, (a i).Respelt (b i)) (done : List Document) :
    Respelt (.array (done ++ list.map a)) (.array (done ++ list.map b)) := by
  induction list generalizing done with
  | nil => exact .refl _
  | cons i rest ih =>
    obtain ⟨first, later⟩ := List.forall_mem_cons.1 each
    have further := ih later (done ++ [b i])
    simp only [List.append_assoc, List.singleton_append] at further
    exact .trans (.item first) further

theorem Respelt.members {α : Type} {key key' : α → Quoted} {a b : α → Document} {list : List α}
    (named : ∀ m ∈ list, (key m).text? = (key' m).text?) (each : ∀ m ∈ list, (a m).Respelt (b m))
    (done : List (Quoted × Document)) : Respelt (.object (done ++ list.map fun m => (key m, a m)))
      (.object (done ++ list.map fun m => (key' m, b m))) := by
  induction list generalizing done with
  | nil => exact .refl _
  | cons m rest ih =>
    obtain ⟨name, others⟩ := List.forall_mem_cons.1 named
    obtain ⟨first, later⟩ := List.forall_mem_cons.1 each
    have further := ih others later (done ++ [(key' m, b m)])
    simp only [List.append_assoc, List.singleton_append] at further
    exact .trans (.member name first) further

/-- Members whose names all differ stand in any order. -/
theorem Respelt.perm {a b : List (Quoted × Document)} (shuffled : a.Perm b)
    (distinct : (a.map (·.1.text?)).Nodup) (done : List (Quoted × Document)) :
    Respelt (.object (done ++ a)) (.object (done ++ b)) := by
  induction shuffled generalizing done with
  | nil => exact .refl _
  | cons member _ ih =>
    have further := ih (List.nodup_cons.1 distinct).2 (done ++ [member])
    simpa only [List.append_assoc, List.singleton_append] using further
  | swap x y rest =>
    have different : y.1.text? ≠ x.1.text? := fun same =>
      (List.nodup_cons.1 distinct).1 (List.mem_cons.2 (.inl same))
    exact .swap different
  | trans first _ ih ih' =>
    exact .trans (ih distinct done) (ih' ((first.map _).nodup_iff.1 distinct) done)

end Document

namespace Content

/-- Keys are distinct in each object. -/
inductive Distinct : Content → Prop
  | null : Distinct .null
  | bool (value : Bool) : Distinct (.bool value)
  | number (value : Numeral) : Distinct (.number value)
  | string (value : String) : Distinct (.string value)
  | array {items : List Content} (each : ∀ item ∈ items, Distinct item) : Distinct (.array items)
  | object {members : List (String × Content)} (distinct : (members.map Prod.fst).Nodup)
    (each : ∀ m ∈ members, Distinct m.2) : Distinct (.object members)

/-- All documents that say the same are renderings of one of them. -/
theorem Distinct.respelt {content : Content} (distinct : content.Distinct) :
    ∃ plain : Document, ∀ document, content.Spelled document → document.Respelt plain := by
  induction distinct with
  | null =>
    refine ⟨.null, fun document spelled => ?_⟩
    cases spelled
    exact .refl _
  | bool value =>
    refine ⟨.bool value, fun document spelled => ?_⟩
    cases spelled
    exact .refl _
  | number value =>
    refine ⟨.number value, fun document spelled => ?_⟩
    cases spelled
    exact .refl _
  | string value =>
    refine ⟨.string (Quoted.ofText value), fun document spelled => ?_⟩
    cases spelled with | string text =>
    exact .string (text.trans (Quoted.text?_ofText value).symm)
  | @array items _ ih =>
    choose! plain respelt using ih
    refine ⟨.array (items.map plain), fun document spelled => ?_⟩
    cases spelled with | @array parts each =>
    have same : ∀ part ∈ parts, part.2.Respelt (plain part.1) := fun part isPart =>
      respelt part.1 (List.mem_map_of_mem isPart) part.2 (each part isPart)
    rw [List.map_map]
    exact Document.Respelt.items same []
  | @object members distinct _ ih =>
    choose! plain respelt using ih
    refine ⟨.object (members.map fun m => (Quoted.ofText m.1, plain m)), fun document spelled => ?_⟩
    cases spelled with | @object _ parts named each shuffled =>
    have names : ∀ part ∈ parts, part.2.1.text? = (Quoted.ofText part.1.1).text? :=
      fun part isPart => (named part isPart).trans (Quoted.text?_ofText part.1.1).symm
    have same : ∀ part ∈ parts, part.2.2.Respelt (plain part.1) := fun part isPart =>
      respelt part.1 (shuffled.mem_iff.2 (List.mem_map_of_mem isPart)) part.2.2 (each part isPart)
    have aligned := Document.Respelt.members names same []
    have order := (shuffled.map fun m => (Quoted.ofText m.1, plain m)).symm
    rw [List.map_map] at order
    have apart : ((parts.map fun part => (Quoted.ofText part.1.1, plain part.1)).map
        (·.1.text?)).Nodup := by
      have keys := (shuffled.map Prod.fst).nodup_iff.1 distinct
      simp only [List.map_map, Function.comp_def, Quoted.text?_ofText] at keys ⊢
      exact List.pairwise_map.2 ((List.pairwise_map.1 keys).imp fun different same =>
        different (Option.some.inj same))
    exact .trans aligned (Document.Respelt.perm order apart [])

end Content

end SchemaLedger
