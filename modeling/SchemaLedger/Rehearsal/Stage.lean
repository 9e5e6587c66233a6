import SchemaLedger.Rehearsal.Registry
import SchemaLedger.Sync.Program

namespace SchemaLedger

/-- The requests that can be refused, by the names that rules call them. -/
def Request.ruleName? : Request → Option String
  | .mark _ => some "latest_version"
  | .put _ => some "upsert_version"
  | .update _ _ => some "update_subject_meta"
  | .known => some "known_subjects"
  | .count _ => some "count_rows"
  | .remove _ => some "remove_subjects"
  | _ => none

/-- The names under which a request about one subject can be singled out. -/
def Request.ruleTargets : Request → List String
  | .mark subject => [subject]
  | .put row => [row.subject, row.subject ++ "@" ++ toString row.version.toNat]
  | .update subject _ => [subject]
  | _ => []

inductive Refusal
  | every
  | only (targets : List String)
deriving Repr

/-- The rule that keeps a request from being carried out, if one does. -/
def refusedBy? (rules : Table String Refusal) (request : Request) : Option String := do
  let name ← request.ruleName?
  match ← rules.find? name with
  | .every => some name
  | .only targets => if request.ruleTargets.any (· ∈ targets) then some name else none

structure Stage (σ : Type) where
  registry : ScriptedRegistry
  catalog : σ
  rules : Table String Refusal
  calls : List (Nat × Query)
  events : List Event

namespace Stage

variable {σ : Type}

def ofCatalog (catalog : σ) : Stage σ := ⟨.empty, catalog, .empty, [], []⟩

/-- A refused request does not reach the catalog. -/
def keep (keeper : Keeper σ) (request : Request) (stage : Stage σ) :
    Except StoreError request.Answer × Stage σ :=
  match refusedBy? stage.rules request with
  | some name => (.error (.store (name ++ " refused")), stage)
  | none =>
    let (answer, catalog) := keeper request stage.catalog
    (answer, { stage with catalog := catalog })

/-- A call that is answered at the very moment of its deadline is answered in time. -/
def call (limit : Span) (query : Query) (now : Nat) (stage : Stage σ) :
    Attempt query.Reply × Nat × Stage σ :=
  let (cue, registry) := stage.registry.nextCue query
  let stage := { stage with registry := registry, calls := (now, query) :: stage.calls }
  let wait := (cue.map (·.delayMillis * nanosInMilli)).getD 0
  if cue.any (·.hangs) || limit.nanos < wait then (.timedOut, now + limit.nanos, stage)
  else match cue.bind (·.error) with
    | some error => (.failed error, now + wait, stage)
    | none => match stage.registry.answer query with
      | .ok reply => (.answered reply, now + wait, stage)
      | .error error => (.failed error, now + wait, stage)

def host (keeper : Keeper σ) : Host (Stage σ)
  | .query limit query, now, stage => stage.call limit query now
  | .store request, now, stage =>
    let (answer, stage) := stage.keep keeper request
    (answer, now, stage)
  | .pause span, now, stage => ((), now + span.nanos, stage)
  | .report event, now, stage => ((), now, { stage with events := event :: stage.events })

/-- Forgets what is on record. -/
def clear (stage : Stage σ) : Stage σ := { stage with calls := [], events := [] }

/-- The calls in the order in which they were made. -/
def callsMade (stage : Stage σ) : List (Nat × Query) := stage.calls.reverse

/-- The calls ordered by subject, the list of all subjects first, otherwise in their order. -/
def callsBySubject (stage : Stage σ) : List (Nat × Query) :=
  let key (call : Nat × Query) : String := (call.2.subject?).getD ""
  let (listings, others) := stage.callsMade.partition fun call => call.2.subject?.isNone
  listings ++ others.mergeSort fun a b => !decide (key b < key a)

def eventsTold (stage : Stage σ) : List Event := stage.events.reverse

end Stage

end SchemaLedger
