import SchemaLedger.Proofs.Sync.Crew

namespace SchemaLedger

/-- The end of every call, by the call alone. -/
abbrev Replies : Type := (call : Query) → Attempt call.Reply

/-- The failures of requests, by the request alone. -/
abbrev Refusals : Type := Request → Option StoreError

def Refusals.none : Refusals := fun _ => .none

theorem Refusals.none_ne {request : Request} {error : StoreError} :
    Refusals.none request ≠ some error := Option.some_ne_none error |>.symm

/-- Carries out requests on a catalog, refuses some, and lets no time pass. -/
def steadyHost (replies : Replies) (refusals : Refusals) : Host Catalog
  | .query _ call, now, catalog => (replies call, now, catalog)
  | .store request, now, catalog =>
    match refusals request with
    | some error => (.error error, now, catalog)
    | none => (.ok (catalog.perform request).1, now, (catalog.perform request).2)
  | .pause _, now, catalog => ((), now, catalog)
  | .report _, now, catalog => ((), now, catalog)

theorem steadyHost_within {replies : Replies} {refusals : Refusals} {around : Surroundings}
    (answers : ∀ told call, around.replies told call (replies call))
    (accepted : ∀ told request, refusals request = none → around.accepts told request)
    (refused : ∀ told request error, refusals request = some error →
      around.refuses told request error) :
    (steadyHost replies refusals).Within id around := by
  intro told effect now catalog
  cases effect with
  | query limit call => exact .replied (answers told call)
  | pause | report => constructor
  | store request =>
    dsimp only [steadyHost, id]
    cases atRequest : refusals request with
    | none => exact .accepted (accepted told request atRequest)
    | some error => exact .refused (refused told request error atRequest)

/-- The catalog after a pass over a steady registry. -/
def steadyPass (replies : Replies) (refusals : Refusals) (policy : RunPolicy) (catalog : Catalog) :
    Catalog :=
  (runPass (steadyHost replies refusals) policy 0 catalog).2.2

theorem reach_steadyPass {replies : Replies} {refusals : Refusals} {around : Surroundings}
    (within : (steadyHost replies refusals).Within id around) (policy : RunPolicy)
    (catalog : Catalog) : ∃ pass,
      Pass.Reach around policy catalog pass (steadyPass replies refusals policy catalog) ∧
        pass.Finished := by
  obtain ⟨pass, reach, finished, -⟩ := Pass.reach_runPass within policy 0 catalog
  exact ⟨pass, reach, finished⟩

end SchemaLedger
