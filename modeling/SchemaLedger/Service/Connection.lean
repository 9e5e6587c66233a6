import SchemaLedger.Durable.Backend
import SchemaLedger.Registry.Client
import SchemaLedger.Sync.Program

namespace SchemaLedger

/-- What a call came to for someone who was answered before the deadline. -/
def Attempt.ofAnswer {α : Type} : Except RegistryError α → Attempt α
  | .ok value => .answered value
  | .error error => .failed error

/-- Carries out effects with a catalog, where calls are answered at once by `ask`. Events are not
kept. -/
def Backend.host (ask : (query : Query) → Attempt query.Reply) : Host Backend
  | .query _ query, now, backend => (ask query, now, backend)
  | .store request, now, backend =>
    let (answer, backend) := Backend.keeper request backend
    (answer, now, backend)
  | .pause span, now, backend => ((), now + span.nanos, backend)
  | .report _, now, backend => ((), now, backend)

/-- Without a registry no call is ever answered. -/
def Backend.hostAlone : Host Backend :=
  Backend.host fun _ => .timedOut

def Client.host (client : Client) (network : Network) : Host Backend :=
  Backend.host fun query => .ofAnswer (client.answer network query)

end SchemaLedger
