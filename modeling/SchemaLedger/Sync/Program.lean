import SchemaLedger.Catalog.Request
import SchemaLedger.Registry.Query
import SchemaLedger.Sync.Event

namespace SchemaLedger

inductive Effect
  | query (limit : Span) (call : Query)
  | store (request : Request)
  | pause (span : Span)
  | report (event : Event)

@[reducible] def Effect.Answer : Effect → Type
  | query _ call => Attempt call.Reply
  | store request => Except StoreError request.Answer
  | pause _ => Unit
  | report _ => Unit

inductive Program (α : Type)
  | done (value : α)
  | perform (effect : Effect) (next : effect.Answer → Program α)

namespace Program

variable {α β σ : Type}

def bind : Program α → (α → Program β) → Program β
  | done value, f => f value
  | perform effect next, f => perform effect fun answer => (next answer).bind f

instance : Monad Program where
  pure := done
  bind := bind

/-- Asks for one effect and returns its answer. -/
def ask (effect : Effect) : Program effect.Answer :=
  perform effect done

def query (limit : Span) (call : Query) : Program (Attempt call.Reply) :=
  ask (.query limit call)

def store (request : Request) : Program (Except StoreError request.Answer) :=
  ask (.store request)

def pause (span : Span) : Program Unit :=
  ask (.pause span)

def report (event : Event) : Program Unit :=
  ask (.report event)

end Program

/-- Something that carries out effects. It is given the moment at which an effect is asked for, in
nanoseconds, and says when the answer is there. -/
def Host (σ : Type) : Type :=
  (effect : Effect) → Nat → σ → effect.Answer × Nat × σ

/-- Carries out a program from a moment on. -/
def Program.run {α σ : Type} (host : Host σ) : Program α → Nat → σ → α × Nat × σ
  | .done value, now, state => (value, now, state)
  | .perform effect next, now, state =>
    let (answer, now, state) := host effect now state
    (next answer).run host now state

end SchemaLedger
