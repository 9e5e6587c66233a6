import SchemaLedger.Registry.Error
import SchemaLedger.Schema.Registered

namespace SchemaLedger

inductive Query
  | subjects
  | latest (subject : String)
  | version (subject : String) (number : UInt32)
  | config (subject : String)
  | mode (subject : String)
deriving DecidableEq, Repr

namespace Query

/-- What a good answer holds. A registry without a setting of its own for a subject says so, and
that is an answer too. -/
@[reducible] def Reply : Query → Type
  | subjects => List String
  | latest _ => Registered
  | version _ _ => Registered
  | config _ => Option SubjectConfig
  | mode _ => SubjectMode

/-- The subject that a call is about, if it is about one. -/
def subject? : Query → Option String
  | subjects => none
  | latest subject => some subject
  | version subject _ => some subject
  | config subject => some subject
  | mode subject => some subject

end Query

/-- How a call ended for someone who does not wait forever. -/
inductive Attempt (α : Type)
  | answered (value : α)
  | timedOut
  | failed (error : RegistryError)
deriving Repr

end SchemaLedger
