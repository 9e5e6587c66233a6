import SchemaLedger.Text.Count

namespace SchemaLedger

inductive Level
  | error | warn | info | debug | trace
deriving DecidableEq, Repr

namespace Level

def label : Level → String
  | error => "ERROR"
  | warn => "WARN"
  | info => "INFO"
  | debug => "DEBUG"
  | trace => "TRACE"

def all : List Level := [error, warn, info, debug, trace]

/-- The place of a level, the gravest one first and counted from one. -/
def rank : Level → Nat
  | error => 1
  | warn => 2
  | info => 3
  | debug => 4
  | trace => 5

end Level

/-- The events up to a level pass, or none at all. -/
abbrev Threshold := Option Level

namespace Threshold

def admits (threshold : Threshold) (level : Level) : Bool :=
  threshold.any fun t => level.rank ≤ t.rank

/-- Levels go by their labels in any case, or by their numbers, with zero for none. -/
def ofLabel? (text : String) : Option Threshold :=
  match count? text with
  | some 0 => some none
  | some n => (Level.all.find? fun level => level.rank == n).map some
  | none =>
    if text.toUpper = "OFF" then some none
    else (Level.all.find? fun level => level.label == text.toUpper).map some

end Threshold

end SchemaLedger
