import SchemaLedger.Json.Number

namespace SchemaLedger

inductive Cell
  | null
  | integer (value : Int)
  | real (value : Double)
  | text (value : String)
deriving DecidableEq, Repr

/-- The kind of value that a column prefers. -/
inductive Affinity
  | integer | real | text
deriving DecidableEq, Repr

namespace Cell

/-- The number that a text spells. -/
def ofNumericText? (text : String) : Option Number :=
  (Numeral.ofWord? text.toList).bind Numeral.number?

/-- The integer that a double is, if it is one of 64 bits. -/
def wholeOfDouble? (value : Double) : Option Int :=
  if value.scaled % Double.unit = 0 then
    let size : Int := (value.scaled / Double.unit : Nat)
    let whole := if value.negative then -size else size
    if -9223372036854775808 ≤ whole ∧ whole < 9223372036854775808 then some whole else none
  else none

def ofNumber : Number → Cell
  | .integer value least greatest =>
    if value < 9223372036854775808 then integer value
    else real (Number.toDouble (.integer value least greatest))
  | .double value => real value

/-- A double that is a whole number becomes an integer. -/
def preferInteger : Cell → Cell
  | real value =>
    match wholeOfDouble? value with
    | some whole => integer whole
    | none => real value
  | cell => cell

def preferReal : Cell → Cell
  | integer value =>
    match Number.ofInt? value with
    | some number => real number.toDouble
    | none => integer value
  | cell => cell

end Cell

/-- What a column holds after a cell has been written to it. -/
def Affinity.keep : Affinity → Cell → Cell
  | integer, .text value =>
    match Cell.ofNumericText? value with
    | some number => (Cell.ofNumber number).preferInteger
    | none => .text value
  | integer, cell => cell.preferInteger
  | real, .text value =>
    match Cell.ofNumericText? value with
    | some number => (Cell.ofNumber number).preferReal
    | none => .text value
  | real, cell => cell.preferReal
  | text, .integer value =>
    .text (if value < 0 then "-" ++ toString value.natAbs else toString value.natAbs)
  | text, .real value => .text (DecimalLayout.plain.render value)
  | text, cell => cell

namespace Cell

def ofOption {α : Type} (toCell : α → Cell) : Option α → Cell
  | none => null
  | some value => toCell value

def ofBool (value : Bool) : Cell := integer (if value then 1 else 0)

def ofWord (value : UInt32) : Cell := integer value.toNat

/-- The name of the kind of value in a cell. -/
def kind : Cell → String
  | null => "Null"
  | integer _ => "Integer"
  | real _ => "Real"
  | text _ => "Text"

/-- Why a cell is no value of a type. -/
inductive Fault
  | wrongKind (kind : String)
  | outOfRange (value : Int)
deriving DecidableEq, Repr

/-- Reads a cell that may be empty. -/
def optional {α : Type} (read : Cell → Except Fault α) : Cell → Except Fault (Option α)
  | null => .ok none
  | cell => (read cell).map some

def asText : Cell → Except Fault String
  | text value => .ok value
  | cell => .error (.wrongKind cell.kind)

def asWord : Cell → Except Fault UInt32
  | integer value =>
    if 0 ≤ value ∧ value < 4294967296 then .ok (.ofNat value.toNat) else .error (.outOfRange value)
  | cell => .error (.wrongKind cell.kind)

def asInt64 : Cell → Except Fault Int64
  | integer value =>
    if -9223372036854775808 ≤ value ∧ value < 9223372036854775808 then .ok (.ofInt value)
    else .error (.outOfRange value)
  | cell => .error (.wrongKind cell.kind)

/-- Every integer but zero stands for true. -/
def asBool : Cell → Except Fault Bool
  | integer value => .ok (value ≠ 0)
  | cell => .error (.wrongKind cell.kind)

def asDouble : Cell → Except Fault Double
  | real value => .ok value
  | integer value =>
    match Number.ofInt? value with
    | some number => .ok number.toDouble
    | none => .error (.outOfRange value)
  | cell => .error (.wrongKind cell.kind)

/-- The signed size of a number in the units of doubles. -/
def scaled? : Cell → Option Int
  | integer value => some (value * Double.unit)
  | real value => some (if value.negative then -(value.scaled : Int) else value.scaled)
  | _ => none

/-- Nothing lies below numbers, and numbers lie below texts. -/
def less : Cell → Cell → Bool
  | null, null => false
  | null, _ => true
  | _, null => false
  | text a, text b => a < b
  | text _, _ => false
  | _, text _ => true
  | a, b => (a.scaled?.getD 0) < (b.scaled?.getD 0)

def greater (a b : Cell) : Cell := if a.less b then b else a

/-- The first cell unless it is empty. -/
def orElse : Cell → Cell → Cell
  | null, other => other
  | cell, _ => cell

end Cell

end SchemaLedger
