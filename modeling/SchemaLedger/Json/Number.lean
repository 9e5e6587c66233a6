import SchemaLedger.Decimal.Layout

namespace SchemaLedger

/-- A numeral taken apart. The letter case of the exponent mark and a plus sign are not kept. -/
structure Numeral where
  negative : Bool
  whole : List Char
  fraction : Option (List Char)
  exponent : Option (Bool × List Char)
deriving DecidableEq, Repr

/-- Digits after the mark of an exponent, with an optional sign. -/
def Numeral.exponent? : List Char → Option (Bool × List Char)
  | '-' :: digits => if digits ≠ [] ∧ digits.all Char.isDigit then some (true, digits) else none
  | '+' :: digits => if digits ≠ [] ∧ digits.all Char.isDigit then some (false, digits) else none
  | digits => if digits ≠ [] ∧ digits.all Char.isDigit then some (false, digits) else none

/-- What may follow the whole part: a fraction with at least one digit, then an exponent. -/
def Numeral.tail? : List Char → Option (Option (List Char) × Option (Bool × List Char))
  | [] => some (none, none)
  | '.' :: rest =>
    let digits := rest.takeWhile Char.isDigit
    if digits = [] then none
    else match rest.dropWhile Char.isDigit with
      | [] => some (some digits, none)
      | mark :: power =>
        if mark = 'e' ∨ mark = 'E' then (Numeral.exponent? power).map fun e => (some digits, some e)
        else none
  | mark :: power =>
    if mark = 'e' ∨ mark = 'E' then (Numeral.exponent? power).map fun e => (none, some e) else none

/-- A whole part has no zero in front of another digit. -/
def Numeral.unsigned? (negative : Bool) (word : List Char) : Option Numeral :=
  let whole := word.takeWhile Char.isDigit
  if whole = [] ∨ (whole.head? = some '0' ∧ whole.length ≠ 1) then none
  else (Numeral.tail? (word.dropWhile Char.isDigit)).map fun (fraction, exponent) =>
    ⟨negative, whole, fraction, exponent⟩

def Numeral.ofWord? : List Char → Option Numeral
  | '-' :: word => Numeral.unsigned? true word
  | word => Numeral.unsigned? false word

/-- The decimal that a numeral spells. -/
def Numeral.decimal (n : Numeral) : Decimal :=
  let fraction := n.fraction.getD []
  let power : Int := match n.exponent with
    | none => 0
    | some (negative, digits) =>
      if negative then -(decimalNumber digits : Int) else decimalNumber digits
  ⟨n.negative, decimalNumber (n.whole ++ fraction), power - fraction.length⟩

/-- A whole number that a signed or an unsigned word of 64 bits holds, or a double. -/
inductive Number
  | integer (value : Int) (least : -9223372036854775808 ≤ value)
      (greatest : value < 18446744073709551616)
  | double (value : Double)
deriving DecidableEq, Repr

def Number.ofInt? (value : Int) : Option Number :=
  if h : -9223372036854775808 ≤ value ∧ value < 18446744073709551616 then
    some (.integer value h.1 h.2)
  else none

/-- Numerals with neither fraction nor exponent denote integers where they fit. Minus zero is a
double, which alone keeps its sign. A number beyond the doubles denotes nothing. -/
def Numeral.number? (n : Numeral) : Option Number :=
  let whole : Option Number := do
    guard (n.fraction = none ∧ n.exponent = none)
    let size := decimalNumber n.whole
    guard ¬(n.negative ∧ size = 0)
    Number.ofInt? (if n.negative then -size else size)
  whole <|> (n.decimal.nearest?.map Number.double)

def Number.render (layout : DecimalLayout) : Number → String
  | .integer value _ _ =>
    let digits := String.ofList (Nat.toDigits 10 value.natAbs)
    if value < 0 then "-" ++ digits else digits
  | .double value => layout.render value

/-- The double nearest to a number. -/
def Number.toDouble : Number → Double
  | .integer value _ _ => (Double.nearest? (value < 0) value.natAbs 1).getD default
  | .double value => value

end SchemaLedger
