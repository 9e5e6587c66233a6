import SchemaLedger.Decimal.Double

namespace SchemaLedger

/-- The number `± digits * 10 ^ exponent`. -/
structure Decimal where
  negative : Bool
  digits : Nat
  exponent : Int
deriving DecidableEq, Repr

/-- The number that a run of decimal digits spells. -/
def decimalNumber (digits : List Char) : Nat :=
  digits.foldl (fun n c => n * 10 + (c.toNat - '0'.toNat)) 0

/-- How many digits a number has in decimal; zero has one. -/
def decimalWidth (n : Nat) : Nat :=
  (Nat.toDigits 10 n).length

/-- The nearest double. Numbers of a size that no double comes near are settled by that size, so
that an exponent of any length costs nothing: from ten to the 310 on there is no double, and below
ten to the -400 the nearest is zero. -/
def Decimal.nearest? (d : Decimal) : Option Double :=
  let size := d.exponent + decimalWidth d.digits
  if d.digits = 0 ∨ size < -400 then some (Double.zero d.negative)
  else if 310 < size then none
  else if 0 ≤ d.exponent then Double.nearest? d.negative (d.digits * Nat.pow 10 d.exponent.toNat) 1
  else Double.nearest? d.negative d.digits (Nat.pow 10 d.exponent.natAbs)

end SchemaLedger
