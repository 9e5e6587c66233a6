import SchemaLedger.Decimal.Decimal

namespace SchemaLedger

/-- The exponent of ten of the first digit of a positive quotient. Below one it is found from the
turned quotient rounded up, since ten to the `k` reaches a quotient exactly when it reaches that. -/
def leadingExponent (numerator denominator : Nat) : Int :=
  if denominator ≤ numerator then (decimalWidth (numerator / denominator) : Int) - 1
  else -(decimalWidth ((denominator + numerator - 1) / numerator - 1) : Int)

/-- The quotient divided by ten to the given power, again as a quotient. -/
def overPowerOfTen (numerator denominator : Nat) (power : Int) : Nat × Nat :=
  if 0 ≤ power then (numerator, denominator * Nat.pow 10 power.toNat)
  else (numerator * Nat.pow 10 power.natAbs, denominator)

/-- The point of the decimal grid with the given step that reads back as the number and is nearest
to it. Only the two neighbours of the number need a look: if any point of the grid reads back, one
of them does. Of two that are equally near the even one is taken. -/
def Double.onGrid? (d : Double) (step : Int) : Option Decimal :=
  let (numerator, denominator) := overPowerOfTen d.scaled Double.unit step
  let below : Decimal := ⟨d.negative, numerator / denominator, step⟩
  let above : Decimal := ⟨d.negative, numerator / denominator + 1, step⟩
  let reads (c : Decimal) : Bool := c.nearest? == some d
  let twice := 2 * (numerator % denominator)
  let preferBelow := twice < denominator || (twice == denominator && below.digits % 2 == 0)
  match reads below, reads above with
  | true, true => some (if preferBelow then below else above)
  | true, false => some below
  | false, true => some above
  | false, false => none

/-- The number itself as a decimal: a binary fraction always has one. -/
def Double.exact (d : Double) : Decimal :=
  ⟨d.negative, d.scaled * Nat.pow 5 1074, -1074⟩

/-- Drops zeros at the end of the digits. -/
def Decimal.trim (d : Decimal) : Nat → Decimal
  | 0 => d
  | fuel + 1 =>
    if d.digits ≠ 0 ∧ d.digits % 10 = 0 then
      Decimal.trim ⟨d.negative, d.digits / 10, d.exponent + 1⟩ fuel
    else d

/-- The shortest decimal that reads back as the number, and of several that are equally short the
nearest. Seventeen digits always suffice; the exact decimal stands behind them so that reading back
needs no bound on the digits. -/
def Double.shortest (d : Double) : Decimal :=
  if d.isZero then ⟨d.negative, 0, 0⟩
  else
    let lead := leadingExponent d.scaled Double.unit
    let found := (List.range 17).findSome? fun (n : Nat) => d.onGrid? (lead - n)
    (found.getD d.exact).trim 1100

end SchemaLedger
