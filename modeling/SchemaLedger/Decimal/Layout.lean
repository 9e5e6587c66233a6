import SchemaLedger.Decimal.Shortest

namespace SchemaLedger

/-- The choices that a format leaves open once the digits are known. `place` is the number of digits
before the point, negative when zeros follow it. -/
structure DecimalLayout where
  leastPlace : Int
  greatestPlace : Int
  wholeSuffix : String
  positiveExponent : String
  negativeZero : String

/-- Positional from `0.00001` up to sixteen digits, whole numbers marked by `.0`. -/
def DecimalLayout.plain : DecimalLayout := ⟨-4, 16, ".0", "", "-0.0"⟩

/-- The layout of canonical documents: positional from `0.000001` up to twenty-one digits, a plus
sign before a positive exponent, and one zero. -/
def DecimalLayout.canonical : DecimalLayout := ⟨-5, 21, "", "+", "0"⟩

/-- The digits of a decimal around the point or before an exponent. -/
def DecimalLayout.unsigned (layout : DecimalLayout) (d : Decimal) : String :=
  let digits := Nat.toDigits 10 d.digits
  let place : Int := digits.length + d.exponent
  if layout.leastPlace ≤ place ∧ place ≤ layout.greatestPlace then
    if place ≤ 0 then
      "0." ++ String.ofList (List.replicate place.natAbs '0' ++ digits)
    else if 0 ≤ d.exponent then
      String.ofList (digits ++ List.replicate d.exponent.toNat '0') ++ layout.wholeSuffix
    else
      String.ofList (digits.take place.toNat) ++ "." ++ String.ofList (digits.drop place.toNat)
  else
    let power := place - 1
    let sign := if power < 0 then "-" else layout.positiveExponent
    let fraction := if digits.length ≤ 1 then "" else "." ++ String.ofList (digits.drop 1)
    String.ofList (digits.take 1) ++ fraction ++ "e" ++ sign ++
      String.ofList (Nat.toDigits 10 power.natAbs)

/-- A zero has its own two texts, since no digit of it says where the point stands. -/
def DecimalLayout.render (layout : DecimalLayout) (d : Double) : String :=
  if d.isZero then if d.negative then layout.negativeZero else "0" ++ layout.wholeSuffix
  else (if d.negative then "-" else "") ++ layout.unsigned d.shortest

end SchemaLedger
