namespace SchemaLedger

/-- Every double is a whole number of units, of which this many make one. -/
def Double.unit : Nat := Nat.pow 2 1074

/-- The number `± significand * 2 ^ place` in units. A significand of fewer than 53 bits is
allowed only at place zero, so every number but zero has one form; zero keeps its sign. -/
structure Double where
  negative : Bool
  significand : Nat
  place : Nat
  significand_lt : significand < 9007199254740992
  place_le : place ≤ 2045
  normal : place = 0 ∨ 4503599627370496 ≤ significand
deriving DecidableEq, Repr

def Double.zero (negative : Bool) : Double :=
  ⟨negative, 0, 0, by decide, by decide, .inl rfl⟩

instance : Inhabited Double := ⟨Double.zero false⟩

/-- The double with the given parts, when they are the parts of one. -/
def Double.ofParts? (negative : Bool) (significand place : Nat) : Option Double :=
  if h : significand < 9007199254740992 ∧ place ≤ 2045 ∧
      (place = 0 ∨ 4503599627370496 ≤ significand) then
    some ⟨negative, significand, place, h.1, h.2.1, h.2.2⟩
  else none

/-- The quotient rounded to the nearest whole number, a half to the even one. -/
def roundHalfEven (numerator denominator : Nat) : Nat :=
  let floor := numerator / denominator
  let rest := numerator % denominator
  if 2 * rest < denominator ∨ (2 * rest = denominator ∧ floor % 2 = 0) then floor else floor + 1

/-- The double nearest to a quotient, a half going to the even significand, or nothing when that is
beyond the largest one. Rounding up may carry into a 54th bit, which moves the place by one. -/
def Double.nearest? (negative : Bool) (numerator denominator : Nat) : Option Double :=
  let scaled := numerator * Double.unit
  let place := (scaled / denominator).log2 - 52
  let rounded := roundHalfEven scaled (denominator * Nat.pow 2 place)
  if rounded = 9007199254740992 then Double.ofParts? negative 4503599627370496 (place + 1)
  else Double.ofParts? negative rounded place

/-- The absolute value as a number of units. -/
def Double.scaled (d : Double) : Nat :=
  d.significand * Nat.pow 2 d.place

def Double.isZero (d : Double) : Bool :=
  d.significand == 0

end SchemaLedger
