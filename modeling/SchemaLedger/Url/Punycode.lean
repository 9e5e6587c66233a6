namespace SchemaLedger.Punycode

/-- The digits of base 36: letters first. -/
def digit (n : Nat) : Char :=
  if n < 26 then Char.ofNat (97 + n) else Char.ofNat (22 + n)

def value? (c : Char) : Option Nat :=
  if 'a' ≤ c ∧ c ≤ 'z' then some (c.toNat - 97)
  else if 'A' ≤ c ∧ c ≤ 'Z' then some (c.toNat - 65)
  else if '0' ≤ c ∧ c ≤ '9' then some (c.toNat - 22)
  else none

/-- The value from which on a digit is not the last, at a place that is a multiple of 36. -/
def threshold (place bias : Nat) : Nat :=
  if place ≤ bias then 1 else if bias + 26 ≤ place then 26 else place - bias

def shrink (delta place : Nat) : Nat :=
  if 455 < delta then shrink (delta / 35) (place + 36)
  else place + 36 * delta / (delta + 38)
termination_by delta
decreasing_by omega

/-- The bias for the next distance, from the size of the last one. -/
def adapt (delta count : Nat) (first : Bool) : Nat :=
  let delta := if first then delta / 700 else delta / 2
  shrink (delta + delta / count) 0

theorem threshold_bounds (place bias : Nat) :
    1 ≤ threshold place bias ∧ threshold place bias ≤ 26 := by
  unfold threshold
  split
  · omega
  · split <;> omega

/-- A distance in digits of varying weight, lowest first. -/
def digits (bias place distance : Nat) : List Char :=
  let t := threshold place bias
  if distance < t then [digit distance]
  else digit (t + (distance - t) % (36 - t)) :: digits bias (place + 36) ((distance - t) / (36 - t))
termination_by distance
decreasing_by
  have bounds := threshold_bounds place bias
  have smaller := Nat.div_le_self (distance - threshold place bias) (36 - threshold place bias)
  omega

structure Encoding where
  written : List Char
  delta : Nat
  bias : Nat
  handled : Nat

/-- Goes over the label once for the code point `m`: smaller ones lengthen the distance, and `m`
itself is written. -/
def Encoding.visit (basic m : Nat) (e : Encoding) (c : Char) : Encoding :=
  if c.toNat < m then { e with delta := e.delta + 1 }
  else if c.toNat = m then
    ⟨e.written ++ digits e.bias 36 e.delta, 0, adapt e.delta (e.handled + 1) (e.handled == basic),
      e.handled + 1⟩
  else e

/-- Goes over the label for each of its code points beyond ASCII, in ascending order. -/
def encodePoints (label : List Char) (basic : Nat) : List Nat → Nat → Encoding → Encoding
  | [], _, e => e
  | m :: rest, n, e =>
    let e := { e with delta := e.delta + (m - n) * (e.handled + 1) }
    let e := label.foldl (Encoding.visit basic m) e
    encodePoints label basic rest (m + 1) { e with delta := e.delta + 1 }

def encode (label : List Char) : List Char :=
  let basic := label.filter (·.toNat < 0x80)
  let points := ((label.filter (0x80 ≤ ·.toNat)).map Char.toNat).mergeSort.eraseDups
  let front := if basic.isEmpty then [] else basic ++ ['-']
  (encodePoints label basic.length points 0x80 ⟨front, 0, 72, basic.length⟩).written

/-- A distance at the front of the digits, and what follows it. -/
def distance? (bias : Nat) : List Char → (place weight sum : Nat) → Option (Nat × List Char)
  | [], _, _, _ => none
  | c :: rest, place, weight, sum => do
    let d ← value? c
    let sum := sum + d * weight
    let t := threshold place bias
    if d < t then pure (sum, rest)
    else distance? bias rest (place + 36) (weight * (36 - t)) sum

def insertAt (index : Nat) (c : Char) (label : List Char) : List Char :=
  label.take index ++ c :: label.drop index

/-- Puts in one character for each distance; the number given first bounds how many. -/
def decodePoints : Nat → List Char → (n index bias : Nat) → List Char → Option (List Char)
  | _, [], _, _, _, label => some label
  | 0, _ :: _, _, _, _, _ => none
  | fuel + 1, written, n, index, bias, label => do
    let (distance, rest) ← distance? bias written 36 1 0
    let count := label.length + 1
    let position := index + distance
    let n := n + position / count
    guard (n < 0xD800 ∨ (0xE000 ≤ n ∧ n < 0x110000))
    let place := position % count
    decodePoints fuel rest n (place + 1) (adapt distance count (index == 0))
      (insertAt place (Char.ofNat n) label)

def decode? (written : List Char) : Option (List Char) :=
  let tail := (written.reverse.takeWhile (· ≠ '-')).reverse
  let front := (written.take (written.length - tail.length)).dropLast
  if front.all (·.toNat < 0x80) then decodePoints tail.length tail 0x80 0 72 front else none

end SchemaLedger.Punycode
