namespace SchemaLedger

/-- A digit counts in either case when it is read, though only lower case is written. -/
def Hex.value? (c : Char) : Option Nat :=
  if '0' ≤ c ∧ c ≤ '9' then some (c.toNat - '0'.toNat)
  else if 'a' ≤ c ∧ c ≤ 'f' then some (c.toNat - 'a'.toNat + 10)
  else if 'A' ≤ c ∧ c ≤ 'F' then some (c.toNat - 'A'.toNat + 10)
  else none

def Hex.digits (b : UInt8) : List Char :=
  [Nat.digitChar (b.toNat / 16), Nat.digitChar (b.toNat % 16)]

def Hex.encode (bytes : List UInt8) : String :=
  String.ofList (bytes.flatMap Hex.digits)

/-- Reads pairs of digits; half a byte at the end is refused. -/
def Hex.bytes? : List Char → Option (List UInt8)
  | [] => some []
  | [_] => none
  | high :: low :: rest => do
    let h ← Hex.value? high
    let l ← Hex.value? low
    let bytes ← Hex.bytes? rest
    pure (UInt8.ofNat (h * 16 + l) :: bytes)

def Hex.decode? (text : String) : Option (List UInt8) :=
  Hex.bytes? text.toList

/-- The number that a run of hexadecimal digits spells, or nothing when one of them is no digit. -/
def Hex.number? (digits : List Char) : Option Nat :=
  digits.foldlM (fun n c => (Hex.value? c).map (n * 16 + ·)) 0

end SchemaLedger
