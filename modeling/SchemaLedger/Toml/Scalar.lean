import SchemaLedger.Decimal.Decimal
import SchemaLedger.Text.Hex

namespace SchemaLedger

/-- The value of a settings file. No setting is a float or a date, so of these the spelling is
kept. -/
inductive Toml
  | string (value : String)
  | integer (value : Int)
  | float (spelling : String)
  | bool (value : Bool)
  | moment (spelling : String)
  | array (items : List Toml)
  | table (members : List (String × Toml))
deriving Repr, Inhabited

namespace Toml

/-- Digits with single underscores between them, and nothing else. -/
def isDigits (isDigit : Char → Bool) : List Char → Bool
  | [] => false
  | [c] => isDigit c
  | c :: '_' :: rest => isDigit c && isDigits isDigit rest
  | c :: rest => isDigit c && isDigits isDigit rest

def withoutUnderscores (digits : List Char) : List Char := digits.filter (· ≠ '_')

/-- A decimal whole number without a needless zero at the front. -/
def isWhole (digits : List Char) : Bool :=
  isDigits Char.isDigit digits && (digits.length == 1 || digits.head? != some '0')

def numberIn (base : Nat) (digits : List Char) : Int :=
  ((withoutUnderscores digits).foldl (fun n c => n * base + (Hex.value? c).getD 0) 0 : Nat)

def integerIn? (base : Nat) (digits : List Char) : Option Int :=
  if isDigits (fun c => (Hex.value? c).any (· < base)) digits then some (numberIn base digits)
  else none

/-- Only plain decimals take a sign. -/
def integer? : List Char → Option Int
  | '0' :: 'x' :: digits => integerIn? 16 digits
  | '0' :: 'o' :: digits => integerIn? 8 digits
  | '0' :: 'b' :: digits => integerIn? 2 digits
  | '+' :: digits => if isWhole digits then some (numberIn 10 digits) else none
  | '-' :: digits => if isWhole digits then some (-numberIn 10 digits) else none
  | digits => if isWhole digits then some (numberIn 10 digits) else none

def withoutSign : List Char → List Char
  | '+' :: rest => rest
  | '-' :: rest => rest
  | word => word

/-- A fraction, an exponent or both must follow the whole part. -/
def isFloat (word : List Char) : Bool :=
  let word := withoutSign word
  if word = ['i', 'n', 'f'] || word = ['n', 'a', 'n'] then true
  else
    let isMark (c : Char) : Bool := c == 'e' || c == 'E'
    let mantissa := word.takeWhile fun c => !isMark c
    let exponent := word.dropWhile fun c => !isMark c
    let whole := mantissa.takeWhile (· ≠ '.')
    let fraction := mantissa.dropWhile (· ≠ '.')
    let exponentOk := exponent.isEmpty || isDigits Char.isDigit (withoutSign (exponent.drop 1))
    let fractionOk := fraction.isEmpty || isDigits Char.isDigit (fraction.drop 1)
    isWhole whole && fractionOk && exponentOk && !(fraction.isEmpty && exponent.isEmpty)

/-- The number that exactly `width` digits at the front spell, and what follows them. -/
def fixed? (width : Nat) (word : List Char) : Option (Nat × List Char) :=
  let digits := word.take width
  if digits.length = width ∧ digits.all Char.isDigit then
    some (decimalNumber digits, word.drop width)
  else none

def daysInMonth (year month : Nat) : Nat :=
  if month = 2 then if year % 4 = 0 ∧ (year % 100 ≠ 0 ∨ year % 400 = 0) then 29 else 28
  else if month ∈ [4, 6, 9, 11] then 30
  else 31

/-- Passes over one given character. -/
def mark? (c : Char) : List Char → Option (List Char)
  | first :: rest => if first = c then some rest else none
  | [] => none

def date? (word : List Char) : Option (List Char) := do
  let (year, word) ← fixed? 4 word
  let word ← mark? '-' word
  let (month, word) ← fixed? 2 word
  let word ← mark? '-' word
  let (day, word) ← fixed? 2 word
  guard (1 ≤ month ∧ month ≤ 12 ∧ 1 ≤ day ∧ day ≤ daysInMonth year month)
  pure word

def hourAndMinute? (word : List Char) : Option (List Char) := do
  let (hour, word) ← fixed? 2 word
  let word ← mark? ':' word
  let (minute, word) ← fixed? 2 word
  guard (hour ≤ 23 ∧ minute ≤ 59)
  pure word

/-- Seconds may be left out, and a leap second is allowed. -/
def time? (word : List Char) : Option (List Char) := do
  let word ← hourAndMinute? word
  match word with
  | ':' :: seconds =>
    let (second, word) ← fixed? 2 seconds
    guard (second ≤ 60)
    match word with
    | '.' :: fraction =>
      guard ((fraction.head?).any Char.isDigit)
      pure (fraction.dropWhile Char.isDigit)
    | word => pure word
  | word => pure word

def isOffset : List Char → Bool
  | [] => true
  | ['Z'] => true
  | ['z'] => true
  | '+' :: rest => hourAndMinute? rest == some []
  | '-' :: rest => hourAndMinute? rest == some []
  | _ => false

/-- A date, a time, or both with an optional offset. -/
def isMoment (word : List Char) : Bool :=
  match date? word with
  | some [] => true
  | some (c :: rest) => (c == 'T' || c == 't' || c == ' ') && (time? rest).any isOffset
  | none => time? word == some []

/-- The value that a word without quotes spells. -/
def ofWord? (word : List Char) : Option Toml :=
  if word = ['t', 'r', 'u', 'e'] then some (.bool true)
  else if word = ['f', 'a', 'l', 's', 'e'] then some (.bool false)
  else match integer? word with
    | some value => some (.integer value)
    | none =>
      if isFloat word then some (.float (String.ofList word))
      else if isMoment word then some (.moment (String.ofList word))
      else none

end Toml

end SchemaLedger
