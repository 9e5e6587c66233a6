namespace SchemaLedger.Pattern

def isHexDigit (c : Char) : Bool :=
  c.isDigit || ('a' ≤ c && c ≤ 'f') || ('A' ≤ c && c ≤ 'F')

def isPunctuation (c : Char) : Bool :=
  '!' ≤ c && c ≤ '~' && !c.isAlphanum && c != '<' && c != '>'

/-- How many characters behind a backslash belong to it. -/
def escapeLength? : List Char → Option Nat
  | [] => none
  | 'x' :: rest => digits 2 rest
  | 'u' :: rest => digits 4 rest
  | 'U' :: rest => digits 8 rest
  | 'p' :: rest => category rest
  | 'P' :: rest => category rest
  | c :: _ => if isPunctuation c || c ∈ "dDsSwWaftnrvAz".toList then some 1 else none
where
  digits (count : Nat) (rest : List Char) : Option Nat :=
    let taken := rest.take count
    if taken.length = count ∧ taken.all isHexDigit then some (count + 1) else none
  category : List Char → Option Nat
    | c :: _ => if c ∈ "LMNPSZC".toList then some 2 else none
    | [] => none

/-- How many characters behind an opening parenthesis belong to it, and whether it opens a group or
only sets flags. -/
def opening? : List Char → Option (Nat × Bool)
  | '?' :: 'P' :: '<' :: rest => name 3 rest
  | '?' :: '<' :: rest => name 2 rest
  | '?' :: rest =>
    let flags := rest.takeWhile (· ∈ "imsUuxR-".toList)
    match rest.drop flags.length with
    | ':' :: _ => some (flags.length + 2, true)
    | ')' :: _ => if flags.isEmpty then none else some (flags.length + 2, false)
    | _ => none
  | _ => some (0, true)
where
  name (taken : Nat) (rest : List Char) : Option (Nat × Bool) :=
    let word := rest.takeWhile (· ≠ '>')
    let isStart (c : Char) : Bool := c.isAlpha || c == '_'
    match word, rest.drop word.length with
    | first :: others, '>' :: _ =>
      if isStart first && others.all fun c => isStart c || c.isDigit || c ∈ ['.', '[', ']'] then
        some (taken + word.length + 1, true)
      else none
    | _, _ => none

/-- How many characters behind an opening bracket belong to it. Brackets nest; `last` is the
character that a range could begin with. -/
def bracketLength? (depth : Nat) (last : Option Char) : List Char → Option Nat
  | [] => none
  | '\\' :: c :: rest =>
    if isPunctuation c || c ∈ "dDsSwWaftnrv".toList then
      (bracketLength? depth (if isPunctuation c then some c else none) rest).map (· + 2)
    else none
  | ']' :: rest =>
    match depth with
    | 0 => some 1
    | depth + 1 => (bracketLength? depth none rest).map (· + 1)
  | '[' :: rest => (bracketLength? (depth + 1) none rest).map (· + 1)
  | '-' :: c :: rest =>
    match last with
    | some first =>
      if c ∈ [']', '-', '\\', '['] then (bracketLength? depth none (c :: rest)).map (· + 1)
      else if first ≤ c then (bracketLength? depth none rest).map (· + 2)
      else none
    | none => (bracketLength? depth (some '-') (c :: rest)).map (· + 1)
  | c :: rest => (bracketLength? depth (some c) rest).map (· + 1)

/-- A bracket that closes at once stands for itself. -/
def classLength? (rest : List Char) : Option Nat :=
  match rest with
  | '^' :: ']' :: rest => (bracketLength? 0 (some ']') rest).map (· + 2)
  | '^' :: rest => (bracketLength? 0 none rest).map (· + 1)
  | ']' :: rest => (bracketLength? 0 (some ']') rest).map (· + 1)
  | rest => bracketLength? 0 none rest

/-- Whether the rest of a pattern can be read with some groups open. A repetition needs something in
front of it, and groups are closed as often as they are opened. -/
def isReadableFrom (repeatable : Bool) (opened : Nat) : List Char → Bool
  | [] => opened == 0
  | '\\' :: rest =>
    match escapeLength? rest with
    | some n => isReadableFrom true opened (rest.drop n)
    | none => false
  | '(' :: rest =>
    match opening? rest with
    | some (n, opens) => isReadableFrom false (if opens then opened + 1 else opened) (rest.drop n)
    | none => false
  | '[' :: rest =>
    match classLength? rest with
    | some n => isReadableFrom true opened (rest.drop n)
    | none => false
  | c :: rest =>
    if c = ')' then
      match opened with
      | 0 => false
      | opened + 1 => isReadableFrom true opened rest
    else if c = '|' then isReadableFrom false opened rest
    else if c ∈ ['*', '+', '?'] then repeatable && isReadableFrom true opened rest
    else if c = '\x7b' then false
    else isReadableFrom true opened rest
termination_by cs => cs.length
decreasing_by all_goals simp only [List.length_cons, List.length_drop]; omega

/-- What stands behind the digits of a number: nothing, or an exponent. -/
def isExponent : List Char → Bool
  | [] => true
  | mark :: rest =>
    let digits := match rest with
      | '+' :: digits => digits
      | '-' :: digits => digits
      | digits => digits
    (mark == 'e' || mark == 'E') && !digits.isEmpty && digits.all Char.isDigit

/-- Numbers may have a plus sign, which no pattern begins with. -/
def isSignedNumber : List Char → Bool
  | '+' :: rest =>
    let whole := rest.takeWhile Char.isDigit
    let (fraction, behind) := match rest.drop whole.length with
      | '.' :: behind => (behind.takeWhile Char.isDigit, behind.dropWhile Char.isDigit)
      | behind => ([], behind)
    (!(whole.isEmpty && fraction.isEmpty) && isExponent behind) ||
      (String.ofList rest).toLower ∈ ["inf", "infinity", "nan"]
  | _ => false

def isReadable (pattern : String) : Bool :=
  isSignedNumber pattern.toList || isReadableFrom false 0 pattern.toList

end SchemaLedger.Pattern
