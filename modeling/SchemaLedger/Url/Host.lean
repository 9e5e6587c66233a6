import SchemaLedger.Text.Path
import SchemaLedger.Url.Percent
import SchemaLedger.Url.Punycode

namespace SchemaLedger

namespace Host

/-- A number of an address: hexadecimal behind `0x`, octal behind `0`, else decimal. -/
def number? (part : List Char) : Option Nat :=
  let inBase (base : Nat) (digits : List Char) : Option Nat :=
    if digits.all fun c => (Hex.value? c).any (· < base) then
      some (digits.foldl (fun n c => n * base + (Hex.value? c).getD 0) 0)
    else none
  match part with
  | [] => none
  | '0' :: 'x' :: digits => inBase 16 digits
  | '0' :: 'X' :: digits => inBase 16 digits
  | '0' :: digits => inBase 8 digits
  | digits => inBase 10 digits

/-- A name counts as an address of four bytes when its last label is a number. -/
def endsInNumber (name : List Char) : Bool :=
  let labels := (splitAtEach (· == '.') name).reverse
  let last := match labels with
    | [] :: label :: _ => label
    | label :: _ => label
    | [] => []
  last ≠ [] && (last.all Char.isDigit || (number? last).isSome)

/-- The bytes of an address; the last number fills all bytes that the others leave. -/
def ipv4? (name : List Char) : Option (List Nat) := do
  let parts := splitAtEach (· == '.') name
  let parts := if parts.getLast? = some [] then parts.dropLast else parts
  let numbers ← parts.mapM number?
  guard (numbers.length ≤ 4)
  let last ← numbers.getLast?
  let front := numbers.dropLast
  guard (last < Nat.pow 256 (4 - front.length) ∧ front.all (· < 256))
  let value := front.zipIdx.foldl (fun sum (n, i) => sum + n * Nat.pow 256 (3 - i)) last
  pure [value / 16777216, value / 65536 % 256, value / 256 % 256, value % 256]

def renderIpv4 (bytes : List Nat) : List Char :=
  (".".intercalate (bytes.map toString)).toList

/-- The two groups that an address of four bytes fills at the end of one of eight groups. -/
def embedded? (part : List Char) : Option (List Nat) := do
  let numbers ← (splitAtEach (· == '.') part).mapM fun digits => do
    guard (digits ≠ [] ∧ digits.all Char.isDigit ∧ (digits.length = 1 ∨ digits.head? ≠ some '0'))
    let n ← number? digits
    guard (n < 256)
    pure n
  match numbers with
  | [a, b, c, d] => pure [a * 256 + b, c * 256 + d]
  | _ => none

def group? (part : List Char) : Option Nat := do
  guard (1 ≤ part.length ∧ part.length ≤ 4)
  Hex.number? part

/-- Groups between colons, the last of which may be an address of four bytes. -/
def groups? : List (List Char) → Option (List Nat)
  | [] => some []
  | [part] => if part.contains '.' then embedded? part else (group? part).map ([·])
  | part :: rest => do
    let group ← group? part
    let groups ← groups? rest
    pure (group :: groups)

/-- The text in front of the first pair of colons and the text behind it. -/
def cutAtPair : List Char → Option (List Char × List Char)
  | ':' :: ':' :: rest => some ([], rest)
  | c :: rest => (cutAtPair rest).map fun (front, back) => (c :: front, back)
  | [] => none

def groupsOf? (text : List Char) : Option (List Nat) :=
  if text.isEmpty then some [] else groups? (splitAtEach (· == ':') text)

/-- Eight groups, of which a pair of colons leaves out one or more that are zero. -/
def ipv6? (text : List Char) : Option (List Nat) :=
  match cutAtPair text with
  | none => do
    let groups ← groupsOf? text
    guard (groups.length = 8)
    pure groups
  | some (front, back) => do
    guard ¬front.contains '.'
    let front ← groupsOf? front
    let back ← groupsOf? back
    guard (front.length + back.length ≤ 7)
    pure (front ++ List.replicate (8 - front.length - back.length) 0 ++ back)

/-- Where the longest run of zeros begins and how long it is, the first of several. -/
def longestZeros (groups : List Nat) : Nat × Nat :=
  (List.range groups.length).foldl
    (fun best start =>
      let length := ((groups.drop start).takeWhile (· = 0)).length
      if best.2 < length then (start, length) else best)
    (0, 0)

def renderIpv6 (groups : List Nat) : List Char :=
  let written (part : List Nat) : List Char :=
    (":".intercalate (part.map fun g => String.ofList (Nat.toDigits 16 g))).toList
  let (start, length) := longestZeros groups
  if length < 2 then written groups
  else written (groups.take start) ++ [':', ':'] ++ written (groups.drop (start + length))

/-- The letter in place of a capital, for Latin letters up to U+017F, Greek letters without marks
and Cyrillic letters up to U+042F, and the plain form of wide letters. Marks that are not seen are
left out. Letters of other rows, their compatibility forms and the composition of letters with marks
are left out here: such a host stays as it is written. -/
def fold (c : Char) : List Char :=
  let n := c.toNat
  if 0x41 ≤ n ∧ n ≤ 0x5A then [Char.ofNat (n + 32)]
  else if n = 0xAD ∨ n = 0x200B ∨ n = 0x2060 ∨ n = 0xFEFF ∨ (0xFE00 ≤ n ∧ n ≤ 0xFE0F) then []
  else if n = 0x3002 ∨ n = 0xFF0E ∨ n = 0xFF61 then ['.']
  else if n = 0xA0 ∨ n = 0x3000 then [' ']
  else if 0xC0 ≤ n ∧ n ≤ 0xDE ∧ n ≠ 0xD7 then [Char.ofNat (n + 32)]
  else if n = 0x130 then ['i', '\u0307']
  else if n = 0x132 ∨ n = 0x133 then ['i', 'j']
  else if n = 0x13F ∨ n = 0x140 then ['l', '\u00B7']
  else if n = 0x149 then ['\u02BC', 'n']
  else if n = 0x178 then ['\u00FF']
  else if n = 0x17F then ['s']
  else if 0x100 ≤ n ∧ n ≤ 0x137 ∧ n % 2 = 0 then [Char.ofNat (n + 1)]
  else if 0x139 ≤ n ∧ n ≤ 0x148 ∧ n % 2 = 1 then [Char.ofNat (n + 1)]
  else if 0x14A ≤ n ∧ n ≤ 0x177 ∧ n % 2 = 0 then [Char.ofNat (n + 1)]
  else if 0x179 ≤ n ∧ n ≤ 0x17E ∧ n % 2 = 1 then [Char.ofNat (n + 1)]
  else if 0x391 ≤ n ∧ n ≤ 0x3A9 ∧ n ≠ 0x3A2 then [Char.ofNat (n + 32)]
  else if 0x400 ≤ n ∧ n ≤ 0x40F then [Char.ofNat (n + 80)]
  else if 0x410 ≤ n ∧ n ≤ 0x42F then [Char.ofNat (n + 32)]
  else if 0xFF01 ≤ n ∧ n ≤ 0xFF5E then
    let plain := n - 0xFEE0
    [Char.ofNat (if 0x41 ≤ plain ∧ plain ≤ 0x5A then plain + 32 else plain)]
  else [c]

/-- Characters that stand in no host. -/
def isForbidden (c : Char) : Bool :=
  c.toNat ≤ 0x20 || c.toNat == 0x7F || c == '\uFFFD' ||
    c ∈ ['%', '#', '/', ':', '<', '>', '?', '@', '[', '\\', ']', '^', '|']

/-- Characters that stand in no name, in whatever way it is written. -/
def isForbiddenInName (c : Char) : Bool :=
  isForbidden c || (0x80 ≤ c.toNat && c.toNat ≤ 0x9F)

/-- A label in ASCII. One that is so already must spell a label of another script if it says so. -/
def asciiLabel? (label : List Char) : Option (List Char) :=
  match label with
  | 'x' :: 'n' :: '-' :: '-' :: written =>
    match Punycode.decode? written with
    | some plain =>
      if plain.any (0x80 ≤ ·.toNat) ∧ !plain.any isForbiddenInName ∧
          Punycode.encode plain = written then
        some label
      else none
    | none => none
  | _ =>
    if label.all (·.toNat < 0x80) then some label
    else some ('x' :: 'n' :: '-' :: '-' :: Punycode.encode label)

def domain? (text : List Char) : Option (List Char) := do
  let plain := (Utf8.decodeLossy (Percent.decode text)).toList.flatMap fold
  guard ¬plain.any isForbiddenInName
  let labels ← (splitAtEach (· == '.') plain).mapM asciiLabel?
  pure ('.'.toString.intercalate (labels.map String.ofList)).toList

/-- The host of an address with a well-known scheme, as it is written out. -/
def parse? (text : List Char) : Option (List Char) :=
  match text with
  | '[' :: rest =>
    if rest.getLast? = some ']' then
      (ipv6? rest.dropLast).map fun groups => '[' :: renderIpv6 groups ++ [']']
    else none
  | _ => do
    let name ← domain? text
    guard (name ≠ [])
    if endsInNumber name then (ipv4? name).map renderIpv4 else pure name

/-- The host of an address with any other scheme. -/
def opaque? (text : List Char) : Option (List Char) :=
  match text with
  | '[' :: _ => parse? text
  | _ =>
    if text.any fun c => isForbidden c && c != '%' && !Percent.isControl c || c.toNat == 0 then none
    else some (Percent.encode Percent.isControl text)

end Host

end SchemaLedger
