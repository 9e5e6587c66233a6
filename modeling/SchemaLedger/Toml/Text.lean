import SchemaLedger.Text.Hex

namespace SchemaLedger.Toml

/-- Control characters stand nowhere but a tab. -/
def isPlain (c : Char) : Bool :=
  c == '\t' || (0x20 ≤ c.toNat && c.toNat ≠ 0x7F)

/-- The character whose number the first `width` characters spell. -/
def numbered? (width : Nat) (text : List Char) : Option (Char × List Char) := do
  let digits := text.take width
  guard (digits.length = width)
  let point ← Hex.number? digits
  guard (point < 0xD800 ∨ (0xE000 ≤ point ∧ point < 0x110000))
  pure (Char.ofNat point, text.drop width)

/-- What a backslash and the characters behind it stand for. -/
def escaped? : List Char → Option (Char × List Char)
  | 'b' :: rest => some ('\x08', rest)
  | 't' :: rest => some ('\t', rest)
  | 'n' :: rest => some ('\n', rest)
  | 'f' :: rest => some ('\x0C', rest)
  | 'r' :: rest => some ('\r', rest)
  | 'e' :: rest => some ('\x1B', rest)
  | '"' :: rest => some ('"', rest)
  | '\\' :: rest => some ('\\', rest)
  | 'x' :: rest => numbered? 2 rest
  | 'u' :: rest => numbered? 4 rest
  | 'U' :: rest => numbered? 8 rest
  | _ => none

def putBefore (c : Char) (read : List Char × List Char) : List Char × List Char :=
  (c :: read.1, read.2)

/-- A text on one line, with escapes. -/
def basic? : Nat → List Char → Option (List Char × List Char)
  | 0, _ => none
  | _ + 1, [] => none
  | _ + 1, '"' :: rest => some ([], rest)
  | fuel + 1, '\\' :: rest => do
    let (c, rest) ← escaped? rest
    putBefore c <$> basic? fuel rest
  | fuel + 1, c :: rest => if isPlain c then putBefore c <$> basic? fuel rest else none

/-- A text on one line in which every character stands for itself. -/
def literal? : List Char → Option (List Char × List Char)
  | [] => none
  | '\'' :: rest => some ([], rest)
  | c :: rest => if isPlain c then putBefore c <$> literal? rest else none

/-- What follows a line break, if there is one at the front. -/
def newLine? : List Char → Option (List Char)
  | '\n' :: rest => some rest
  | '\r' :: '\n' :: rest => some rest
  | _ => none

def isSpace (c : Char) : Bool := c == ' ' || c == '\t'

def skipSpaces (text : List Char) : List Char := text.dropWhile isSpace

/-- A break directly behind the opening quotes does not count. -/
def skipNewLine (text : List Char) : List Char := (newLine? text).getD text

/-- White space over any number of lines. -/
def skipBlankLines : Nat → List Char → List Char
  | 0, text => text
  | fuel + 1, text =>
    let text := skipSpaces text
    match newLine? text with
    | some rest => skipBlankLines fuel rest
    | none => text

/-- Three quotes or more end a text of several lines; up to two of them still belong to it. -/
def closing? (quote : Char) (text : List Char) : Option (List Char × List Char) :=
  let count := (text.takeWhile (· = quote)).length
  if 3 ≤ count ∧ count ≤ 5 then some (List.replicate (count - 3) quote, text.drop count) else none

/-- A text of several lines, with escapes. A backslash at the end of a line joins it to the next
text there is. -/
def basicLines? : Nat → List Char → Option (List Char × List Char)
  | 0, _ => none
  | _ + 1, [] => none
  | fuel + 1, '"' :: rest =>
    match closing? '"' ('"' :: rest) with
    | some closed => some closed
    | none => if rest.take 2 = ['"', '"'] then none else putBefore '"' <$> basicLines? fuel rest
  | fuel + 1, '\\' :: rest =>
    match newLine? (skipSpaces rest) with
    | some below => basicLines? fuel (skipBlankLines below.length below)
    | none => do
      let (c, rest) ← escaped? rest
      putBefore c <$> basicLines? fuel rest
  | fuel + 1, '\r' :: '\n' :: rest => putBefore '\n' <$> basicLines? fuel rest
  | fuel + 1, c :: rest =>
    if isPlain c || c == '\n' then putBefore c <$> basicLines? fuel rest else none

/-- A text of several lines in which every character stands for itself. -/
def literalLines? : Nat → List Char → Option (List Char × List Char)
  | 0, _ => none
  | _ + 1, [] => none
  | fuel + 1, '\'' :: rest =>
    match closing? '\'' ('\'' :: rest) with
    | some closed => some closed
    | none =>
      if rest.take 2 = ['\'', '\''] then none else putBefore '\'' <$> literalLines? fuel rest
  | fuel + 1, '\r' :: '\n' :: rest => (putBefore '\r' ∘ putBefore '\n') <$> literalLines? fuel rest
  | fuel + 1, c :: rest =>
    if isPlain c || c == '\n' then putBefore c <$> literalLines? fuel rest else none

/-- A text in quotes of any kind. -/
def text? (source : List Char) : Option (List Char × List Char) :=
  match source with
  | '"' :: '"' :: '"' :: rest => basicLines? source.length (skipNewLine rest)
  | '"' :: rest => basic? source.length rest
  | '\'' :: '\'' :: '\'' :: rest => literalLines? source.length (skipNewLine rest)
  | '\'' :: rest => literal? rest
  | _ => none

def isKeyCharacter (c : Char) : Bool := c.isAlphanum || c == '_' || c == '-'

/-- One part of a key: bare, or in quotes on one line. -/
def keyPart? (source : List Char) : Option (String × List Char) :=
  match source with
  | '"' :: rest => (basic? source.length rest).map fun (c, rest) => (String.ofList c, rest)
  | '\'' :: rest => (literal? rest).map fun (c, rest) => (String.ofList c, rest)
  | _ =>
    let bare := source.takeWhile isKeyCharacter
    if bare.isEmpty then none else some (String.ofList bare, source.dropWhile isKeyCharacter)

/-- A key of several parts with dots between them. -/
def key? : Nat → List Char → Option (List String × List Char)
  | 0, _ => none
  | fuel + 1, source => do
    let (part, rest) ← keyPart? (skipSpaces source)
    match skipSpaces rest with
    | '.' :: rest =>
      let (parts, rest) ← key? fuel rest
      pure (part :: parts, rest)
    | rest => pure ([part], rest)

/-- How many containers, or parts of a key, may stand inside each other. -/
def nestingLimit : Nat := 80

end SchemaLedger.Toml
