import SchemaLedger.Toml.Text
import SchemaLedger.Toml.Tree

namespace SchemaLedger.Toml

/-- A comment runs to the end of its line. -/
def skipComment? : List Char → Option (List Char)
  | '#' :: rest =>
    let comment := rest.takeWhile fun c => c != '\n' && c != '\r'
    if comment.all isPlain then some (rest.drop comment.length) else none
  | text => some text

/-- White space, line breaks and comments, as they may stand between the items of an array. -/
def skipFiller? : Nat → List Char → Option (List Char)
  | 0, text => some text
  | fuel + 1, text => do
    let text ← skipComment? (skipSpaces text)
    match newLine? text with
    | some rest => skipFiller? fuel rest
    | none => pure text

/-- The characters that a word without quotes may have. -/
def isScalarCharacter (c : Char) : Bool :=
  c.isAlphanum || c == '_' || c == '-' || c == '+' || c == '.' || c == ':'

/-- A word without quotes. One blank may stand between a date and a time. -/
def scalarWord (text : List Char) : List Char × List Char :=
  let word := text.takeWhile isScalarCharacter
  let rest := text.dropWhile isScalarCharacter
  match rest with
  | ' ' :: c :: more =>
    if date? word = some [] ∧ c.isDigit then
      (word ++ ' ' :: (c :: more).takeWhile isScalarCharacter,
        (c :: more).dropWhile isScalarCharacter)
    else (word, rest)
  | _ => (word, rest)

mutual

/-- A value, with what follows it; `depth` containers are open around it. -/
def value? : (fuel depth : Nat) → List Char → Option (Toml × List Char)
  | 0, _, _ => none
  | fuel + 1, depth, text =>
    match text with
    | '"' :: _ => (text? text).map fun (c, rest) => (.string (String.ofList c), rest)
    | '\'' :: _ => (text? text).map fun (c, rest) => (.string (String.ofList c), rest)
    | '[' :: rest => do
      guard (depth < nestingLimit)
      let (items, rest) ← items? fuel (depth + 1) rest
      pure (.array items, rest)
    | '\x7b' :: rest => do
      guard (depth < nestingLimit)
      let (members, rest) ← members? fuel (depth + 1) [] rest
      pure (.table (freezeMembers members), rest)
    | _ => do
      let (word, rest) := scalarWord text
      let value ← ofWord? word
      pure (value, rest)

/-- The items of an array and its closing bracket; a comma may follow the last item. -/
def items? : (fuel depth : Nat) → List Char → Option (List Toml × List Char)
  | 0, _, _ => none
  | fuel + 1, depth, text => do
    match ← skipFiller? text.length text with
    | ']' :: rest => pure ([], rest)
    | text =>
      let (value, rest) ← value? fuel depth text
      match ← skipFiller? rest.length rest with
      | ',' :: rest =>
        let (values, rest) ← items? fuel depth rest
        pure (value :: values, rest)
      | ']' :: rest => pure ([value], rest)
      | _ => none

/-- The members of a table in braces and its closing brace; a comma may follow the last member. -/
def members? : (fuel depth : Nat) → Members → List Char → Option (Members × List Char)
  | 0, _, _, _ => none
  | fuel + 1, depth, members, text => do
    match ← skipFiller? text.length text with
    | '\x7d' :: rest => pure (members, rest)
    | text =>
      let (path, rest) ← key? nestingLimit text
      match rest with
      | '=' :: rest =>
        let (value, rest) ← value? fuel depth (skipSpaces rest)
        let members ← members.insert? path value
        match ← skipFiller? rest.length rest with
        | ',' :: rest => members? fuel depth members rest
        | '\x7d' :: rest => pure (members, rest)
        | _ => none
      | _ => none

end

/-- What is left of a line may be a comment. -/
def lineEnd? (text : List Char) : Option (List Char) := do
  match ← skipComment? (skipSpaces text) with
  | [] => pure []
  | text => newLine? text

/-- The tables read so far and the path of the last header. -/
structure Reading where
  root : Members
  header : List String

/-- One line: nothing, a header, or a key with its value. -/
def Reading.line? (reading : Reading) (text : List Char) : Option (Reading × List Char) := do
  match skipSpaces text with
  | '[' :: '[' :: rest =>
    let (path, rest) ← key? nestingLimit rest
    match rest with
    | ']' :: ']' :: rest =>
      let root ← reading.root.addTable? path
      pure (⟨root, path⟩, ← lineEnd? rest)
    | _ => none
  | '[' :: rest =>
    let (path, rest) ← key? nestingLimit rest
    match rest with
    | ']' :: rest =>
      let root ← reading.root.openTable? path
      pure (⟨root, path⟩, ← lineEnd? rest)
    | _ => none
  | text =>
    if text.isEmpty || text.head? == some '#' || (newLine? text).isSome then
      pure (reading, ← lineEnd? text)
    else
      let (path, rest) ← key? nestingLimit text
      match rest with
      | '=' :: rest =>
        let (value, rest) ← value? text.length 0 (skipSpaces rest)
        let root ← reading.root.within? (·.insert? path value) reading.header
        pure (⟨root, reading.header⟩, ← lineEnd? rest)
      | _ => none

def Reading.lines? : Nat → Reading → List Char → Option Reading
  | _, reading, [] => some reading
  | 0, _, _ :: _ => none
  | fuel + 1, reading, text => do
    let (reading, rest) ← reading.line? text
    Reading.lines? fuel reading rest

/-- The table that a text spells. A mark of the byte order in front of it does not count. -/
def parse? (text : String) : Option (List (String × Toml)) := do
  let source := match text.toList with
    | '\uFEFF' :: rest => rest
    | source => source
  let reading ← Reading.lines? source.length ⟨[], []⟩ source
  pure (freezeMembers reading.root)

end SchemaLedger.Toml
