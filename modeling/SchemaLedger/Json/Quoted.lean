import SchemaLedger.Json.Lexeme

namespace SchemaLedger

/-- A character that stands for itself, or a unit of 16 bits that an escape names. -/
inductive Quoted.Piece
  | plain (c : Char)
  | unit (value : Nat)
deriving DecidableEq, Repr

def Quoted.shortEscape? : Char → Option Char
  | '"' => some '"'
  | '\\' => some '\\'
  | '/' => some '/'
  | 'b' => some '\x08'
  | 'f' => some '\x0C'
  | 'n' => some '\n'
  | 'r' => some '\r'
  | 't' => some '\t'
  | _ => none

/-- Neither a quote nor a backslash nor a control character stands for itself. -/
def Quoted.pieces? : Quoted → Option (List Quoted.Piece)
  | [] => some []
  | '\\' :: 'u' :: a :: b :: c :: d :: rest => do
    let value ← Hex.number? [a, b, c, d]
    let pieces ← Quoted.pieces? rest
    pure (.unit value :: pieces)
  | '\\' :: c :: rest => do
    let short ← Quoted.shortEscape? c
    let pieces ← Quoted.pieces? rest
    pure (.plain short :: pieces)
  | c :: rest => do
    guard (c ≠ '"' ∧ c ≠ '\\' ∧ 0x20 ≤ c.toNat)
    let pieces ← Quoted.pieces? rest
    pure (.plain c :: pieces)

/-- Two units of a surrogate pair make one character; a surrogate without its partner makes none. -/
def Quoted.join? : List Quoted.Piece → Option (List Char)
  | [] => some []
  | .unit high :: .unit low :: rest =>
    if 0xD800 ≤ high ∧ high < 0xDC00 then
      if 0xDC00 ≤ low ∧ low < 0xE000 then
        (Quoted.join? rest).map
          (Char.ofNat (0x10000 + (high - 0xD800) * 0x400 + (low - 0xDC00)) :: ·)
      else none
    else if 0xDC00 ≤ high ∧ high < 0xE000 then none
    else (Quoted.join? (.unit low :: rest)).map (Char.ofNat high :: ·)
  | .unit value :: rest =>
    if 0xD800 ≤ value ∧ value < 0xE000 then none
    else (Quoted.join? rest).map (Char.ofNat value :: ·)
  | .plain c :: rest => (Quoted.join? rest).map (c :: ·)

/-- The text that the characters between the quotes spell. -/
def Quoted.text? (quoted : Quoted) : Option String := do
  let pieces ← Quoted.pieces? quoted
  let characters ← Quoted.join? pieces
  pure (String.ofList characters)

/-- Only the quote, the backslash and the characters below the blank are escaped, the common ones of
them by a letter. -/
def Quoted.escape (c : Char) : List Char :=
  match c with
  | '"' => ['\\', '"']
  | '\\' => ['\\', '\\']
  | '\x08' => ['\\', 'b']
  | '\x0C' => ['\\', 'f']
  | '\n' => ['\\', 'n']
  | '\r' => ['\\', 'r']
  | '\t' => ['\\', 't']
  | c =>
    if c.toNat < 0x20 then
      ['\\', 'u', '0', '0', Nat.digitChar (c.toNat / 16), Nat.digitChar (c.toNat % 16)]
    else [c]

def Quoted.ofText (text : String) : Quoted :=
  text.toList.flatMap Quoted.escape

/-- A text with its quotes around it. -/
def Quoted.render (text : String) : String :=
  String.ofList ('"' :: (Quoted.ofText text ++ ['"']))

end SchemaLedger
