import SchemaLedger.Json.Number
import SchemaLedger.Text.Hex

namespace SchemaLedger

/-- The characters of a string between its quotes, escapes included. -/
abbrev Quoted := List Char

/-- What stands in a string for bytes that spell no character. No control character stands there as
it is, so this one is free. -/
def Quoted.gap : Char := '\x00'

inductive Lexeme
  | openBrace | closeBrace | openBracket | closeBracket | comma | colon
  | null | bool (value : Bool) | number (value : Numeral) | string (value : Quoted)
deriving DecidableEq, Repr

/-- Literals and numerals are runs of these characters, so that `nulls` or `1true` is one word and
no value. -/
def isWordCharacter (c : Char) : Bool :=
  c.isAlphanum || c == '+' || c == '-' || c == '.'

def Lexeme.ofWord? (word : List Char) : Option Lexeme :=
  if word = ['n', 'u', 'l', 'l'] then some .null
  else if word = ['t', 'r', 'u', 'e'] then some (.bool true)
  else if word = ['f', 'a', 'l', 's', 'e'] then some (.bool false)
  else (Numeral.ofWord? word).map .number

/-- Where a text is cut off while it is read: between lexemes, in a word, in a string, behind a
backslash, or with some hexadecimal digits still to come. Characters are held newest first. -/
inductive Scan.Place
  | between
  | word (reversed : List Char)
  | string (reversed : Quoted)
  | escape (reversed : Quoted)
  | digits (left : Nat) (reversed : Quoted)

structure Scan where
  lexemes : List Lexeme
  place : Scan.Place

def Scan.start : Scan := ⟨[], .between⟩

/-- A character that stands outside strings and belongs to no word. -/
def Scan.mark? (lexemes : List Lexeme) (c : Char) : Option Scan :=
  match c with
  | ' ' | '\t' | '\n' | '\r' => some ⟨lexemes, .between⟩
  | '\x7b' => some ⟨.openBrace :: lexemes, .between⟩
  | '\x7d' => some ⟨.closeBrace :: lexemes, .between⟩
  | '[' => some ⟨.openBracket :: lexemes, .between⟩
  | ']' => some ⟨.closeBracket :: lexemes, .between⟩
  | ',' => some ⟨.comma :: lexemes, .between⟩
  | ':' => some ⟨.colon :: lexemes, .between⟩
  | '"' => some ⟨lexemes, .string []⟩
  | _ => none

def Scan.next? (scan : Scan) (c : Char) : Option Scan :=
  match scan.place with
  | .between =>
    if isWordCharacter c then some ⟨scan.lexemes, .word [c]⟩ else Scan.mark? scan.lexemes c
  | .word reversed =>
    if isWordCharacter c then some ⟨scan.lexemes, .word (c :: reversed)⟩
    else do
      let lexeme ← Lexeme.ofWord? reversed.reverse
      Scan.mark? (lexeme :: scan.lexemes) c
  | .string reversed =>
    if c = '"' then some ⟨.string reversed.reverse :: scan.lexemes, .between⟩
    else if c = '\\' then some ⟨scan.lexemes, .escape (c :: reversed)⟩
    else if c.toNat < 0x20 then none
    else some ⟨scan.lexemes, .string (c :: reversed)⟩
  | .escape reversed =>
    if c = 'u' then some ⟨scan.lexemes, .digits 3 (c :: reversed)⟩
    else if c ∈ ['"', '\\', '/', 'b', 'f', 'n', 'r', 't'] then
      some ⟨scan.lexemes, .string (c :: reversed)⟩
    else none
  | .digits left reversed =>
    if (Hex.value? c).isNone then none
    else match left with
      | 0 => some ⟨scan.lexemes, .string (c :: reversed)⟩
      | left + 1 => some ⟨scan.lexemes, .digits left (c :: reversed)⟩

/-- Bytes that spell no character may stand between the quotes of a string and nowhere else. Whether
the string spells a text is a question for those who need it. -/
def Scan.nextRune? (scan : Scan) : Option Char → Option Scan
  | some c => scan.next? c
  | none => match scan.place with
    | .string reversed => some ⟨scan.lexemes, .string (Quoted.gap :: reversed)⟩
    | _ => none

/-- A text may end between lexemes or right behind a word. -/
def Scan.finish? (scan : Scan) : Option (List Lexeme) :=
  match scan.place with
  | .between => some scan.lexemes.reverse
  | .word reversed => (Lexeme.ofWord? reversed.reverse).map fun l => (l :: scan.lexemes).reverse
  | _ => none

/-- The lexemes of a text that may have gaps, or nothing when it has none. -/
def Lexeme.scan? (runes : List (Option Char)) : Option (List Lexeme) := do
  let scan ← runes.foldlM Scan.nextRune? Scan.start
  scan.finish?

end SchemaLedger
