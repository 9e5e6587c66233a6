import SchemaLedger.Json.Quoted
import SchemaLedger.Text.Utf8

namespace SchemaLedger

inductive Document
  | null
  | bool (value : Bool)
  | number (value : Numeral)
  | string (value : Quoted)
  | array (items : List Document)
  | object (members : List (Quoted × Document))
deriving BEq, Repr, Inhabited

/-- A container that is still open, with what it holds so far, newest first. -/
inductive Document.Frame
  | items (before : List Document)
  | members (before : List (Quoted × Document)) (key : Quoted)

/-- What may come next while a document is read. -/
inductive Document.Building
  | atValue (frames : List Document.Frame)
  | atFirstItem (frames : List Document.Frame)
  | atFirstKey (frames : List Document.Frame)
  | atKey (frames : List Document.Frame) (before : List (Quoted × Document))
  | atColon (frames : List Document.Frame) (before : List (Quoted × Document)) (key : Quoted)
  | behind (frames : List Document.Frame) (document : Document)

/-- The lexeme where a value has to stand. -/
def Document.Building.begin? (frames : List Document.Frame) : Lexeme → Option Document.Building
  | .null => some (.behind frames .null)
  | .bool value => some (.behind frames (.bool value))
  | .number value => some (.behind frames (.number value))
  | .string value => some (.behind frames (.string value))
  | .openBracket => some (.atFirstItem frames)
  | .openBrace => some (.atFirstKey frames)
  | _ => none

def Document.Building.next? : Document.Building → Lexeme → Option Document.Building
  | .atValue frames, lexeme => Document.Building.begin? frames lexeme
  | .atFirstItem frames, .closeBracket => some (.behind frames (.array []))
  | .atFirstItem frames, lexeme => Document.Building.begin? (.items [] :: frames) lexeme
  | .atFirstKey frames, .closeBrace => some (.behind frames (.object []))
  | .atFirstKey frames, .string key => some (.atColon frames [] key)
  | .atKey frames before, .string key => some (.atColon frames before key)
  | .atColon frames before key, .colon => some (.atValue (.members before key :: frames))
  | .behind (.items before :: frames) d, .comma => some (.atValue (.items (d :: before) :: frames))
  | .behind (.items before :: frames) d, .closeBracket =>
    some (.behind frames (.array (d :: before).reverse))
  | .behind (.members before key :: frames) d, .comma => some (.atKey frames ((key, d) :: before))
  | .behind (.members before key :: frames) d, .closeBrace =>
    some (.behind frames (.object ((key, d) :: before).reverse))
  | _, _ => none

def Document.ofLexemes? (lexemes : List Lexeme) : Option Document :=
  match lexemes.foldlM Document.Building.next? (.atValue []) with
  | some (.behind [] document) => some document
  | _ => none

/-- The document that characters spell, gaps among them, with nothing but white space around it. -/
def Document.ofRunes? (runes : List (Option Char)) : Option Document := do
  let lexemes ← Lexeme.scan? runes
  Document.ofLexemes? lexemes

def Document.parse? (text : String) : Option Document :=
  Document.ofRunes? (text.toList.map some)

/-- Bytes need not be text where nobody reads them: a string may hold anything. -/
def Document.ofBytes? (bytes : List UInt8) : Option Document :=
  Document.ofRunes? (Utf8.runes bytes)

/-- The members of an object with their keys read, or nothing when a key spells no text. -/
def Document.readKeys? (members : List (Quoted × Document)) : Option (List (String × Document)) :=
  members.mapM fun (key, document) => (key.text?).map (·, document)

end SchemaLedger
