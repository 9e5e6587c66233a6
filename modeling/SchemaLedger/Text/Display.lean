import SchemaLedger.Text.Hidden

namespace SchemaLedger

def Display.escape (c : Char) : List Char :=
  match c with
  | '"' => ['\\', '"']
  | '\\' => ['\\', '\\']
  | '\t' => ['\\', 't']
  | '\r' => ['\\', 'r']
  | '\n' => ['\\', 'n']
  | '\x00' => ['\\', '0']
  | c =>
    if isHidden c then
      ['\\', 'u', '\x7b'] ++ Nat.toDigits 16 c.toNat ++ ['\x7d']
    else [c]

def Display.text (text : String) : String :=
  String.ofList ('"' :: (text.toList.flatMap Display.escape ++ ['"']))

/-- A text that may be missing. -/
def Display.optional : Option String → String
  | none => "None"
  | some text => "Some(" ++ Display.text text ++ ")"

/-- A record with its fields already written. -/
def Display.record (name : String) (fields : List (String × String)) : String :=
  name ++ " \x7b " ++ ", ".intercalate (fields.map fun (key, value) => key ++ ": " ++ value) ++
    " \x7d"

/-- What stands in the place of a secret. -/
def Display.secret : Option String → String
  | none => "None"
  | some _ => "Some(" ++ Display.text "<redacted>" ++ ")"

end SchemaLedger
