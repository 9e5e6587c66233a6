import SchemaLedger.Json.Value

namespace SchemaLedger

mutual

/-- Members in their order and no white space. -/
def Json.render : Json → String
  | .null => "null"
  | .bool true => "true"
  | .bool false => "false"
  | .number value => value.render .plain
  | .string value => Quoted.render value
  | .array items => "[" ++ ",".intercalate (Json.renderItems items) ++ "]"
  | .object members => "\x7b" ++ ",".intercalate (Json.renderMembers members) ++ "\x7d"

def Json.renderItems : List Json → List String
  | [] => []
  | item :: rest => item.render :: Json.renderItems rest

def Json.renderMembers : List (String × Json) → List String
  | [] => []
  | (key, value) :: rest =>
    (Quoted.render key ++ ":" ++ value.render) :: Json.renderMembers rest

end

/-- A line break and two blanks for every container around it. -/
def Json.newLine (depth : Nat) : String :=
  String.ofList ('\n' :: List.replicate (2 * depth) ' ')

mutual

/-- One item or member a line; empty containers stay on their line. -/
def Json.indented (depth : Nat) : Json → String
  | .array [] => "[]"
  | .object [] => "\x7b\x7d"
  | .array items =>
    "[" ++ ",".intercalate (Json.indentedItems (depth + 1) items) ++ Json.newLine depth ++ "]"
  | .object members =>
    "\x7b" ++ ",".intercalate (Json.indentedMembers (depth + 1) members) ++ Json.newLine depth ++
      "\x7d"
  | value => value.render

def Json.indentedItems (depth : Nat) : List Json → List String
  | [] => []
  | item :: rest => (Json.newLine depth ++ item.indented depth) :: Json.indentedItems depth rest

def Json.indentedMembers (depth : Nat) : List (String × Json) → List String
  | [] => []
  | (key, value) :: rest =>
    (Json.newLine depth ++ Quoted.render key ++ ": " ++ value.indented depth) ::
      Json.indentedMembers depth rest

end

def Json.pretty (value : Json) : String := value.indented 0

end SchemaLedger
