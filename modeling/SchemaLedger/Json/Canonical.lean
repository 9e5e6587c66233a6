import SchemaLedger.Json.Value

namespace SchemaLedger

mutual

def Json.canonical : Json → String
  | .null => "null"
  | .bool true => "true"
  | .bool false => "false"
  | .number value => value.render .canonical
  | .string value => Quoted.render value
  | .array items => "[" ++ ",".intercalate (Json.canonicalItems items) ++ "]"
  | .object members =>
    let written := (Table.ofList (Json.canonicalMembers members)).entries
    "\x7b" ++ ",".intercalate (written.map fun (key, value) => key ++ ":" ++ value) ++ "\x7d"

def Json.canonicalItems : List Json → List String
  | [] => []
  | item :: rest => item.canonical :: Json.canonicalItems rest

/-- Each key as it is written, with the canonical text of its value. -/
def Json.canonicalMembers : List (String × Json) → List (String × String)
  | [] => []
  | (key, value) :: rest => (Quoted.render key, value.canonical) :: Json.canonicalMembers rest

end

end SchemaLedger
