import SchemaLedger.Toml.Scalar

namespace SchemaLedger.Toml

inductive TableOrigin
  | header | passed | dotted
deriving DecidableEq, Repr

/-- Values are closed. A row of tables grows at its last one. -/
inductive Node
  | value (value : Toml)
  | table (origin : TableOrigin) (members : List (String × Node))
  | tables (elements : List (List (String × Node)))
deriving Inhabited

abbrev Members := List (String × Node)

def replace (members : Members) (key : String) (node : Node) : Members :=
  members.map fun m => if m.1 = key then (key, node) else m

/-- Changes the table at the end of a path. Missing tables are made; `byKey` tells a dotted key from
a header, and a dotted key does not enter a table that a header named. -/
def Members.descend? (byKey : Bool) (change : TableOrigin → Members → Option Members) :
    List String → TableOrigin → Members → Option Members
  | [], origin, members => change origin members
  | key :: path, _, members =>
    match members.lookup key with
    | none => do
      let origin := if byKey then TableOrigin.dotted else .passed
      let inner ← Members.descend? byKey change path origin []
      pure (members ++ [(key, .table origin inner)])
    | some (.table origin inner) => do
      guard ¬(byKey ∧ origin = .header)
      let inner ← Members.descend? byKey change path origin inner
      pure (replace members key (.table origin inner))
    | some (.tables elements) => do
      let last ← elements.getLast?
      let inner ← Members.descend? byKey change path .header last
      pure (replace members key (.tables (elements.dropLast ++ [inner])))
    | some (.value _) => none

/-- Adds a value under a dotted key to the table at the front of the path. -/
def Members.insert? (path : List String) (value : Toml) (members : Members) : Option Members := do
  let last ← path.getLast?
  let inner := path.dropLast
  members.descend? true (fun origin table => do
    guard (inner.isEmpty ∨ origin = .dotted)
    guard (table.lookup last).isNone
    pure (table ++ [(last, .value value)])) inner .header

/-- Names a table by a header. A table that was only passed through keeps what it holds. -/
def Members.openTable? (path : List String) (members : Members) : Option Members := do
  let last ← path.getLast?
  members.descend? false (fun _ table =>
    match table.lookup last with
    | none => some (table ++ [(last, .table .header [])])
    | some (.table .passed inner) => some (replace table last (.table .header inner))
    | some _ => none) path.dropLast .header

/-- Adds a table to a row of tables. -/
def Members.addTable? (path : List String) (members : Members) : Option Members := do
  let last ← path.getLast?
  members.descend? false (fun _ table =>
    match table.lookup last with
    | none => some (table ++ [(last, .tables [[]])])
    | some (.tables elements) => some (replace table last (.tables (elements ++ [[]])))
    | some _ => none) path.dropLast .header

/-- Changes the table that the last header named. -/
def Members.within? (change : Members → Option Members) :
    List String → Members → Option Members
  | [], members => change members
  | key :: path, members =>
    match members.lookup key with
    | some (.table origin inner) => do
      let inner ← Members.within? change path inner
      pure (replace members key (.table origin inner))
    | some (.tables elements) => do
      let last ← elements.getLast?
      let inner ← Members.within? change path last
      pure (replace members key (.tables (elements.dropLast ++ [inner])))
    | _ => none

mutual

def Node.freeze : Node → Toml
  | .value value => value
  | .table _ members => .table (freezeMembers members)
  | .tables elements => .array (freezeElements elements)

def freezeMembers : List (String × Node) → List (String × Toml)
  | [] => []
  | (key, node) :: rest => (key, node.freeze) :: freezeMembers rest

def freezeElements : List (List (String × Node)) → List Toml
  | [] => []
  | members :: rest => .table (freezeMembers members) :: freezeElements rest

end

end SchemaLedger.Toml
