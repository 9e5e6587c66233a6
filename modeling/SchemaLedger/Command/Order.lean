import SchemaLedger.Sync.Span

namespace SchemaLedger

/-- What the program is asked to do. -/
inductive Order
  | sync
  | serve (interval : Option Interval)
  | validate
  | list
  | describe (subject : String)
deriving DecidableEq, Repr

/-- An order and the file of the settings, if one is named. -/
structure Invocation where
  order : Order
  settingsPath : Option String
deriving DecidableEq, Repr

/-- A point of the command line up to which words have chosen what is to be done. -/
inductive Scope
  | program | config | catalog | sync | serve | validate | list | describe
deriving DecidableEq, Repr

namespace Scope

/-- The scope that a word leads to. -/
def enter? : Scope → String → Option Scope
  | program, "sync" => some sync
  | program, "serve" => some serve
  | program, "config" => some config
  | program, "catalog" => some catalog
  | config, "validate" => some validate
  | catalog, "list" => some list
  | catalog, "show" => some describe
  | _, _ => none

def words : Scope → List String
  | program => ["schema-catalog"]
  | config => ["schema-catalog", "config"]
  | catalog => ["schema-catalog", "catalog"]
  | sync => ["schema-catalog", "sync"]
  | serve => ["schema-catalog", "serve"]
  | validate => ["schema-catalog", "config", "validate"]
  | list => ["schema-catalog", "catalog", "list"]
  | describe => ["schema-catalog", "catalog", "show"]

def about : Scope → String
  | program => "Keeps a catalog of the schemas of a registry"
  | config => "Configuration utilities"
  | catalog => "Catalog inspection utilities"
  | sync => "Run one sync pass and print its metrics as JSON"
  | serve => "Run sync passes on the configured interval until interrupted"
  | validate => "Validate a schema-catalog configuration file"
  | list => "List every cataloged subject"
  | describe => "Show one subject and its persisted versions"

def below : Scope → List Scope
  | program => [sync, serve, config, catalog]
  | config => [validate]
  | catalog => [list, describe]
  | _ => []

def padded (width : Nat) (text : String) : String :=
  text ++ String.ofList (List.replicate (width - text.length) ' ')

def rows (title : String) (rows : List (String × String)) : List String :=
  if rows.isEmpty then []
  else
    let width := (rows.map fun r => r.1.length).foldl max 0
    ["", title] ++ rows.map fun (name, text) => "  " ++ padded width name ++ "  " ++ text

def options (scope : Scope) : List (String × String) :=
  (if scope = serve then [("    --interval-secs <SECONDS>", "Override sync.interval_secs")]
    else []) ++
    [("    --config <PATH>",
        "Optional config file path (defaults to schema-catalog.toml or env override)"),
      ("-h, --help", "Print help")] ++
    (if scope = program then [("-V, --version", "Print version")] else [])

/-- What is told to someone who asks for help. -/
def help (scope : Scope) : String :=
  let commands := scope.below.map fun s => ((s.words.getLast?).getD "", s.about)
  let arguments := if scope = describe then [("<SUBJECT>", "Subject name")] else []
  let usage := " ".intercalate (["Usage:"] ++ scope.words ++ ["[OPTIONS]"] ++
    (if commands.isEmpty then [] else ["<COMMAND>"]) ++ arguments.map (·.1))
  "\n".intercalate ([scope.about, "", usage] ++ rows "Commands:" commands ++
    rows "Arguments:" arguments ++ rows "Options:" scope.options)

end Scope

/-- Why there is no order to carry out. -/
inductive Halt
  | help (scope : Scope)
  | version
  | misuse (reason : String)
deriving DecidableEq, Repr

def versionText : String := "schema-catalog 0.1.0"

namespace Halt

/-- Asking for help is no fault. -/
def exitCode : Halt → Nat
  | misuse _ => 2
  | _ => 0

def text : Halt → String
  | help scope => scope.help
  | version => versionText
  | misuse reason => "error: " ++ reason

end Halt

end SchemaLedger
