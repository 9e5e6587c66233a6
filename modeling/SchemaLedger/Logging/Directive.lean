import SchemaLedger.Logging.Level
import SchemaLedger.Logging.Pattern
import SchemaLedger.Text.Alphanumeric
import SchemaLedger.Text.Blank
import SchemaLedger.Text.Path

namespace SchemaLedger

/-- Where nothing is named everything is meant. -/
structure Directive where
  target : Option String
  span : Option String
  field : Option String
  threshold : Threshold
deriving DecidableEq, Repr

namespace Directive

/-- What follows a target or a span: nothing, or a level behind an equals sign. Without a level all
events pass. Blanks around the directive keep its level from being read. -/
def ending? (padded : Bool) : List Char → Option Threshold
  | [] => some (some .trace)
  | '=' :: level =>
    if padded then none
    else if level.isEmpty then some (some .trace)
    else Threshold.ofLabel? (String.ofList level)
  | _ => none

/-- A field may have a value, which is a pattern. -/
def isField (field : List Char) : Bool :=
  !field.isEmpty &&
    match (splitAtEach (· == '=') field).map String.ofList with
    | _ :: value :: _ => Pattern.isReadable value
    | _ => true

/-- A span and what follows it, from behind its opening bracket on. -/
def span? (padded : Bool) (target : Option String) (text : List Char) : Option Directive :=
  let isEnd (c : Char) : Bool := c == ']' || c == '\x7b'
  let name := text.takeWhile fun c => !isEnd c
  let span := if name.isEmpty then none else some (String.ofList name)
  match text.dropWhile fun c => !isEnd c with
  | [] => none
  | mark :: rest =>
    if mark = ']' then (ending? padded rest).map fun threshold => ⟨target, span, none, threshold⟩
    else
      let field := rest.takeWhile (· ≠ '\x7d')
      match rest.drop field.length with
      | _ :: ']' :: rest =>
        if isField field then
          (ending? padded rest).map fun threshold =>
            ⟨target, span, some (String.ofList field), threshold⟩
        else none
      | _ => none

def isStart (c : Char) : Bool :=
  isAlphanumeric c || c ∈ ['-', ':', '_']

/-- Reads a directive. A single word is a level if there is one of that name, and a target if
not. -/
def parse? (text : String) : Option Directive :=
  let bare := trimBlank text
  let padded := bare ≠ text
  match bare.toList with
  | [] => none
  | '[' :: rest => span? padded none rest
  | first :: others =>
    if isStart first then
      let isEnd (c : Char) : Bool := c == '=' || c == '['
      let name := String.ofList ((first :: others).takeWhile fun c => !isEnd c)
      match (first :: others).dropWhile fun c => !isEnd c with
      | [] =>
        match Threshold.ofLabel? text with
        | some threshold => some ⟨none, none, none, threshold⟩
        | none => some ⟨some text, none, none, some .trace⟩
      | '[' :: rest => span? padded (some name) rest
      | rest => (ending? padded rest).map fun threshold => ⟨some name, none, none, threshold⟩
    else none

end Directive

/-- The directives of a text, which are divided by commas. -/
def LogFilter.parse? (text : String) : Option (List Directive) :=
  let parts := (splitAtEach (· == ',') text.toList).map String.ofList
  (parts.filter (· ≠ "")).mapM Directive.parse?

/-- Whether an event passes. The directive that names the longest beginning of its target decides,
and directives for spans do not count outside of spans. Without any directive only errors pass. -/
def LogFilter.admits (directives : List Directive) (target : String) (level : Level) : Bool :=
  let fitting := directives.filter fun d =>
    d.span.isNone && d.field.isNone && d.target.all fun t => t.isPrefixOf target
  let length (d : Directive) : Nat := (d.target.map String.length).getD 0
  match fitting with
  | [] => directives.isEmpty && level == .error
  | first :: others =>
    (others.foldl (fun best d => if length best ≤ length d then d else best) first).threshold.admits
      level

end SchemaLedger
