import SchemaLedger.Registry.Exchange
import SchemaLedger.Text.Blank
import SchemaLedger.Text.Count
import SchemaLedger.Text.Hex
import SchemaLedger.Text.Search

namespace SchemaLedger

namespace HttpRequest

/-- The host as a request names it. -/
def hostText (request : HttpRequest) : String :=
  String.ofList request.url.host ++ match request.url.port with
    | none => ""
    | some port => ":" ++ toString port

/-- The text of a request, after whose answer the connection ends. -/
def text (request : HttpRequest) : String :=
  let headers := [("host", request.hostText), ("accept", request.accept),
      ("user-agent", request.userAgent)] ++
    (request.authorization.map fun value => ("authorization", value)).toList ++
    [("connection", "close")]
  let lines := ("GET " ++ request.url.target ++ " HTTP/1.1") ::
    headers.map fun (name, value) => name ++ ": " ++ value
  String.join (lines.map (· ++ "\r\n")) ++ "\r\n"

end HttpRequest

namespace HttpResponse

/-- The line that bytes begin with, without its break, and what follows it. -/
def cutLine : List UInt8 → Option (List UInt8 × List UInt8)
  | [] => none
  | 0x0D :: 0x0A :: rest => some ([], rest)
  | 0x0A :: rest => some ([], rest)
  | b :: rest => (cutLine rest).map fun (line, rest) => (b :: line, rest)

/-- The lines up to the first empty one, and what follows that. -/
def cutHead : Nat → List UInt8 → Option (List String × List UInt8)
  | 0, _ => none
  | fuel + 1, bytes => do
    let (line, rest) ← cutLine bytes
    if line.isEmpty then pure ([], rest)
    else
      let (lines, rest) ← cutHead fuel rest
      pure (Utf8.decodeLossy line :: lines, rest)

/-- The status in the first line of a head. -/
def status? (line : String) : Option Nat :=
  match (splitAtEach (· == ' ') line.toList).map String.ofList with
  | protocol :: code :: _ =>
    if startsWith "HTTP/1." protocol ∧ code.length = 3 then count? code else none
  | _ => none

/-- The value of a header, whose name counts in any case. -/
def header? (name : String) (lines : List String) : Option String :=
  lines.findSome? fun line =>
    let key := line.toList.takeWhile (· ≠ ':')
    if (String.ofList key).toLower = name then
      some (trimBlank (String.ofList (line.toList.drop (key.length + 1))))
    else none

def cutShort : Body := .broken "connection closed before message completed"

/-- A body of a given length. -/
def sized (length : Nat) (bytes : List UInt8) : Body :=
  .chunk (bytes.take length) (if length ≤ bytes.length then .ended else cutShort)

/-- A body in chunks, each behind a line with its length in hexadecimal digits; an empty chunk comes
last. -/
def chunked : Nat → List UInt8 → Body
  | 0, _ => cutShort
  | fuel + 1, bytes =>
    match cutLine bytes with
    | none => cutShort
    | some (line, rest) =>
      let digits := (Utf8.decodeLossy line).toList.takeWhile fun c => c ≠ ';' && !isBlank c
      match digits, Hex.number? digits with
      | _ :: _, some 0 => .ended
      | _ :: _, some length =>
        if length ≤ rest.length then
          match cutLine (rest.drop length) with
          | some ([], rest') => .chunk (rest.take length) (chunked fuel rest')
          | _ => cutShort
        else cutShort
      | _, _ => .broken "invalid chunk size line"

/-- Reads an answer from all bytes that came before the connection ended. -/
def ofBytes? (bytes : List UInt8) : Option HttpResponse := do
  let (lines, rest) ← cutHead bytes.length bytes
  match lines with
  | [] => none
  | first :: headers =>
    let status ← status? first
    let body :=
      if (header? "transfer-encoding" headers).any fun value => value.toLower = "chunked" then
        chunked rest.length rest
      else match (header? "content-length" headers).bind count? with
        | some length => sized length rest
        | none => .chunk rest .ended
    pure ⟨status, body⟩

end HttpResponse

end SchemaLedger
