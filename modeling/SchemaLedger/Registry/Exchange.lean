import SchemaLedger.Registry.ClientError
import SchemaLedger.Url.Url

namespace SchemaLedger

/-- A request for what stands at an address. -/
structure HttpRequest where
  url : Url
  authorization : Option String
  accept : String
  userAgent : String
deriving DecidableEq, Repr

/-- A body arrives in chunks, some of which may be empty, and may break off. -/
inductive Body
  | ended
  | broken (detail : String)
  | chunk (bytes : List UInt8) (rest : Body)
deriving Repr

/-- A body that arrives whole. -/
def Body.ofChunks : List (List UInt8) → Body
  | [] => ended
  | bytes :: rest => chunk bytes (ofChunks rest)

structure HttpResponse where
  status : Nat
  body : Body
deriving Repr

def HttpResponse.isSuccess (response : HttpResponse) : Bool :=
  200 ≤ response.status && response.status < 300

/-- Whoever carries requests; without an answer there is a reason. -/
def Network : Type := HttpRequest → Except String HttpResponse

/-- The bytes that have been taken over, and their number. -/
structure Buffer where
  bytes : List UInt8
  size : UInt64
deriving Repr

def Buffer.empty : Buffer := ⟨[], 0⟩

/-- Takes a chunk over, unless there would then be more bytes than allowed. A size that does not fit
a word is told as the greatest word. -/
def Buffer.take (limit : UInt64) (buffer : Buffer) (bytes : List UInt8) :
    Except ClientError Buffer :=
  let size := buffer.size.toNat + bytes.length
  if size < UInt64.size then
    if limit.toNat < size then .error (.tooLarge (.ofNat size) limit)
    else .ok ⟨buffer.bytes ++ bytes, .ofNat size⟩
  else .error (.tooLarge (.ofNat (UInt64.size - 1)) limit)

/-- Reads a body up to its end, its break or the first chunk that is too much. -/
def Body.read (limit : UInt64) (buffer : Buffer) : Body → Except ClientError (List UInt8)
  | ended => .ok buffer.bytes
  | broken detail => .error (.transport detail)
  | chunk bytes rest =>
    match buffer.take limit bytes with
    | .error error => .error error
    | .ok buffer => rest.read limit buffer

end SchemaLedger
