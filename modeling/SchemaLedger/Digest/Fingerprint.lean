import SchemaLedger.Digest.Sha256
import SchemaLedger.Json.Canonical
import SchemaLedger.Record.Shape
import SchemaLedger.Text.Hex
import SchemaLedger.Text.Utf8

namespace SchemaLedger

inductive DigestAlgorithm
  | sha256
deriving DecidableEq, Repr

/-- A digest as it is recorded: how it was made, and its bytes in hexadecimal. -/
structure Digest where
  algorithm : DigestAlgorithm
  value : String
deriving DecidableEq, Repr

namespace Digest

def ofBytes (algorithm : DigestAlgorithm) (bytes : List UInt8) : Digest :=
  ⟨algorithm, Hex.encode bytes⟩

def compute (algorithm : DigestAlgorithm) (message : List UInt8) : Digest :=
  match algorithm with
  | .sha256 => ofBytes .sha256 (SchemaLedger.sha256 message)

def algorithmCodec : Codec DigestAlgorithm :=
  .label (fun | .sha256 => "sha256") fun label => if label = "sha256" then some .sha256 else none

def codec : Codec Digest :=
  (Shape.required "algorithm" algorithmCodec <| .required "value" .string .done).record
    (fun (algorithm, value, ()) => ⟨algorithm, value⟩) fun d => (d.algorithm, d.value, ())

end Digest

/-- The canonical text of a schema text, if that is JSON. -/
def canonicalText? (body : String) : Option String :=
  (Json.parse? body).map Json.canonical

/-- The text whose bytes are digested. -/
def digestedText (body : String) : String :=
  (canonicalText? body).getD body

def fingerprint (body : String) : String :=
  (Digest.compute .sha256 (Utf8.encode (digestedText body))).value

end SchemaLedger
