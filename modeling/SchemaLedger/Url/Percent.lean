import SchemaLedger.Text.Hex
import SchemaLedger.Text.Utf8

namespace SchemaLedger.Percent

def isControl (c : Char) : Bool := c.toNat < 0x20 || c.toNat == 0x7F

/-- The characters that a fragment encodes. -/
def inFragment (c : Char) : Bool :=
  isControl c || c ∈ [' ', '"', '<', '>', '\x60']

def inPath (c : Char) : Bool :=
  inFragment c || c ∈ ['#', '?', '\x7b', '\x7d']

/-- A segment that is put in as a whole encodes what would divide it or look encoded already. -/
def inSegment (c : Char) : Bool :=
  inPath c || c ∈ ['/', '%', '\\']

def inUserinfo (c : Char) : Bool :=
  inPath c || c ∈ ['/', ':', ';', '=', '@', '[', '\\', ']', '^', '|']

def inQuery (c : Char) : Bool :=
  isControl c || c ∈ [' ', '"', '#', '<', '>']

/-- Addresses of well-known schemes encode the single quote too. -/
def inSpecialQuery (c : Char) : Bool := inQuery c || c == '\''

def encodeByte (b : UInt8) : List Char :=
  '%' :: [Nat.digitChar (b.toNat / 16), Nat.digitChar (b.toNat % 16)].map Char.toUpper

def encodeChar (encoded : Char → Bool) (c : Char) : List Char :=
  if c.toNat < 0x80 ∧ !encoded c then [c]
  else (Utf8.encode (String.singleton c)).flatMap encodeByte

def encode (encoded : Char → Bool) (text : List Char) : List Char :=
  text.flatMap (encodeChar encoded)

/-- Reads back what was encoded. A percent sign without two digits behind it stands for itself. -/
def decode : List Char → List UInt8
  | [] => []
  | '%' :: a :: b :: rest =>
    match Hex.number? [a, b] with
    | some n => UInt8.ofNat n :: decode rest
    | none => 0x25 :: decode (a :: b :: rest)
  | c :: rest => Utf8.encode (String.singleton c) ++ decode rest

end SchemaLedger.Percent
