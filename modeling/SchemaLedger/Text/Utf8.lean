namespace SchemaLedger

def Utf8.encode (text : String) : List UInt8 :=
  text.toUTF8.toList

/-- What is still expected of a character whose first bytes have been read: the bits gathered so
far and the range that each byte to come has to lie in. -/
structure Utf8.Pending where
  bits : Nat
  awaited : List (Nat × Nat)

/-- The ranges of the second byte leave out surrogates, code points past the last one and
spellings longer than needed, so no check is left for the end of a character. -/
def Utf8.lead? (b : Nat) : Option Utf8.Pending :=
  let tail := (0x80, 0xBF)
  if b < 0x80 then some ⟨b, []⟩
  else if 0xC2 ≤ b ∧ b ≤ 0xDF then some ⟨b - 0xC0, [tail]⟩
  else if b = 0xE0 then some ⟨0, [(0xA0, 0xBF), tail]⟩
  else if b = 0xED then some ⟨0xD, [(0x80, 0x9F), tail]⟩
  else if 0xE1 ≤ b ∧ b ≤ 0xEF then some ⟨b - 0xE0, [tail, tail]⟩
  else if b = 0xF0 then some ⟨0, [(0x90, 0xBF), tail, tail]⟩
  else if b = 0xF4 then some ⟨4, [(0x80, 0x8F), tail, tail]⟩
  else if 0xF1 ≤ b ∧ b ≤ 0xF3 then some ⟨b - 0xF0, [tail, tail, tail]⟩
  else none

/-- The bytes read so far, newest rune first, and the character under way if there is one. -/
structure Utf8.Reading where
  runes : List (Option Char)
  pending : Option Utf8.Pending

def Utf8.Reading.begin (runes : List (Option Char)) (b : Nat) : Utf8.Reading :=
  match Utf8.lead? b with
  | none => ⟨none :: runes, none⟩
  | some ⟨bits, []⟩ => ⟨some (Char.ofNat bits) :: runes, none⟩
  | some pending => ⟨runes, some pending⟩

/-- A byte that does not continue the character under way ends it as a gap and begins anew. -/
def Utf8.Reading.next (reading : Utf8.Reading) (byte : UInt8) : Utf8.Reading :=
  let b := byte.toNat
  match reading.pending with
  | some ⟨bits, (first, last) :: later⟩ =>
    if first ≤ b ∧ b ≤ last then
      let bits := bits * 64 + (b - 0x80)
      if later.isEmpty then ⟨some (Char.ofNat bits) :: reading.runes, none⟩
      else ⟨reading.runes, some ⟨bits, later⟩⟩
    else Utf8.Reading.begin (none :: reading.runes) b
  | _ => Utf8.Reading.begin reading.runes b

/-- The characters that the bytes spell, with a gap for every longest stretch that begins like a
character and is none. -/
def Utf8.runes (bytes : List UInt8) : List (Option Char) :=
  let reading := bytes.foldl Utf8.Reading.next ⟨[], none⟩
  let runes := if reading.pending.isSome then none :: reading.runes else reading.runes
  runes.reverse

def Utf8.decode? (bytes : List UInt8) : Option String :=
  ((Utf8.runes bytes).mapM id).map String.ofList

/-- Every gap is shown as the replacement character. -/
def Utf8.decodeLossy (bytes : List UInt8) : String :=
  String.ofList ((Utf8.runes bytes).map (·.getD '\uFFFD'))

end SchemaLedger
