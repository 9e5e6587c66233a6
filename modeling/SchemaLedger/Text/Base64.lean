namespace SchemaLedger

def Base64.alphabet : List Char :=
  "ABCDEFGHIJKLMNOPQRSTUVWXYZabcdefghijklmnopqrstuvwxyz0123456789+/".toList

def Base64.digit (n : Nat) : Char :=
  Base64.alphabet.getD (n % 64) '='

/-- Three bytes make four characters; a last group of one or two bytes is filled up with `=`. -/
def Base64.characters : List UInt8 → List Char
  | a :: b :: c :: rest =>
    let n := a.toNat * 65536 + b.toNat * 256 + c.toNat
    Base64.digit (n / 262144) :: Base64.digit (n / 4096) :: Base64.digit (n / 64) ::
      Base64.digit n :: Base64.characters rest
  | [a, b] =>
    let n := a.toNat * 65536 + b.toNat * 256
    [Base64.digit (n / 262144), Base64.digit (n / 4096), Base64.digit (n / 64), '=']
  | [a] =>
    let n := a.toNat * 65536
    [Base64.digit (n / 262144), Base64.digit (n / 4096), '=', '=']
  | [] => []

def Base64.encode (bytes : List UInt8) : String :=
  String.ofList (Base64.characters bytes)

end SchemaLedger
