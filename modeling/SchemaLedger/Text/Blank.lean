namespace SchemaLedger

/-- The code points with the property White_Space. -/
def blankPoints : List (Nat × Nat) :=
  [(0x09, 0x0D), (0x20, 0x20), (0x85, 0x85), (0xA0, 0xA0), (0x1680, 0x1680), (0x2000, 0x200A),
    (0x2028, 0x2029), (0x202F, 0x202F), (0x205F, 0x205F), (0x3000, 0x3000)]

def isBlank (c : Char) : Bool :=
  blankPoints.any fun (first, last) => first ≤ c.toNat && c.toNat ≤ last

/-- The text without the white space before its first and behind its last other character. -/
def trimBlank (text : String) : String :=
  let front := text.toList.dropWhile isBlank
  String.ofList (front.reverse.dropWhile isBlank).reverse

end SchemaLedger
