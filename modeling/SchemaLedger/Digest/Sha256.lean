namespace SchemaLedger

/-- The eight words that a block stirs. -/
structure Sha256.State where
  a : UInt32
  b : UInt32
  c : UInt32
  d : UInt32
  e : UInt32
  f : UInt32
  g : UInt32
  h : UInt32
deriving DecidableEq, Repr

/-- The first 32 bits behind the point of the square roots of the first eight primes. -/
def Sha256.initial : Sha256.State :=
  ⟨0x6a09e667, 0xbb67ae85, 0x3c6ef372, 0xa54ff53a, 0x510e527f, 0x9b05688c, 0x1f83d9ab, 0x5be0cd19⟩

/-- The first 32 bits behind the point of the cube roots of the first 64 primes. -/
def Sha256.constants : List UInt32 :=
  [0x428a2f98, 0x71374491, 0xb5c0fbcf, 0xe9b5dba5, 0x3956c25b, 0x59f111f1, 0x923f82a4, 0xab1c5ed5,
    0xd807aa98, 0x12835b01, 0x243185be, 0x550c7dc3, 0x72be5d74, 0x80deb1fe, 0x9bdc06a7, 0xc19bf174,
    0xe49b69c1, 0xefbe4786, 0x0fc19dc6, 0x240ca1cc, 0x2de92c6f, 0x4a7484aa, 0x5cb0a9dc, 0x76f988da,
    0x983e5152, 0xa831c66d, 0xb00327c8, 0xbf597fc7, 0xc6e00bf3, 0xd5a79147, 0x06ca6351, 0x14292967,
    0x27b70a85, 0x2e1b2138, 0x4d2c6dfc, 0x53380d13, 0x650a7354, 0x766a0abb, 0x81c2c92e, 0x92722c85,
    0xa2bfe8a1, 0xa81a664b, 0xc24b8b70, 0xc76c51a3, 0xd192e819, 0xd6990624, 0xf40e3585, 0x106aa070,
    0x19a4c116, 0x1e376c08, 0x2748774c, 0x34b0bcb5, 0x391c0cb3, 0x4ed8aa4a, 0x5b9cca4f, 0x682e6ff3,
    0x748f82ee, 0x78a5636f, 0x84c87814, 0x8cc70208, 0x90befffa, 0xa4506ceb, 0xbef9a3f7, 0xc67178f2]

def Sha256.rotate (x : UInt32) (n : UInt32) : UInt32 :=
  (x >>> n) ||| (x <<< (32 - n))

/-- The next word of a schedule, from the sixteen before it, newest first. -/
def Sha256.extend (words : List UInt32) : UInt32 :=
  let w2 := words.getD 1 0
  let w7 := words.getD 6 0
  let w15 := words.getD 14 0
  let w16 := words.getD 15 0
  let s0 := Sha256.rotate w15 7 ^^^ Sha256.rotate w15 18 ^^^ (w15 >>> 3)
  let s1 := Sha256.rotate w2 17 ^^^ Sha256.rotate w2 19 ^^^ (w2 >>> 10)
  w16 + s0 + w7 + s1

/-- The words of a block followed by as many more as asked for. -/
def Sha256.schedule (block : List UInt32) (more : Nat) : List UInt32 :=
  (Nat.repeat (fun words => Sha256.extend words :: words) more block.reverse).reverse

def Sha256.round (s : Sha256.State) (constant word : UInt32) : Sha256.State :=
  let s1 := Sha256.rotate s.e 6 ^^^ Sha256.rotate s.e 11 ^^^ Sha256.rotate s.e 25
  let choice := (s.e &&& s.f) ^^^ (~~~s.e &&& s.g)
  let t1 := s.h + s1 + choice + constant + word
  let s0 := Sha256.rotate s.a 2 ^^^ Sha256.rotate s.a 13 ^^^ Sha256.rotate s.a 22
  let majority := (s.a &&& s.b) ^^^ (s.a &&& s.c) ^^^ (s.b &&& s.c)
  ⟨t1 + (s0 + majority), s.a, s.b, s.c, s.d + t1, s.e, s.f, s.g⟩

def Sha256.compress (s : Sha256.State) (block : List UInt32) : Sha256.State :=
  let t := (Sha256.constants.zip (Sha256.schedule block 48)).foldl
    (fun s (constant, word) => Sha256.round s constant word) s
  ⟨s.a + t.a, s.b + t.b, s.c + t.c, s.d + t.d, s.e + t.e, s.f + t.f, s.g + t.g, s.h + t.h⟩

/-- The bytes of a number, highest first. -/
def Sha256.bigEndian (width n : Nat) : List UInt8 :=
  ((List.range width).map fun i => UInt8.ofNat (n / Nat.pow 256 i)).reverse

/-- One bit is set behind the message, and its length in bits ends the last block. -/
def Sha256.pad (message : List UInt8) : List UInt8 :=
  let zeros := (119 - message.length % 64) % 64
  message ++ 0x80 :: (List.replicate zeros 0 ++ Sha256.bigEndian 8 (8 * message.length))

def Sha256.words : List UInt8 → List UInt32
  | a :: b :: c :: d :: rest =>
    UInt32.ofNat (((a.toNat * 256 + b.toNat) * 256 + c.toNat) * 256 + d.toNat) :: Sha256.words rest
  | _ => []

/-- Stirs in the words sixteen by sixteen. -/
def Sha256.absorb (s : Sha256.State) (words : List UInt32) : Sha256.State :=
  match words with
  | [] => s
  | word :: rest => Sha256.absorb (Sha256.compress s (word :: rest.take 15)) (rest.drop 15)
termination_by words.length
decreasing_by simp only [List.length_drop, List.length_cons]; omega

def sha256 (message : List UInt8) : List UInt8 :=
  let s := Sha256.absorb Sha256.initial (Sha256.words (Sha256.pad message))
  [s.a, s.b, s.c, s.d, s.e, s.f, s.g, s.h].flatMap fun w => Sha256.bigEndian 4 w.toNat

end SchemaLedger
