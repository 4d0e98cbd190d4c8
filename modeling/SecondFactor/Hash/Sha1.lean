import SecondFactor.Hash.Padding

/-!
SHA-1, for the signatures of old certificates only.
-/

namespace SecondFactor.Hash.Sha1

/-- The five words that run through the rounds. -/
structure State where
  a : UInt32
  b : UInt32
  c : UInt32
  d : UInt32
  e : UInt32

def initial : State :=
  ⟨0x67452301, 0xefcdab89, 0x98badcfe, 0x10325476, 0xc3d2e1f0⟩

def rotate (word : UInt32) (count : UInt32) : UInt32 :=
  (word <<< count) ||| (word >>> (32 - count))

def nextWord (reversed : List UInt32) : UInt32 :=
  rotate (reversed.getD 2 0 ^^^ reversed.getD 7 0 ^^^ reversed.getD 13 0 ^^^ reversed.getD 15 0) 1

def extend : Nat → List UInt32 → List UInt32
  | 0, reversed => reversed
  | count + 1, reversed => extend count (nextWord reversed :: reversed)

def words : Bytes → List UInt32
  | a :: b :: c :: d :: rest => UInt32.ofNat (natOfBytes [a, b, c, d]) :: words rest
  | _ => []

def schedule (block : Bytes) : List UInt32 :=
  (extend 64 (words block).reverse).reverse

/-- The function and the constant of a round change every twenty rounds. -/
def mix (index : Nat) (b c d : UInt32) : UInt32 :=
  if index < 20 then ((b &&& c) ||| (~~~b &&& d)) + 0x5a827999
  else if index < 40 then (b ^^^ c ^^^ d) + 0x6ed9eba1
  else if index < 60 then ((b &&& c) ||| (b &&& d) ||| (c &&& d)) + 0x8f1bbcdc
  else (b ^^^ c ^^^ d) + 0xca62c1d6

def round (s : State) (index : Nat) (word : UInt32) : State :=
  ⟨rotate s.a 5 + mix index s.b s.c s.d + s.e + word, s.a, rotate s.b 30, s.c, s.d⟩

def compress (s : State) (block : Bytes) : State :=
  let t := ((List.range 80).zip (schedule block)).foldl (fun s (i, w) => round s i w) s
  ⟨s.a + t.a, s.b + t.b, s.c + t.c, s.d + t.d, s.e + t.e⟩

def hash (message : Bytes) : Bytes :=
  let final := (messageBlocks 64 8 message).foldl compress initial
  [final.a, final.b, final.c, final.d, final.e].flatMap fun word => bytesOfNat 4 word.toNat

end SecondFactor.Hash.Sha1
