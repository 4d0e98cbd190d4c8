import SecondFactor.Curve
import SecondFactor.Raw.PublicKey

/-!
Public keys: points of the curve P-256, and the encodings they are read from and written in.
-/

namespace SecondFactor

structure PublicKey where
  x : Nat
  y : Nat
  onCurve : Curve.p256.Contains x y
deriving DecidableEq

namespace PublicKey

def ofCoordinates? (x y : Nat) : Option PublicKey :=
  if h : Curve.p256.Contains x y then some ⟨x, y, h⟩ else none

/-- The framed point of a key. -/
def toRaw (key : PublicKey) : Raw.PublicKey :=
  ⟨blockOfNat 32 key.x, blockOfNat 32 key.y⟩

/-- The key of a framed point, when that is on the curve. -/
def ofRaw? (raw : Raw.PublicKey) : Option PublicKey :=
  ofCoordinates? (natOfBytes raw.x.val) (natOfBytes raw.y.val)

/-- The uncompressed point, `04 | x | y`. -/
def bytes (key : PublicKey) : Bytes :=
  0x04 :: (bytesOfNat 32 key.x ++ bytesOfNat 32 key.y)

/-- A point of which only `x` is given, with the `y` of the given parity. -/
def decompress? (x : Nat) (odd : Bool) : Option PublicKey := do
  if x < Curve.p256.prime then
    let y ← Curve.p256.solve? x odd
    ofCoordinates? x y
  else none

/-- A point of which only `x` is given, with the smaller `y`. -/
def decompact? (x : Nat) : Option PublicKey := do
  let key ← decompress? x false
  ofCoordinates? key.x (min key.y ((Curve.p256.prime - key.y) % Curve.p256.prime))

/-- A point in any of its encodings: uncompressed, compressed or compact. The point at infinity
and the hybrid forms are refused. -/
def ofPoint? : Bytes → Option PublicKey
  | [] => none
  | tag :: rest =>
    if tag = 0x04 ∧ rest.length = 64 then
      ofCoordinates? (natOfBytes (rest.take 32)) (natOfBytes (rest.drop 32))
    else if rest.length = 32 then
      if tag = 0x02 then decompress? (natOfBytes rest) false
      else if tag = 0x03 then decompress? (natOfBytes rest) true
      else if tag = 0x05 then decompact? (natOfBytes rest)
      else none
    else none

/-- The key of 65 bytes that are an uncompressed point on the curve. -/
def decode? (bytes : Bytes) : Option PublicKey :=
  if bytes.length = 65 ∧ bytes.head? = some 0x04 then ofPoint? bytes else none

end PublicKey

end SecondFactor
