import SecondFactor.Raw.Scan

/-!
The public key of a raw message: an uncompressed point, `04 | x | y`. Only the framing is looked
at here; whether the point is on the curve is decided by `PublicKey.ofRaw?`.
-/

namespace SecondFactor.Raw

structure PublicKey where
  x : Digest
  y : Digest
deriving DecidableEq

namespace PublicKey

def bytes (key : PublicKey) : Bytes :=
  0x04 :: (key.x.val ++ key.y.val)

@[simp] theorem length_bytes (key : PublicKey) : key.bytes.length = 65 := by
  have hx := key.x.property
  have hy := key.y.property
  simp [bytes, hx, hy]

def scan : Scan PublicKey := fun bytes => do
  let (tag, rest) ← Scan.byte bytes
  if tag ≠ 0x04 then throw .publicKey
  let (x, rest) ← Scan.fixed 32 rest
  let (y, rest) ← Scan.fixed 32 rest
  return (⟨x, y⟩, rest)

def decode (bytes : Bytes) : Except FormatFault PublicKey :=
  Scan.complete (scan bytes)

end PublicKey

end SecondFactor.Raw
