import SecondFactor.Hash.Sha256

/-!
HMAC with SHA-256.
-/

namespace SecondFactor.Hash.Hmac

/-- A key as one block: a long one is hashed first, a short one filled up with zeros. -/
def blockKey (key : Bytes) : Bytes :=
  let key := if key.length ≤ 64 then key else Sha256.hash key
  key ++ List.replicate (64 - key.length) 0

def mac (key message : Bytes) : Digest :=
  let block := blockKey key
  let inner := Sha256.hash (block.map (· ^^^ 0x36) ++ message)
  Sha256.digest (block.map (· ^^^ 0x5C) ++ inner)

end SecondFactor.Hash.Hmac
