import SecondFactor.PublicKey
import SecondFactor.Signature.Ecdsa

/-!
Key pairs on P-256, and what is signed and verified with them.
-/

namespace SecondFactor

/-- A secret scalar with the public key that belongs to it. -/
structure KeyPair where
  secret : Nat
  publicKey : PublicKey
deriving DecidableEq

namespace KeyPair

/-- The pair of a secret: zero and the numbers from the order of the group on are none. -/
def ofSecret? (secret : Nat) : Option KeyPair := do
  if secret = 0 ∨ Curve.p256.order ≤ secret then none
  let (x, y) ← Curve.p256.coordinates? (Curve.p256.multiply secret Curve.p256.base)
  let publicKey ← PublicKey.ofCoordinates? x y
  return ⟨secret, publicKey⟩

/-- A secret of 32 bytes, or of some less, down to 24, with zeros in front. -/
def secretOfBytes? (bytes : Bytes) : Option Nat :=
  if 24 ≤ bytes.length ∧ bytes.length ≤ 32 then some (natOfBytes bytes) else none

def sign (pair : KeyPair) (message : Bytes) : Bytes :=
  Signature.Ecdsa.sign Curve.p256 pair.secret (Hash.Sha256.hash message)

end KeyPair

/-- Whether a signature is in strict form and signs the message under the key. -/
def PublicKey.verify (key : PublicKey) (message signature : Bytes) : Bool :=
  Signature.Ecdsa.verify Curve.p256 key.x key.y (Hash.Sha256.hash message) signature

end SecondFactor
