import SecondFactor.Curve
import SecondFactor.Signature.Integers
import SecondFactor.Hash.Hmac

/-!
ECDSA over a curve whose order fills whole bytes. A signature is the pair of `r` and `s`; both
halves of the range of `s` are accepted.
-/

namespace SecondFactor.Signature.Ecdsa

open Residue

/-- The leading bytes of a hash, as many as the order has, as a number below the order. -/
def scalarOfHash (curve : Curve) (hash : Bytes) : Nat :=
  natOfBytes (hash.take curve.size) % curve.order

/-- Whether the pair signs a hash, for the key at the given coordinates. -/
def verifies (curve : Curve) (x y : Nat) (hash : Bytes) (r s : Nat) : Bool :=
  let n := curve.order
  if r = 0 ∨ n ≤ r ∨ s = 0 ∨ n ≤ s then false
  else
    let w := inverse n s
    let z := scalarOfHash curve hash
    let point := curve.add (curve.multiply (z * w % n) curve.base)
      (curve.multiply (r * w % n) ⟨x, y, 1⟩)
    match curve.coordinates? point with
    | some (x, _) => x % n = r
    | none => false

/-- Whether the bytes of a signature sign a hash. -/
def verify (curve : Curve) (x y : Nat) (hash signature : Bytes) : Bool :=
  match readPair? signature with
  | some (r, s) => verifies curve x y hash r s
  | none => false

/-- The signature of a hash under a secret with the given nonce. -/
def signWith (curve : Curve) (secret nonce : Nat) (hash : Bytes) : Nat × Nat :=
  let n := curve.order
  match curve.coordinates? (curve.multiply nonce curve.base) with
  | some (x, _) =>
    let r := x % n
    (r, inverse n nonce * ((scalarOfHash curve hash + r * secret) % n) % n)
  | none => (0, 0)

/-- The state from which nonces are derived: a key and a value that it keeps hashing. -/
structure Derivation where
  key : Bytes
  value : Bytes

namespace Derivation

def update (state : Derivation) (marker : UInt8) (extra : Bytes) : Derivation :=
  let key := (Hash.Hmac.mac state.key (state.value ++ marker :: extra)).val
  ⟨key, (Hash.Hmac.mac key state.value).val⟩

/-- Starts from the secret and the hash. -/
def start (secret hash : Bytes) : Derivation :=
  let zero := ⟨List.replicate 32 0x00, List.replicate 32 0x01⟩
  (update zero 0x00 (secret ++ hash)).update 0x01 (secret ++ hash)

/-- The first value that is a scalar. All but one in four thousand million are, so a few attempts
are enough; after them it is the last one reduced. -/
def nonce (order : Nat) : Nat → Derivation → Nat
  | 0, state => natOfBytes state.value % order
  | attempts + 1, state =>
    let value := (Hash.Hmac.mac state.key state.value).val
    let candidate := natOfBytes value
    if 0 < candidate ∧ candidate < order then candidate
    else nonce order attempts ((⟨state.key, value⟩ : Derivation).update 0x00 [])

end Derivation

/-- The signature of a hash of 32 bytes, on a curve whose scalars have as many. Its nonce is
derived from the secret and the hash, so signing again gives the same bytes. -/
def sign (curve : Curve) (secret : Nat) (hash : Bytes) : Bytes :=
  let nonce := (Derivation.start (bytesOfNat 32 secret) hash).nonce curve.order 8
  let (r, s) := signWith curve secret nonce hash
  writePair r s

end SecondFactor.Signature.Ecdsa
