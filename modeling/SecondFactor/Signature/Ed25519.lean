import SecondFactor.Residue
import SecondFactor.Hash.Sha512

/-!
Ed25519 signatures: verification without the cofactor, on the curve `-x² + y² = 1 + d x² y²`.
-/

namespace SecondFactor.Signature.Ed25519

open Residue

/-- The weight of the top bit of 32 bytes. -/
def topBit : Nat := 1 <<< 255

def prime : Nat := topBit - 19

def order : Nat := (1 <<< 252) + 27742317777372353535851937790883648493

def d : Nat := 37095705934669439343138083508754565189542113879843219016388785533085940283555

/-- A square root of minus one. -/
def rootOfMinusOne : Nat :=
  19681161376707505956807079304988542015446066515923890162744021073123829784752

/-- A point `(x / z, y / z)`, with `t = x y / z`. -/
structure Point where
  x : Nat
  y : Nat
  z : Nat
  t : Nat

def neutral : Point := ⟨0, 1, 1, 0⟩

def ofCoordinates (x y : Nat) : Point := ⟨x, y, 1, x * y % prime⟩

def base : Point :=
  ofCoordinates 15112221349535400772501151409588531511454012693041857206046113283949847762202
    46316835694926478169428394003475163141307993866256225615783033603165251855960

/-- One formula adds any two points. -/
def add (left right : Point) : Point :=
  let a := sub prime left.y left.x * sub prime right.y right.x % prime
  let b := (left.y + left.x) * (right.y + right.x) % prime
  let c := 2 * left.t * (right.t * d % prime) % prime
  let e := 2 * left.z * right.z % prime
  let f := sub prime b a
  let g := sub prime e c
  let h := (e + c) % prime
  let i := (b + a) % prime
  ⟨f * g % prime, h * i % prime, g * h % prime, f * i % prime⟩

def negate (point : Point) : Point :=
  ⟨sub prime 0 point.x, point.y, point.z, sub prime 0 point.t⟩

def multiply (scalar : Nat) (point : Point) : Point :=
  (bits scalar).foldl
    (fun sum bit =>
      let twice := add sum sum
      if bit then add twice point else twice)
    neutral

/-- A root of `u / v`, when there is one. -/
def rootOfQuotient? (u v : Nat) : Option Nat :=
  let v₃ := v * v % prime * v % prime
  let v₇ := v₃ * v₃ % prime * v % prime
  let root := u * v₃ % prime * pow prime (u * v₇ % prime) ((prime - 5) / 8) % prime
  let check := v * (root * root % prime) % prime
  if check = u then some root
  else if check = sub prime 0 u then some (root * rootOfMinusOne % prime)
  else none

/-- The number that a byte string writes, least significant byte first. -/
def littleEndian (bytes : Bytes) : Nat :=
  natOfBytes bytes.reverse

/-- A point from `y`, whose top bit is the parity of `x`. -/
def decode? (bytes : Bytes) : Option Point := do
  let value := littleEndian bytes
  let y := value % topBit % prime
  let yy := y * y % prime
  let x ← rootOfQuotient? (sub prime yy 1) ((d * yy + 1) % prime)
  let x := if x % 2 = value / topBit % 2 then x else sub prime 0 x
  return ofCoordinates x y

def encode (point : Point) : Bytes :=
  let zInverse := inverse prime point.z
  let x := point.x * zInverse % prime
  let y := point.y * zInverse % prime
  (bytesOfNat 32 (y + x % 2 * topBit)).reverse

def verify (key message signature : Bytes) : Bool :=
  if key.length ≠ 32 ∨ signature.length ≠ 64 then false
  else
    let commitment := signature.take 32
    let s := littleEndian (signature.drop 32)
    match decode? key with
    | some point =>
      let challenge := littleEndian (Hash.Sha512.hash (commitment ++ key ++ message)) % order
      s < order &&
        encode (add (multiply s base) (multiply challenge (negate point))) = commitment
    | none => false

end SecondFactor.Signature.Ed25519
