import SecondFactor.Residue

/-!
Elliptic curves `y² = x³ + a x + b` over a prime field, and the group of their points.
-/

namespace SecondFactor

structure Curve where
  prime : Nat
  a : Nat
  b : Nat
  order : Nat
  baseX : Nat
  baseY : Nat
  /-- How many bytes a coordinate takes. -/
  size : Nat

namespace Curve

open Residue

def rightHandSide (curve : Curve) (x : Nat) : Nat :=
  (x * x * x + curve.a * x + curve.b) % curve.prime

/-- Both coordinates are reduced and satisfy the equation. -/
def Contains (curve : Curve) (x y : Nat) : Prop :=
  x < curve.prime ∧ y < curve.prime ∧ y * y % curve.prime = curve.rightHandSide x

instance (curve : Curve) (x y : Nat) : Decidable (curve.Contains x y) :=
  inferInstanceAs (Decidable (_ ∧ _))

/-- A point `(x / z², y / z³)`; it is the neutral one when `z` is zero. -/
structure Point where
  x : Nat
  y : Nat
  z : Nat

def neutral : Point := ⟨1, 1, 0⟩

def base (curve : Curve) : Point := ⟨curve.baseX, curve.baseY, 1⟩

def double (curve : Curve) (point : Point) : Point :=
  let p := curve.prime
  if point.z = 0 ∨ point.y = 0 then neutral
  else
    let yy := point.y * point.y % p
    let s := 4 * point.x * yy % p
    let zz := point.z * point.z % p
    let m := (3 * point.x * point.x + curve.a * (zz * zz % p)) % p
    let x := sub p (m * m % p) (2 * s % p)
    let y := sub p (m * sub p s x % p) (8 * (yy * yy % p) % p)
    ⟨x, y, 2 * point.y * point.z % p⟩

def add (curve : Curve) (left right : Point) : Point :=
  let p := curve.prime
  if left.z = 0 then right
  else if right.z = 0 then left
  else
    let z₁ := left.z * left.z % p
    let z₂ := right.z * right.z % p
    let u₁ := left.x * z₂ % p
    let u₂ := right.x * z₁ % p
    let s₁ := left.y * (z₂ * right.z % p) % p
    let s₂ := right.y * (z₁ * left.z % p) % p
    if u₁ = u₂ then
      if s₁ = s₂ then curve.double left else neutral
    else
      let h := sub p u₂ u₁
      let r := sub p s₂ s₁
      let hh := h * h % p
      let hhh := h * hh % p
      let v := u₁ * hh % p
      let x := sub p (sub p (r * r % p) hhh) (2 * v % p)
      let y := sub p (r * sub p v x % p) (s₁ * hhh % p)
      ⟨x, y, h * (left.z * right.z % p) % p⟩

/-- Doubles once a bit of the scalar, and adds where the bit is set. -/
def multiply (curve : Curve) (scalar : Nat) (point : Point) : Point :=
  (bits scalar).foldl
    (fun sum bit =>
      let twice := curve.double sum
      if bit then curve.add twice point else twice)
    neutral

/-- The coordinates of a point; the neutral one has none. -/
def coordinates? (curve : Curve) (point : Point) : Option (Nat × Nat) :=
  if point.z = 0 then none
  else
    let p := curve.prime
    let zInverse := inverse p point.z
    let zz := zInverse * zInverse % p
    some (point.x * zz % p, point.y * (zz * zInverse % p) % p)

/-- A square root modulo a prime that leaves three when divided by four. -/
def squareRoot? (prime value : Nat) : Option Nat :=
  let root := pow prime value ((prime + 1) / 4)
  if root * root % prime = value then some root else none

/-- The `y` of a point with this `x`, whose last bit is `odd`. -/
def solve? (curve : Curve) (x : Nat) (odd : Bool) : Option Nat := do
  let root ← squareRoot? curve.prime (curve.rightHandSide x)
  return if (root % 2 = 1) = odd then root else (curve.prime - root) % curve.prime

def p256 : Curve where
  prime := 0xffffffff00000001000000000000000000000000ffffffffffffffffffffffff
  a := 0xffffffff00000001000000000000000000000000fffffffffffffffffffffffc
  b := 0x5ac635d8aa3a93e7b3ebbd55769886bc651d06b0cc53b0f63bce3c3e27d2604b
  order := 0xffffffff00000000ffffffffffffffffbce6faada7179e84f3b9cac2fc632551
  baseX := 0x6b17d1f2e12c4247f8bce6e563a440f277037d812deb33a0f4a13945d898c296
  baseY := 0x4fe342e2fe1a7f9b8ee7eb4a7c0f9e162bce33576b315ececbb6406837bf51f5
  size := 32

def p384 : Curve where
  prime := 0xfffffffffffffffffffffffffffffffffffffffffffffffffffffffffffffffeffffffff0000000000000000ffffffff
  a := 0xfffffffffffffffffffffffffffffffffffffffffffffffffffffffffffffffeffffffff0000000000000000fffffffc
  b := 0xb3312fa7e23ee7e4988e056be3f82d19181d9c6efe8141120314088f5013875ac656398d8a2ed19d2a85c8edd3ec2aef
  order := 0xffffffffffffffffffffffffffffffffffffffffffffffffc7634d81f4372ddf581a0db248b0a77aecec196accc52973
  baseX := 0xaa87ca22be8b05378eb1c71ef320ad746e1d3b628ba79b9859f741e082542a385502f25dbf55296c3a545e3872760ab7
  baseY := 0x3617de4a96262c6f5d9e98bf9292dc29f8f41dbd289a147ce9da3113b5f0b8c00a60b1ce1d7e819d7a431d7c90ea0e5f
  size := 48

end Curve

end SecondFactor
