/-!
Arithmetic modulo a number, on representatives below it.
-/

namespace SecondFactor.Residue

/-- The bits of a number, most significant first. -/
def bits (value : Nat) : List Bool :=
  ((List.range (value.log2 + 1)).map value.testBit).reverse

def sub (modulus x y : Nat) : Nat :=
  (x + (modulus - y)) % modulus

/-- Squares once a bit, and multiplies where the bit is set. -/
def pow (modulus base exponent : Nat) : Nat :=
  (bits exponent).foldl
    (fun value bit =>
      let square := value * value % modulus
      if bit then square * base % modulus else square)
    (1 % modulus)

/-- The inverse modulo a prime; zero has none, and gives zero. -/
def inverse (prime value : Nat) : Nat :=
  pow prime value (prime - 2)

end SecondFactor.Residue
