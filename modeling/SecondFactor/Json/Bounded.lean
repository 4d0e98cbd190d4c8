import SecondFactor.Json.Value

/-!
Values of which every part can be kept: strings that a text stands for, numbers in the range of
double precision, and no more than so many arrays and objects around one another.
-/

namespace SecondFactor

namespace Numeral

/-- The nearest number of 53 significant bits; of two, the one whose last bit is zero. -/
def roundToDouble (value : Nat) : Nat :=
  if value < 1 <<< 53 then value
  else
    let shift := value.log2 - 52
    let quotient := value >>> shift
    let remainder := value % (1 <<< shift)
    let half := 1 <<< (shift - 1)
    let up := half < remainder ∨ remainder = half ∧ quotient % 2 = 1
    (if up then quotient + 1 else quotient) <<< shift

/-- Takes digits as long as the significand has 64 bits, and says how many are left. -/
def takeDigits : Nat → List Nat → Nat × Nat
  | significand, [] => (significand, 0)
  | significand, digit :: rest =>
    let next := significand * 10 + digit
    if next < 18446744073709551616 then takeDigits next rest
    else (significand, (digit :: rest).length)

/-- A whole number of 64 bits and a power of ten that stand for a numeral, exponent apart. Digits
of the whole part that are left out raise the power; those of the fraction do not count. -/
def significand (numeral : Numeral) : Nat × Int :=
  let (whole, skipped) := takeDigits 0 numeral.whole
  let fraction := numeral.fraction.getD []
  let (value, unread) := takeDigits whole fraction
  (value, (skipped : Int) - ((fraction.length - unread : Nat) : Int))

/-- Whether a numeral stands for a finite number of double precision: the product of its
significand and its power of ten, each rounded before, does not overflow. -/
def isFinite (numeral : Numeral) : Bool :=
  let (value, power) := numeral.significand
  let power : Int := match numeral.exponent with
    | some (true, digits) => power - (ofDigits digits : Int)
    | some (false, digits) => power + (ofDigits digits : Int)
    | none => power
  value = 0 || power < 0 ||
    (power ≤ 308 &&
      roundToDouble (roundToDouble value * roundToDouble (Nat.pow 10 power.toNat)) < 1 <<< 1024)

end Numeral

namespace Json

mutual

/-- Whether every part of a value can be kept, with at most `depth` arrays and objects around one
another. -/
def isBounded : Nat → Json → Bool
  | _, .null => true
  | _, .bool _ => true
  | _, .number numeral => numeral.isFinite
  | _, .text value => value.isSome
  | 0, .array _ => false
  | 0, .object _ => false
  | depth + 1, .array items => areBounded depth items
  | depth + 1, .object members => areMembersBounded depth members

def areBounded : Nat → List Json → Bool
  | _, [] => true
  | depth, item :: rest => isBounded depth item && areBounded depth rest

def areMembersBounded : Nat → List (Option String × Json) → Bool
  | _, [] => true
  | depth, (name, value) :: rest =>
    name.isSome && isBounded depth value && areMembersBounded depth rest

end

end Json

end SecondFactor
