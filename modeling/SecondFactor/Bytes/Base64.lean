import SecondFactor.Bytes

/-!
Base64 without padding, in the standard and the web safe alphabet. Reading is strict: the unused
bits of the last digit are zero, so a byte string has one text in each alphabet. Trailing `=` are
dropped before reading.
-/

namespace SecondFactor.Base64

inductive Alphabet where
  | standard
  | websafe
deriving DecidableEq, Repr

/-- The digit of a value below 64. The alphabets differ in the last two digits only. -/
def Alphabet.digit (alphabet : Alphabet) (value : Nat) : Char :=
  if value < 26 then Char.ofNat (65 + value)
  else if value < 52 then Char.ofNat (71 + value)
  else if value < 62 then Char.ofNat (value - 4)
  else match alphabet with
    | .standard => if value = 62 then '+' else '/'
    | .websafe => if value = 62 then '-' else '_'

def Alphabet.value? (alphabet : Alphabet) (c : Char) : Option Nat :=
  let code := c.toNat
  if 65 ≤ code ∧ code ≤ 90 then some (code - 65)
  else if 97 ≤ code ∧ code ≤ 122 then some (code - 71)
  else if 48 ≤ code ∧ code ≤ 57 then some (code + 4)
  else match alphabet with
    | .standard => if c = '+' then some 62 else if c = '/' then some 63 else none
    | .websafe => if c = '-' then some 62 else if c = '_' then some 63 else none

theorem Alphabet.value?_digit (alphabet : Alphabet) {value : Nat} (h : value < 64) :
    alphabet.value? (alphabet.digit value) = some value := by
  cases alphabet <;> revert h value <;> decide

/-- Three bytes become four digits; one or two bytes at the end become two or three. -/
def digits (alphabet : Alphabet) : Bytes → List Char
  | [] => []
  | [x] =>
    let group := x.toNat * 16
    [alphabet.digit (group / 64), alphabet.digit (group % 64)]
  | [x, y] =>
    let group := x.toNat * 1024 + y.toNat * 4
    [alphabet.digit (group / 4096), alphabet.digit (group / 64 % 64),
      alphabet.digit (group % 64)]
  | x :: y :: z :: rest =>
    let group := x.toNat * 65536 + y.toNat * 256 + z.toNat
    alphabet.digit (group / 262144) :: alphabet.digit (group / 4096 % 64) ::
      alphabet.digit (group / 64 % 64) :: alphabet.digit (group % 64) :: digits alphabet rest

/-- Refuses other characters, a lone last digit and unused bits that are not zero. -/
def ofDigits? (alphabet : Alphabet) : List Char → Option Bytes
  | [] => some []
  | [_] => none
  | [a, b] => do
    let group := (← alphabet.value? a) * 64 + (← alphabet.value? b)
    if group % 16 = 0 then some [UInt8.ofNat (group / 16)] else none
  | [a, b, c] => do
    let group := (← alphabet.value? a) * 4096 + (← alphabet.value? b) * 64
      + (← alphabet.value? c)
    if group % 4 = 0 then
      some [UInt8.ofNat (group / 1024), UInt8.ofNat (group / 4 % 256)]
    else none
  | a :: b :: c :: d :: rest => do
    let group := (← alphabet.value? a) * 262144 + (← alphabet.value? b) * 4096
      + (← alphabet.value? c) * 64 + (← alphabet.value? d)
    let rest ← ofDigits? alphabet rest
    return UInt8.ofNat (group / 65536) :: UInt8.ofNat (group / 256 % 256) ::
      UInt8.ofNat (group % 256) :: rest

theorem ofDigits?_digits (alphabet : Alphabet) (bytes : Bytes) :
    ofDigits? alphabet (digits alphabet bytes) = some bytes := by
  fun_induction digits alphabet bytes with
  | case1 => rfl
  | case2 x group =>
    have hx := x.toNat_lt
    rw [ofDigits?, alphabet.value?_digit (by omega), alphabet.value?_digit (by omega)]
    have hgroup : group / 64 * 64 + group % 64 = group := by omega
    simp only [Option.bind_eq_bind, Option.bind_some, hgroup]
    simp [group]
  | case3 x y group =>
    have hx := x.toNat_lt
    have hy := y.toNat_lt
    rw [ofDigits?, alphabet.value?_digit (by omega), alphabet.value?_digit (by omega),
      alphabet.value?_digit (by omega)]
    have hgroup : group / 4096 * 4096 + group / 64 % 64 * 64 + group % 64 = group := by omega
    simp only [Option.bind_eq_bind, Option.bind_some, hgroup]
    have hunused : group % 4 = 0 := by omega
    have hfirst : group / 1024 = x.toNat := by omega
    have hsecond : group / 4 % 256 = y.toNat := by omega
    simp [hunused, hfirst, hsecond]
  | case4 x y z rest group ih =>
    have hx := x.toNat_lt
    have hy := y.toNat_lt
    have hz := z.toNat_lt
    rw [ofDigits?, alphabet.value?_digit (by omega), alphabet.value?_digit (by omega),
      alphabet.value?_digit (by omega), alphabet.value?_digit (by omega), ih]
    have hgroup : group / 262144 * 262144 + group / 4096 % 64 * 4096 + group / 64 % 64 * 64
        + group % 64 = group := by omega
    simp only [Option.bind_eq_bind, Option.bind_some, hgroup]
    have hfirst : group / 65536 = x.toNat := by omega
    have hsecond : group / 256 % 256 = y.toNat := by omega
    have hthird : group % 256 = z.toNat := by omega
    simp [hfirst, hsecond, hthird]

def encode (alphabet : Alphabet) (bytes : Bytes) : String :=
  String.ofList (digits alphabet bytes)

/-- A text without the `=` at its end. -/
def withoutPadding (text : List Char) : List Char :=
  (text.reverse.dropWhile (· = '=')).reverse

def decode? (alphabet : Alphabet) (text : String) : Option Bytes :=
  ofDigits? alphabet (withoutPadding text.toList)

/-- Text in either alphabet; a text that mixes both is refused. -/
def decodeEither? (text : String) : Option Bytes :=
  (decode? .websafe text).or (decode? .standard text)

end SecondFactor.Base64
