import SecondFactor.Bytes

/-!
Hexadecimal text: two digits a byte, written in lower case and read in either case.
-/

namespace SecondFactor.Hex

/-- The lower case digit of a value below sixteen. -/
def digit (value : Nat) : Char :=
  if value < 10 then Char.ofNat (48 + value) else Char.ofNat (87 + value)

def value? (c : Char) : Option Nat :=
  let code := c.toNat
  if 48 ≤ code ∧ code ≤ 57 then some (code - 48)
  else if 97 ≤ code ∧ code ≤ 102 then some (code - 87)
  else if 65 ≤ code ∧ code ≤ 70 then some (code - 55)
  else none

def digits : Bytes → List Char
  | [] => []
  | byte :: rest => digit (byte.toNat / 16) :: digit (byte.toNat % 16) :: digits rest

def ofDigits? : List Char → Option Bytes
  | [] => some []
  | [_] => none
  | high :: low :: rest => do
    let high ← value? high
    let low ← value? low
    let rest ← ofDigits? rest
    return UInt8.ofNat (high * 16 + low) :: rest

def encode (bytes : Bytes) : String :=
  String.ofList (digits bytes)

def decode? (text : String) : Option Bytes :=
  ofDigits? text.toList

theorem value?_digit {value : Nat} (h : value < 16) : value? (digit value) = some value := by
  revert h value
  decide

theorem ofDigits?_digits (bytes : Bytes) : ofDigits? (digits bytes) = some bytes := by
  induction bytes with
  | nil => rfl
  | cons byte rest ih =>
    have hbyte := byte.toNat_lt
    rw [digits, ofDigits?, value?_digit (by omega), value?_digit (by omega), ih]
    have hhalves : byte.toNat / 16 * 16 + byte.toNat % 16 = byte.toNat := by omega
    simp only [Option.bind_eq_bind, Option.bind_some, hhalves]
    simp

theorem decode?_encode (bytes : Bytes) : decode? (encode bytes) = some bytes := by
  simp [decode?, encode, ofDigits?_digits]

end SecondFactor.Hex
