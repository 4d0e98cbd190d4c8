import SecondFactor.Text.Utf8
import SecondFactor.Bytes.Hex

/-!
Percent-encoding: a byte as `%` and two hexadecimal digits.
-/

namespace SecondFactor.Percent

/-- The bytes of a text in which `%` and two digits stand for a byte. A `%` without two digits
stands for itself. -/
def decode : List Char → Bytes
  | '%' :: high :: low :: rest =>
    match Hex.value? high, Hex.value? low with
    | some a, some b => UInt8.ofNat (a * 16 + b) :: decode rest
    | _, _ => UInt8.ofNat 37 :: decode (high :: low :: rest)
  | c :: rest => String.utf8EncodeChar c ++ decode rest
  | [] => []

/-- Upper case digits. -/
def encodeByte (byte : UInt8) : List Char :=
  '%' :: [Hex.digit (byte.toNat / 16), Hex.digit (byte.toNat % 16)].map Char.toUpper

/-- Control characters, and all outside the ASCII range, become percent-encoded. -/
def encodeControls (text : List Char) : List Char :=
  text.flatMap fun c =>
    if ' ' ≤ c ∧ c ≤ '~' then [c] else (String.utf8EncodeChar c).flatMap encodeByte

end SecondFactor.Percent
