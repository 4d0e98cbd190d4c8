import SecondFactor.Bytes

/-!
UTF-8: the bytes of a text, and the text of the bytes that are one. Overlong forms, surrogates and
numbers past the last code point are refused, so a text has one form only.
-/

namespace SecondFactor.Utf8

def encode (text : List Char) : Bytes :=
  text.flatMap String.utf8EncodeChar

def bytes (text : String) : Bytes :=
  encode text.toList

/-- The low six bits of a byte that continues a character. -/
def continuation? (byte : UInt8) : Option Nat :=
  if 0x80 ≤ byte ∧ byte < 0xC0 then some (byte.toNat - 128) else none

/-- A code point that is no smaller than the ones with a shorter form. -/
def scalar? (least code : Nat) : Option Char :=
  if h : code.isValidChar then
    if least ≤ code then some (Char.ofNatAux code h) else none
  else none

def decode? : Bytes → Option (List Char)
  | [] => some []
  | a :: rest =>
    if a < 0x80 then do
      return Char.ofNat a.toNat :: (← decode? rest)
    else if a < 0xE0 then
      match rest with
      | b :: rest => do
        if a < 0xC0 then none
        let c ← scalar? 0x80 ((a.toNat - 192) * 64 + (← continuation? b))
        return c :: (← decode? rest)
      | _ => none
    else if a < 0xF0 then
      match rest with
      | b :: c :: rest => do
        let c ← scalar? 0x800
          ((a.toNat - 224) * 4096 + (← continuation? b) * 64 + (← continuation? c))
        return c :: (← decode? rest)
      | _ => none
    else if a < 0xF8 then
      match rest with
      | b :: c :: d :: rest => do
        let c ← scalar? 0x10000
          ((a.toNat - 240) * 262144 + (← continuation? b) * 4096 + (← continuation? c) * 64
            + (← continuation? d))
        return c :: (← decode? rest)
      | _ => none
    else none

def text? (bytes : Bytes) : Option String :=
  (decode? bytes).map String.ofList

end SecondFactor.Utf8
