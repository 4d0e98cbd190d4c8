import SecondFactor.Json.Value
import SecondFactor.Text.Utf8
import SecondFactor.Bytes.Hex

/-!
Reading JSON from bytes. Nothing but blanks may stand around a value, and escapes are well formed
everywhere, whether or not a text stands for the string they are in.
-/

namespace SecondFactor.Json

def isBlank (byte : UInt8) : Bool :=
  byte = 0x20 || byte = 0x09 || byte = 0x0A || byte = 0x0D

def skipBlanks (bytes : Bytes) : Bytes :=
  bytes.dropWhile isBlank

/-- A part of a string: a byte, or the code unit of an escape of four digits. -/
inductive Piece where
  | byte (value : UInt8)
  | unit (value : Nat)
deriving DecidableEq, Repr

/-- What a backslash and this byte stand for, the escape of four digits apart. -/
def escape? (byte : UInt8) : Option UInt8 :=
  if byte = 0x22 ∨ byte = 0x5C ∨ byte = 0x2F then some byte
  else if byte = 0x62 then some 0x08
  else if byte = 0x66 then some 0x0C
  else if byte = 0x6E then some 0x0A
  else if byte = 0x72 then some 0x0D
  else if byte = 0x74 then some 0x09
  else none

def hexValue? (byte : UInt8) : Option Nat :=
  Hex.value? (Char.ofNat byte.toNat)

def unit? (a b c d : UInt8) : Option Nat := do
  return ((← hexValue? a) * 16 + (← hexValue? b)) * 256 + ((← hexValue? c) * 16 + (← hexValue? d))

/-- The pieces of a string up to its closing quote. -/
def pieces? : Bytes → Option (List Piece × Bytes)
  | [] => none
  | 0x22 :: rest => some ([], rest)
  | 0x5C :: 0x75 :: a :: b :: c :: d :: rest => do
    let unit ← unit? a b c d
    let (pieces, rest) ← pieces? rest
    return (.unit unit :: pieces, rest)
  | 0x5C :: letter :: rest => do
    let byte ← escape? letter
    let (pieces, rest) ← pieces? rest
    return (.byte byte :: pieces, rest)
  | byte :: rest =>
    if byte < 0x20 ∨ byte = 0x5C then none
    else do
      let (pieces, rest) ← pieces? rest
      return (.byte byte :: pieces, rest)

/-- Two surrogates in a row are one character; one on its own is none. -/
def pieceBytes? : List Piece → Option Bytes
  | [] => some []
  | .byte byte :: rest => do return byte :: (← pieceBytes? rest)
  | .unit high :: .unit low :: rest =>
    if 0xD800 ≤ high ∧ high < 0xDC00 then
      if 0xDC00 ≤ low ∧ low < 0xE000 then do
        let code := 0x10000 + (high - 0xD800) * 1024 + (low - 0xDC00)
        return String.utf8EncodeChar (Char.ofNat code) ++ (← pieceBytes? rest)
      else none
    else if 0xDC00 ≤ high ∧ high < 0xE000 then none
    else do
      return String.utf8EncodeChar (Char.ofNat high) ++ (← pieceBytes? (.unit low :: rest))
  | .unit unit :: rest =>
    if 0xD800 ≤ unit ∧ unit < 0xE000 then none
    else do return String.utf8EncodeChar (Char.ofNat unit) ++ (← pieceBytes? rest)

def textOfPieces? (pieces : List Piece) : Option String := do
  Utf8.text? (← pieceBytes? pieces)

/-- A string, after its opening quote. -/
def string? (bytes : Bytes) : Option (Option String × Bytes) := do
  let (pieces, rest) ← pieces? bytes
  return (textOfPieces? pieces, rest)

def isDigit (byte : UInt8) : Bool :=
  0x30 ≤ byte && byte ≤ 0x39

def digitValues (bytes : Bytes) : List Nat :=
  (bytes.takeWhile isDigit).map fun byte => byte.toNat - 48

/-- One digit or more. -/
def digits? (bytes : Bytes) : Option (List Nat × Bytes) :=
  match digitValues bytes with
  | [] => none
  | digits => some (digits, bytes.dropWhile isDigit)

/-- The whole part does not open with a needless zero. -/
def whole? : Bytes → Option (List Nat × Bytes)
  | 0x30 :: rest => some ([0], rest)
  | bytes => digits? bytes

def fraction? : Bytes → Option (Option (List Nat) × Bytes)
  | 0x2E :: rest => do
    let (digits, rest) ← digits? rest
    return (some digits, rest)
  | rest => some (none, rest)

def exponentDigits? (negative : Bool) (bytes : Bytes) :
    Option (Option (Bool × List Nat) × Bytes) := do
  let (digits, rest) ← digits? bytes
  return (some (negative, digits), rest)

def exponent? : Bytes → Option (Option (Bool × List Nat) × Bytes)
  | letter :: rest =>
    if letter = 0x65 ∨ letter = 0x45 then
      match rest with
      | 0x2B :: rest => exponentDigits? false rest
      | 0x2D :: rest => exponentDigits? true rest
      | rest => exponentDigits? false rest
    else some (none, letter :: rest)
  | [] => some (none, [])

def unsigned? (negative : Bool) (bytes : Bytes) : Option (Numeral × Bytes) := do
  let (whole, rest) ← whole? bytes
  let (fraction, rest) ← fraction? rest
  let (exponent, rest) ← exponent? rest
  return (⟨negative, whole, fraction, exponent⟩, rest)

def numeral? : Bytes → Option (Numeral × Bytes)
  | 0x2D :: rest => unsigned? true rest
  | bytes => unsigned? false bytes

/-- A string with its opening quote. -/
def quoted? : Bytes → Option (Option String × Bytes)
  | 0x22 :: rest => string? rest
  | _ => none

mutual

def value? : Nat → Bytes → Option (Json × Bytes)
  | 0, _ => none
  | fuel + 1, bytes =>
    match skipBlanks bytes with
    | 0x6E :: 0x75 :: 0x6C :: 0x6C :: rest => some (.null, rest)
    | 0x74 :: 0x72 :: 0x75 :: 0x65 :: rest => some (.bool true, rest)
    | 0x66 :: 0x61 :: 0x6C :: 0x73 :: 0x65 :: rest => some (.bool false, rest)
    | 0x22 :: rest => do
      let (value, rest) ← string? rest
      return (.text value, rest)
    | 0x5B :: rest =>
      match skipBlanks rest with
      | 0x5D :: rest => some (.array [], rest)
      | rest => do
        let (items, rest) ← items? fuel rest
        return (.array items, rest)
    | 0x7B :: rest =>
      match skipBlanks rest with
      | 0x7D :: rest => some (.object [], rest)
      | rest => do
        let (members, rest) ← members? fuel rest
        return (.object members, rest)
    | rest => do
      let (numeral, rest) ← numeral? rest
      return (.number numeral, rest)

def items? : Nat → Bytes → Option (List Json × Bytes)
  | 0, _ => none
  | fuel + 1, bytes => do
    let (item, rest) ← value? fuel bytes
    match skipBlanks rest with
    | 0x5D :: rest => some ([item], rest)
    | 0x2C :: rest => do
      let (items, rest) ← items? fuel rest
      return (item :: items, rest)
    | _ => none

def members? : Nat → Bytes → Option (List (Option String × Json) × Bytes)
  | 0, _ => none
  | fuel + 1, bytes => do
    let (name, rest) ← quoted? (skipBlanks bytes)
    match skipBlanks rest with
    | 0x3A :: rest => do
      let (value, rest) ← value? fuel rest
      match skipBlanks rest with
      | 0x7D :: rest => some ([(name, value)], rest)
      | 0x2C :: rest => do
        let (members, rest) ← members? fuel rest
        return ((name, value) :: members, rest)
      | _ => none
    | _ => none

end

/-- The value that the bytes are. Every step of the reader takes a byte, so twice their number of
steps is more than enough. -/
def parse? (bytes : Bytes) : Option Json := do
  let (json, rest) ← value? (2 * bytes.length + 2) bytes
  if (skipBlanks rest).isEmpty then some json else none

end SecondFactor.Json
