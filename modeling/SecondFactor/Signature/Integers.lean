import SecondFactor.Bytes

/-!
Pairs of numbers in distinguished encoding: a sequence of two integers, without a sign and in their
shortest form. ECDSA signatures and RSA keys are such pairs.
-/

namespace SecondFactor.Signature

/-- How many bytes a number needs. -/
def byteSize (value : Nat) : Nat :=
  value.log2 / 8 + 1

/-- The shortest bytes of an integer; a zero in front keeps it from being negative. -/
def integerContents (value : Nat) : Bytes :=
  let bytes := bytesOfNat (byteSize value) value
  if 0x80 ≤ bytes.headD 0 then 0x00 :: bytes else bytes

def writeInteger (value : Nat) : Bytes :=
  let contents := integerContents value
  0x02 :: UInt8.ofNat contents.length :: contents

/-- The pair as a sequence, for numbers whose integers fill less than 128 bytes together. -/
def writePair (first second : Nat) : Bytes :=
  let contents := writeInteger first ++ writeInteger second
  0x30 :: UInt8.ofNat contents.length :: contents

/-- A length in its shortest form, of at most two bytes behind the first. -/
def length? : Bytes → Option (Nat × Bytes)
  | first :: rest =>
    if first < 0x80 then some (first.toNat, rest)
    else match rest with
      | size :: rest =>
        if first = 0x81 then
          if 0x80 ≤ size then some (size.toNat, rest) else none
        else if first = 0x82 then
          match rest with
          | low :: rest => if size = 0 then none else some (natOfPair size low, rest)
          | [] => none
        else none
      | [] => none
  | [] => none

/-- The contents of an element with this tag, and what follows it. -/
def contents? (tag : UInt8) : Bytes → Option (Bytes × Bytes)
  | first :: rest => do
    if first ≠ tag then none
    let (length, rest) ← length? rest
    if rest.length < length then none
    return (rest.take length, rest.drop length)
  | [] => none

/-- The number of an integer's contents: not empty, not negative, and without a needless zero in
front. -/
def integer? : Bytes → Option Nat
  | [] => none
  | [byte] => if byte < 0x80 then some byte.toNat else none
  | first :: second :: rest =>
    if first < 0x80 ∧ (first ≠ 0x00 ∨ 0x80 ≤ second) then
      some (natOfBytes (first :: second :: rest))
    else none

/-- The two numbers of a sequence that holds nothing else, followed by nothing. -/
def readPair? (bytes : Bytes) : Option (Nat × Nat) := do
  let (sequence, []) ← contents? 0x30 bytes | none
  let (first, rest) ← contents? 0x02 sequence
  let (second, []) ← contents? 0x02 rest | none
  return (← integer? first, ← integer? second)

end SecondFactor.Signature
