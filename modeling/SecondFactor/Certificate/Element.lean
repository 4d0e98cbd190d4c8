import SecondFactor.Bytes

/-!
Elements of distinguished encoding: an identifier, a definite length and that many bytes of
contents. A length may be written with more bytes than it needs. Of the identifier, the class is
looked at only where the grammar names one.
-/

namespace SecondFactor.Certificate

inductive TagClass where
  | universal
  | application
  | context
  | reserved
deriving DecidableEq, Repr

structure Element where
  tagClass : TagClass
  constructed : Bool
  tag : Nat
  contents : Bytes
deriving DecidableEq, Repr

namespace Tag

def boolean : Nat := 1
def integer : Nat := 2
def bitString : Nat := 3
def octetString : Nat := 4
def objectIdentifier : Nat := 6
def sequence : Nat := 16
def set : Nat := 17
def utcTime : Nat := 23
def generalizedTime : Nat := 24

end Tag

def TagClass.ofByte (byte : UInt8) : TagClass :=
  if byte < 0x40 then .universal
  else if byte < 0x80 then .application
  else if byte < 0xC0 then .context
  else .reserved

/-- The digits of a tag number too large for the first byte: seven bits a byte, of which the last
has its high bit clear. No more than `fuel` bytes are looked at, and the number has 32 bits. -/
def longTag? : Nat → Nat → Bytes → Option (Nat × Bytes)
  | 0, _, _ => none
  | _ + 1, _, [] => none
  | fuel + 1, value, byte :: rest =>
    let value := (value * 128 + byte.toNat % 128) % 4294967296
    if byte < 0x80 then some (value, rest) else longTag? fuel value rest

def tag? (first : UInt8) (rest : Bytes) : Option (Nat × Bytes) :=
  if first.toNat % 32 = 31 then longTag? 5 0 rest else some (first.toNat % 32, rest)

/-- A definite length: one byte below 128, or that many bytes of a number of 64 bits. -/
def length? : Bytes → Option (Nat × Bytes)
  | [] => none
  | first :: rest =>
    if first < 0x80 then some (first.toNat, rest)
    else if first = 0x80 ∨ first = 0xFF then none
    else
      let size := first.toNat - 128
      if rest.length < size then none
      else
        let length := natOfBytes (rest.take size)
        if length < 18446744073709551616 then some (length, rest.drop size) else none

/-- The length the bytes open with, with nothing demanded of what follows it. -/
structure Opening where
  tagClass : TagClass
  constructed : Bool
  tag : Nat
  length : Nat
deriving DecidableEq, Repr

def opening? : Bytes → Option (Opening × Bytes)
  | [] => none
  | first :: rest => do
    let (tag, rest) ← tag? first rest
    let (length, rest) ← length? rest
    return (⟨TagClass.ofByte first, first.toNat / 32 % 2 = 1, tag, length⟩, rest)

/-- The first element, and what follows it. -/
def element? (bytes : Bytes) : Option (Element × Bytes) := do
  let (opening, rest) ← opening? bytes
  if rest.length < opening.length then none
  else
    let element := ⟨opening.tagClass, opening.constructed, opening.tag,
      rest.take opening.length⟩
    some (element, rest.drop opening.length)

/-- The first element, when it has this tag number. -/
def tagged? (tag : Nat) (bytes : Bytes) : Option (Element × Bytes) := do
  let (element, rest) ← element? bytes
  if element.tag = tag then some (element, rest) else none

/-- The first element, when it has this tag number and is not made of other elements. -/
def primitive? (tag : Nat) (bytes : Bytes) : Option (Element × Bytes) := do
  let (element, rest) ← tagged? tag bytes
  if element.constructed then none else some (element, rest)

/-- The first element of `bytes` up to where its contents were left unread: `rest` follows the
element, and `unread` ends its contents. -/
def consumedIn (bytes rest unread : Bytes) : Bytes :=
  bytes.take (bytes.length - rest.length - unread.length)

end SecondFactor.Certificate
