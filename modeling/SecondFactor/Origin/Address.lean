import SecondFactor.Bytes.Hex

/-!
Network addresses as hosts: 32 bit addresses, with parts in three number systems, and 128 bit
addresses, as groups of 16 bits.
-/

namespace SecondFactor

/-- The number that digits of a base below 17 write; `none` where another character occurs. -/
def numberOf? (base : Nat) (digits : List Char) : Option Nat :=
  digits.foldlM (fun value c => do
    let digit ← Hex.value? c
    guard (digit < base)
    return value * base + digit) 0

namespace AddressV4

/-- A part of an address: hexadecimal behind `0x`, octal behind `0`, otherwise decimal. -/
def part? : List Char → Option Nat
  | [] => none
  | ['0'] => some 0
  | '0' :: x :: digits =>
    if x = 'x' ∨ x = 'X' then numberOf? 16 digits else numberOf? 8 (x :: digits)
  | digits => numberOf? 10 digits

/-- The labels of a name without the empty one behind a final dot. -/
def labels (name : List Char) : List (List Char) :=
  let labels := name.splitOn '.'
  if labels.length ≠ 1 ∧ labels.getLast? = some [] then labels.dropLast else labels

/-- Whether a name is meant as an address: its last label is a number. -/
def isAddress (name : List Char) : Bool :=
  match (labels name).getLast? with
  | some last => (last ≠ [] && last.all Char.isDigit) || (part? last).isSome
  | none => false

/-- Every part but the last is one byte; the last one fills the rest. -/
def ofParts? (parts : List Nat) : Option Nat := do
  let last ← parts.getLast?
  let bytes := parts.dropLast
  let width := 8 * (4 - bytes.length)
  guard (parts.length ≤ 4 ∧ bytes.all (· < 256) ∧ last < 1 <<< width)
  return bytes.foldl (fun value byte => value * 256 + byte) 0 <<< width + last

def parse? (name : List Char) : Option Nat :=
  (labels name).mapM part? >>= ofParts?

def render (address : Nat) : List Char :=
  ['.'].intercalate ((bytesOfNat 4 address).map fun byte => Nat.toDigits 10 byte.toNat)

end AddressV4

namespace AddressV6

/-- One to four hexadecimal digits. -/
def group? (digits : List Char) : Option Nat :=
  if digits ≠ [] ∧ digits.length ≤ 4 then numberOf? 16 digits else none

/-- A byte in decimal, without needless zeros. -/
def decimalByte? (digits : List Char) : Option Nat := do
  guard (digits ≠ [] ∧ (digits.length = 1 ∨ digits.head? ≠ some '0'))
  let value ← numberOf? 10 digits
  guard (value < 256)
  return value

/-- Four bytes in decimal, as two groups. -/
def dottedGroups? (text : List Char) : Option (List Nat) := do
  match ← (text.splitOn '.').mapM decimalByte? with
  | [a, b, c, d] => return [a * 256 + b, c * 256 + d]
  | _ => none

/-- The groups between single colons. The last piece may be four bytes in decimal, where
`mayDot`. -/
def groups? (mayDot : Bool) : List (List Char) → Option (List Nat)
  | [] => some []
  | [last] =>
    if mayDot && last.contains '.' then dottedGroups? last else do return [← group? last]
  | piece :: rest => do return (← group? piece) :: (← groups? mayDot rest)

/-- The groups of a text in which nothing is left out; none if the text is empty. -/
def side? (mayDot : Bool) (text : List Char) : Option (List Nat) :=
  if text = [] then some [] else groups? mayDot (text.splitOn ':')

/-- What stands before the first pair of colons and what stands behind it. -/
def splitGap (text : List Char) : List Char × Option (List Char) :=
  match text with
  | ':' :: ':' :: rest => ([], some rest)
  | c :: rest =>
    let (before, after) := splitGap rest
    (c :: before, after)
  | [] => ([], none)

/-- Eight groups. A pair of colons may stand once for one or more groups that are zero. -/
def parse? (text : List Char) : Option (List Nat) := do
  match splitGap text with
  | (whole, none) =>
    let groups ← groups? true (whole.splitOn ':')
    guard (groups.length = 8)
    return groups
  | (before, some after) =>
    let left ← side? false before
    let right ← side? true after
    guard (left.length + right.length ≤ 7)
    return left ++ List.replicate (8 - (left.length + right.length)) 0 ++ right

/-- The number of zeros a list of groups starts with. -/
def zeroRun (groups : List Nat) : Nat :=
  (groups.takeWhile (· = 0)).length

/-- The first of the longest runs of zeros: where it starts, and its length. -/
def longestRun (groups : List Nat) : Nat × Nat :=
  (List.range groups.length).foldl
    (fun (start, length) index =>
      let run := zeroRun (groups.drop index)
      if length < run then (index, run) else (start, length))
    (0, 0)

def renderGroups (groups : List Nat) : List Char :=
  [':'].intercalate (groups.map (Nat.toDigits 16))

/-- A run of at least two zeros is left out. -/
def render (groups : List Nat) : List Char :=
  let (start, length) := longestRun groups
  if length < 2 then renderGroups groups
  else renderGroups (groups.take start) ++ [':', ':'] ++ renderGroups (groups.drop (start + length))

end AddressV6

end SecondFactor
