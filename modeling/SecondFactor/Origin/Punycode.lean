/-!
Labels of other scripts in the letters, digits and hyphens of the ASCII range. The ASCII characters
of a label come first; behind the last hyphen, numbers tell where each of the others is inserted, in
the order of their code points.
-/

namespace SecondFactor.Punycode

/-- The value of a digit: letters stand for 0 to 25, decimal digits for 26 to 35. -/
def digitValue? (c : Char) : Option Nat :=
  if 'a' ≤ c ∧ c ≤ 'z' then some (c.toNat - 97)
  else if '0' ≤ c ∧ c ≤ '9' then some (c.toNat - 48 + 26)
  else none

def digitOf (value : Nat) : Char :=
  Char.ofNat (if value < 26 then 97 + value else 22 + value)

/-- A digit below the threshold of its place ends a number. -/
def threshold (place bias : Nat) : Nat :=
  if place ≤ bias then 1 else min 26 (place - bias)

theorem threshold_pos (place bias : Nat) : 1 ≤ threshold place bias := by
  unfold threshold
  split <;> omega

/-- Divides by 35 until the bound is met, and counts in steps of 36. -/
def settle (delta steps : Nat) : Nat × Nat :=
  if 455 < delta then settle (delta / 35) (steps + 36) else (delta, steps)
termination_by delta
decreasing_by exact Nat.div_lt_self (by omega) (by omega)

/-- The bias for the number after `delta`, which brought a text to `count` characters. -/
def nextBias (delta count : Nat) (isFirst : Bool) : Nat :=
  let damped := if isFirst then delta / 700 else delta / 2
  let (rest, steps) := settle (damped + damped / count) 0
  steps + 36 * rest / (rest + 38)

/-- A number with digits of mixed radix, the least one first. -/
def numberDigits (bias place value : Nat) : List Char :=
  let bound := threshold place bias
  if value < bound then [digitOf value]
  else
    digitOf (bound + (value - bound) % (36 - bound))
      :: numberDigits bias (place + 36) ((value - bound) / (36 - bound))
termination_by value
decreasing_by
  have := threshold_pos place bias
  exact Nat.lt_of_le_of_lt (Nat.div_le_self _ _) (by omega)

/-- A number and what follows it. -/
def number? (bias place weight : Nat) : List Char → Option (Nat × List Char)
  | [] => none
  | c :: rest => do
    let digit ← digitValue? c
    let bound := threshold place bias
    if digit < bound then return (digit * weight, rest)
    let (value, rest) ← number? bias (place + 36) (weight * (36 - bound)) rest
    return (digit * weight + value, rest)

theorem length_lt_of_number? {bias place weight value : Nat} {text rest : List Char}
    (h : number? bias place weight text = some (value, rest)) : rest.length < text.length := by
  induction text generalizing place weight value with
  | nil => simp [number?] at h
  | cons c tail ih =>
    simp only [number?, Option.bind_eq_bind, Option.bind_eq_some_iff] at h
    obtain ⟨digit, _, h⟩ := h
    split at h
    · cases h
      simp
    · simp only [Option.bind_eq_some_iff] at h
      obtain ⟨⟨inner, left⟩, hnumber, h⟩ := h
      cases h
      simpa using Nat.lt_succ_of_lt (ih hnumber)

/-- A text in the making: the code point last inserted, the place behind it, and the bias for the
next number. -/
structure Insertion where
  text : List Char
  code : Nat
  index : Nat
  bias : Nat
  isFirst : Bool
deriving Repr

/-- Inserts the next character, `delta` places on. Each time the end of the text is passed, the
code point is the next one. -/
def Insertion.next? (state : Insertion) (delta : Nat) : Option Insertion :=
  let count := state.text.length + 1
  let place := state.index + delta
  let code := state.code + place / count
  let index := place % count
  if code.isValidChar then
    some ⟨state.text.take index ++ Char.ofNat code :: state.text.drop index, code, index + 1,
      nextBias delta count state.isFirst, false⟩
  else none

def insertAll? (state : Insertion) (digits : List Char) : Option (List Char) :=
  match digits with
  | [] => some state.text
  | c :: rest =>
    match h : number? state.bias 36 1 (c :: rest) with
    | some (delta, left) => do
      have := length_lt_of_number? h
      insertAll? (← state.next? delta) left
    | none => none
termination_by digits.length
decreasing_by assumption

/-- What stands before the last hyphen and what stands behind it. -/
def splitLastHyphen (text : List Char) : List Char × List Char :=
  let reversed := text.reverse
  match reversed.dropWhile (· ≠ '-') with
  | [] => ([], text)
  | _ :: before => (before.reverse, (reversed.takeWhile (· ≠ '-')).reverse)

def isAscii (c : Char) : Bool :=
  c.toNat < 128

/-- The text that is written so. -/
def decode? (text : List Char) : Option (List Char) :=
  let (ascii, digits) := splitLastHyphen text
  if ascii.all isAscii then insertAll? ⟨ascii, 128, 0, 72, true⟩ digits else none

/-- The distinct values of a list of numbers, in ascending order. -/
def distinctAscending (codes : List Nat) : List Nat :=
  (codes.mergeSort).eraseReps

/-- An encoding in the making: the digits so far, the pending distance, how many characters are
inserted, and the bias for the next number. -/
structure Progress where
  digits : List Char
  delta : Nat
  count : Nat
  bias : Nat
  isFirst : Bool
deriving Repr

/-- Passes one character while those of code point `code` are inserted. -/
def Progress.pass (code : Nat) (state : Progress) (c : Char) : Progress :=
  if c.toNat < code then { state with delta := state.delta + 1 }
  else if c.toNat = code then
    ⟨state.digits ++ numberDigits state.bias 36 state.delta, 0, state.count + 1,
      nextBias state.delta (state.count + 1) state.isFirst, false⟩
  else state

/-- Inserts the characters of each code point in turn; those below `from` are there. -/
def Progress.insertCodes (text : List Char) (state : Progress) (start : Nat) :
    List Nat → Progress
  | [] => state
  | code :: rest =>
    let skipped := { state with delta := state.delta + (code - start) * (state.count + 1) }
    let passed := text.foldl (Progress.pass code) skipped
    insertCodes text { passed with delta := passed.delta + 1 } (code + 1) rest

/-- The written form of a text. -/
def encode (text : List Char) : List Char :=
  let ascii := text.filter isAscii
  let codes := distinctAscending ((text.filter (!isAscii ·)).map Char.toNat)
  let inserted := Progress.insertCodes text ⟨[], 0, ascii.length, 72, true⟩ 128 codes
  (if ascii.isEmpty then [] else ascii ++ ['-']) ++ inserted.digits

end SecondFactor.Punycode
