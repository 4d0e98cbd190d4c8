import SecondFactor.Certificate.Element

/-!
The two notations of a point in time, as far as a certificate needs them: which texts are dates
of the calendar. Their order and the present are of no concern.
-/

namespace SecondFactor.Certificate

namespace Date

def twoDigits? (tens ones : UInt8) : Option Nat :=
  let digit? := fun byte : UInt8 =>
    if 0x30 ≤ byte ∧ byte ≤ 0x39 then some (byte.toNat - 48) else none
  do return (← digit? tens) * 10 + (← digit? ones)

/-- Two digits if there are two bytes, and zero if there are not. -/
def optionalTwoDigits? : Bytes → Option (Nat × Bytes)
  | tens :: ones :: rest => do return (← twoDigits? tens ones, rest)
  | rest => some (0, rest)

def isLeapYear (year : Nat) : Bool :=
  year % 4 = 0 ∧ (year % 100 ≠ 0 ∨ year % 400 = 0)

def daysInMonth (year month : Nat) : Nat :=
  if month = 2 then (if isLeapYear year then 29 else 28)
  else if month = 4 ∨ month = 6 ∨ month = 9 ∨ month = 11 then 30
  else 31

def isDate (year month day : Nat) : Bool :=
  1 ≤ month ∧ month ≤ 12 ∧ 1 ≤ day ∧ day ≤ daysInMonth year month

def isTimeOfDay (hour minute second : Nat) : Bool :=
  hour ≤ 23 ∧ minute ≤ 59 ∧ second ≤ 59

/-- `Z`, or a signed offset of hours and minutes. -/
def isZone : Bytes → Bool
  | [0x5A] => true
  | [sign, hour₁, hour₂, minute₁, minute₂] =>
    (sign = 0x2B || sign = 0x2D) &&
      match twoDigits? hour₁ hour₂, twoDigits? minute₁ minute₂ with
      | some hour, some minute => hour ≤ 25 && minute ≤ 59
      | _, _ => false
  | _ => false

/-- `YYMMDDhhmm`, seconds or none, and a zone. -/
def isUtcTime : Bytes → Bool
  | y₁ :: y₂ :: mo₁ :: mo₂ :: d₁ :: d₂ :: h₁ :: h₂ :: mi₁ :: mi₂ :: rest =>
    let accepted := do
      let year ← twoDigits? y₁ y₂
      let month ← twoDigits? mo₁ mo₂
      let day ← twoDigits? d₁ d₂
      let hour ← twoDigits? h₁ h₂
      let minute ← twoDigits? mi₁ mi₂
      let (second, zone) ← optionalTwoDigits? rest
      return isDate year month day && isTimeOfDay hour minute second && isZone zone
    accepted = some true
  | _ => false

/-- A point and up to three digits, or nothing. -/
def fraction? : Bytes → Option Bytes
  | 0x2E :: rest =>
    let isDigit := fun byte : UInt8 => 0x30 ≤ byte && byte ≤ 0x39
    if (rest.takeWhile isDigit).length ≤ 3 then some (rest.dropWhile isDigit) else none
  | rest => some rest

/-- `YYYYMMDDhhmm`, seconds, perhaps a fraction, and `Z`. -/
def isGeneralizedTime (bytes : Bytes) : Bool :=
  match bytes with
  | y₁ :: y₂ :: y₃ :: y₄ :: mo₁ :: mo₂ :: d₁ :: d₂ :: h₁ :: h₂ :: rest =>
    let accepted := do
      let century ← twoDigits? y₁ y₂
      let year ← twoDigits? y₃ y₄
      let month ← twoDigits? mo₁ mo₂
      let day ← twoDigits? d₁ d₂
      let hour ← twoDigits? h₁ h₂
      let (minute, rest) ← optionalTwoDigits? rest
      let (second, rest) ← optionalTwoDigits? rest
      let zone ← fraction? rest
      return isDate (century * 100 + year) month day && isTimeOfDay hour minute second
        && zone == [0x5A]
    14 ≤ bytes.length && accepted = some true
  | _ => false

/-- Skips one point in time. -/
def skip? (bytes : Bytes) : Option Bytes := do
  let (element, rest) ← element? bytes
  if element.tag = Tag.utcTime ∧ isUtcTime element.contents then some rest
  else if element.tag = Tag.generalizedTime ∧ isGeneralizedTime element.contents then some rest
  else none

end Date

end SecondFactor.Certificate
