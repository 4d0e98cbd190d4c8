import SecondFactor.Bytes

/-!
JSON values as they are written. Members keep their order and may repeat, numbers keep their
digits, and a string that no text stands for, because of bytes that are not UTF-8 or a surrogate
on its own, is kept as `none`.
-/

namespace SecondFactor

/-- A number, digit by digit. -/
structure Numeral where
  negative : Bool
  whole : List Nat
  fraction : Option (List Nat)
  exponent : Option (Bool × List Nat)
deriving DecidableEq, Repr

inductive Json where
  | null
  | bool (value : Bool)
  | number (numeral : Numeral)
  | text (value : Option String)
  | array (items : List Json)
  | object (members : List (Option String × Json))
deriving Repr

namespace Numeral

/-- The number that decimal digits write. -/
def ofDigits (digits : List Nat) : Nat :=
  digits.foldl (fun value digit => value * 10 + digit) 0

def ofNat (value : Nat) : Numeral where
  negative := false
  whole := (Nat.toDigits 10 value).map fun c => c.toNat - 48
  fraction := none
  exponent := none

/-- The value of a numeral with neither sign, point nor exponent. -/
def nat? (numeral : Numeral) : Option Nat :=
  match numeral with
  | ⟨false, whole, none, none⟩ => some (ofDigits whole)
  | _ => none

end Numeral

namespace Json

def string (value : String) : Json :=
  .text (some value)

def nat (value : Nat) : Json :=
  .number (Numeral.ofNat value)

def text? : Json → Option String
  | .text value => value
  | _ => none

def nat? : Json → Option Nat
  | .number numeral => numeral.nat?
  | _ => none

/-- An object with members of the given names. -/
def record (members : List (String × Json)) : Json :=
  .object (members.map fun (name, value) => (some name, value))

/-- The members that go by a name. -/
def named (name : String) (members : List (Option String × Json)) : List Json :=
  (members.filter fun member => member.1 = some name).map Prod.snd

/-- What stands under a name that may be absent, and may not repeat. -/
def atMostOnce (name : String) (members : List (Option String × Json)) :
    Option (Option Json) :=
  match named name members with
  | [] => some none
  | [value] => some (some value)
  | _ => none

/-- The values of a record's members, in the order of `names`. An object may leave members out
and hold others; an array holds exactly one item a name. -/
def fields? (names : List String) : Json → Option (List (Option Json))
  | .array items => if items.length = names.length then some (items.map some) else none
  | .object members =>
    if members.all fun member => member.1.isSome then
      names.mapM fun name => atMostOnce name members
    else none
  | _ => none

/-- One of some names, written as a string or as the only member of an object, over `null`. -/
def variant? : Json → Option String
  | .text name => name
  | .object [(name, .null)] => name
  | _ => none

end Json

end SecondFactor
