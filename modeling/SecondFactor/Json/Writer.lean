import SecondFactor.Json.Value
import SecondFactor.Text.Utf8
import SecondFactor.Bytes.Hex

/-!
Writing JSON, without blanks. In strings, quotes, backslashes and the characters below the blank
are escaped, five of them by a letter; nothing else is.
-/

namespace SecondFactor.Json

/-- The letter that stands for a control character behind a backslash. -/
def escapeLetter? (c : Char) : Option Char :=
  if c.toNat = 8 then some 'b'
  else if c.toNat = 9 then some 't'
  else if c.toNat = 10 then some 'n'
  else if c.toNat = 12 then some 'f'
  else if c.toNat = 13 then some 'r'
  else none

def escaped (c : Char) : List Char :=
  if c = '"' then ['\\', '"']
  else if c = '\\' then ['\\', '\\']
  else if c.toNat < 32 then
    match escapeLetter? c with
    | some letter => ['\\', letter]
    | none => ['\\', 'u', '0', '0', Hex.digit (c.toNat / 16), Hex.digit (c.toNat % 16)]
  else [c]

/-- A string that no text stands for is written as a surrogate on its own. -/
def writeText : Option String → List Char
  | some value => '"' :: (value.toList.flatMap escaped ++ ['"'])
  | none => ['"', '\\', 'u', 'd', '8', '0', '0', '"']

def writeDigits (digits : List Nat) : List Char :=
  digits.map Hex.digit

def writeNumeral (numeral : Numeral) : List Char :=
  (if numeral.negative then ['-'] else []) ++ writeDigits numeral.whole
    ++ (match numeral.fraction with
      | some digits => '.' :: writeDigits digits
      | none => [])
    ++ (match numeral.exponent with
      | some (negative, digits) => 'e' :: ((if negative then ['-'] else []) ++ writeDigits digits)
      | none => [])

mutual

def write : Json → List Char
  | .null => ['n', 'u', 'l', 'l']
  | .bool true => ['t', 'r', 'u', 'e']
  | .bool false => ['f', 'a', 'l', 's', 'e']
  | .number numeral => writeNumeral numeral
  | .text value => writeText value
  | .array items => '[' :: writeItems items
  | .object members => '\x7b' :: writeMembers members

def writeItems : List Json → List Char
  | [] => [']']
  | [item] => write item ++ [']']
  | item :: rest => write item ++ ',' :: writeItems rest

def writeMembers : List (Option String × Json) → List Char
  | [] => ['\x7d']
  | [(name, value)] => writeText name ++ ':' :: (write value ++ ['\x7d'])
  | (name, value) :: rest => writeText name ++ ':' :: (write value ++ ',' :: writeMembers rest)

end

def render (json : Json) : String :=
  String.ofList (write json)

/-- The bytes of a written value. -/
def bytes (json : Json) : Bytes :=
  Utf8.encode (write json)

end SecondFactor.Json
