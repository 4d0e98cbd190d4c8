import SecondFactor.Text.Printable

/-!
A text in quotation marks, in which every character can be told from every other: those that do
not show on their own are written by their number.
-/

namespace SecondFactor.Quoted

/-- A character by its number in hexadecimal. -/
def number (c : Char) : List Char :=
  ['\\', 'u', '\x7b'] ++ Nat.toDigits 16 c.toNat ++ ['\x7d']

def escape (c : Char) : List Char :=
  if c = '\x00' then ['\\', '0']
  else if c = '\t' then ['\\', 't']
  else if c = '\n' then ['\\', 'n']
  else if c = '\r' then ['\\', 'r']
  else if c = '"' ∨ c = '\\' then ['\\', c]
  else if isPrintable c then [c]
  else number c

def encode (text : String) : String :=
  String.ofList ('"' :: text.toList.flatMap escape ++ ['"'])

end SecondFactor.Quoted
