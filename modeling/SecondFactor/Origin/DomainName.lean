import SecondFactor.Text.Composed
import SecondFactor.Origin.Label
import SecondFactor.Origin.Mapping
import SecondFactor.Origin.Punycode

/-!
The ASCII form of a domain name. Letters become lower case, characters that look or sound the same
become one, and labels of other scripts are written in Punycode behind `xn--`.
-/

namespace SecondFactor.DomainName

/-- The start of an encoded label. -/
def acePrefix : List Char := ['x', 'n', '-', '-']

/-- The characters that no domain name holds. -/
def isForbidden (c : Char) : Bool :=
  c ≤ ' ' || c = '\x7f' || "%#/:<>?@[\\]^|".toList.contains c

/-- The most characters a label may have that is to be encoded. -/
def maxPlain : Nat := 1000

/-- The most characters an encoded label may have behind its start. -/
def maxEncoded : Nat := 2000

/-- The characters of a label, once it is decoded. An encoded label holds characters beyond ASCII,
and only such as stay what they are. -/
def decodeLabel? (label : List Char) : Option (List Char) :=
  if acePrefix.isPrefixOf label then do
    let encoded := label.drop acePrefix.length
    guard (encoded.length ≤ maxEncoded)
    let decoded ← Punycode.decode? encoded
    guard (!decoded.all Punycode.isAscii && decoded.all Mapping.isKept
      && Composed.compose decoded = decoded)
    return decoded
  else some label

def encodeLabel? (label : List Char) : Option (List Char) :=
  if label.all Punycode.isAscii then some label
  else if label.length ≤ maxPlain then some (acePrefix ++ Punycode.encode label)
  else none

/-- The labels of a name, mapped and decoded. -/
def labels? (name : List Char) : Option (List (List Char)) := do
  let mapped := (← name.mapM Mapping.map?).flatten
  ((Composed.compose mapped).splitOn '.').mapM decodeLabel?

/-- Whether the labels may stand side by side in a name. -/
def areValid (labels : List (List Char)) : Bool :=
  labels.all (fun label => label.all Punycode.isAscii || Label.isWellFormed label)
    && (!labels.any (fun label => label.any Label.isRightToLeft)
      || labels.all Label.isBidirectional)

/-- The ASCII form of a name with characters beyond ASCII or encoded labels. -/
def encode? (name : List Char) : Option (List Char) := do
  let labels ← labels? name
  guard (areValid labels)
  return ['.'].intercalate (← labels.mapM encodeLabel?)

/-- Whether a name is its own ASCII form, but for the case of letters. -/
def isPlain (name : List Char) : Bool :=
  name.all Punycode.isAscii
    && ((name.map Char.toLower).splitOn '.').all fun label => !acePrefix.isPrefixOf label

def toAscii? (name : List Char) : Option (List Char) := do
  let ascii ← if isPlain name then some (name.map Char.toLower) else encode? name
  guard (!ascii.any isForbidden)
  return ascii

end SecondFactor.DomainName
