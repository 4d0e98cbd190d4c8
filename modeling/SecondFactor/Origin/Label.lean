import SecondFactor.Text.CombiningClass
import SecondFactor.Text.Direction
import SecondFactor.Text.Joining
import SecondFactor.Text.Mark

/-!
What a label of a domain name may look like: no mark at its start, invisible joiners only where
they have an effect, and no mixture of writing directions.
-/

namespace SecondFactor.Label

def nonJoiner : Char := '\u200c'
def joiner : Char := '\u200d'

/-- The combining class of the signs that take a vowel away. -/
def viramaClass : Nat := 9

def isVirama (c : Char) : Bool :=
  combiningClass c = viramaClass

/-- How the first character joins that is not transparent. -/
def nextJoining (text : List Char) : Option Joining :=
  (text.map Joining.ofChar).find? (· ≠ .transparent)

/-- Whether a non-joiner keeps two characters apart that would join. The text before it is given
backwards. -/
def separates (before after : List Char) : Bool :=
  (nextJoining before = some .left || nextJoining before = some .dual)
    && (nextJoining after = some .right || nextJoining after = some .dual)

/-- Whether every joiner and non-joiner stands behind a virama, or separates two characters. The
text before is given backwards. -/
def joinersFit (before : List Char) : List Char → Bool
  | [] => true
  | c :: rest =>
    let afterVirama := (before.head?.map isVirama).getD false
    let fits :=
      if c = joiner then afterVirama
      else if c = nonJoiner then afterVirama || separates before rest
      else true
    fits && joinersFit (c :: before) rest

/-- Whether a label that is not all ASCII may stand in a name. -/
def isWellFormed (label : List Char) : Bool :=
  !(label.head?.map isMark).getD false && joinersFit [] label

def isRightToLeft (c : Char) : Bool :=
  [Direction.rightToLeft, .arabicLetter, .arabicNumber].contains (.ofChar c)

/-- What may stand in a label of either direction. -/
def neutralDirections : List Direction :=
  [.europeanNumber, .europeanSeparator, .commonSeparator, .europeanTerminator, .neutral, .boundary,
    .mark]

/-- The last direction of a label that is not a mark's. -/
def lastDirection (directions : List Direction) : Option Direction :=
  directions.reverse.find? (· ≠ .mark)

def isLeftToRightLabel (directions : List Direction) : Bool :=
  directions.all (fun d => d = .leftToRight || neutralDirections.contains d)
    && (match lastDirection directions with
      | some last => last = .leftToRight || last = .europeanNumber
      | none => true)

/-- Numbers in such a label are all European or all Arabic. -/
def isRightToLeftLabel (directions : List Direction) : Bool :=
  directions.all (fun d =>
      [Direction.rightToLeft, .arabicLetter, .arabicNumber].contains d
        || neutralDirections.contains d)
    && (match lastDirection directions with
      | some last =>
        [Direction.rightToLeft, .arabicLetter, .arabicNumber, .europeanNumber].contains last
      | none => true)
    && !(directions.contains .europeanNumber && directions.contains .arabicNumber)

/-- Whether a label may stand in a name that has text written from right to left. Its first
character decides its direction. -/
def isBidirectional (label : List Char) : Bool :=
  let directions := label.map Direction.ofChar
  match directions with
  | [] => true
  | .leftToRight :: _ => isLeftToRightLabel directions
  | .rightToLeft :: _ | .arabicLetter :: _ => isRightToLeftLabel directions
  | _ => false

end SecondFactor.Label
