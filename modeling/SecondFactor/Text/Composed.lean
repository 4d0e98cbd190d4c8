import SecondFactor.Text.CombiningClass
import SecondFactor.Text.Composite

/-!
The composed form of a text: marks in the order of their combining classes, and every base joined
with the marks that one character can stand for together with it.
-/

namespace SecondFactor.Composed

/-- The parts of a character, themselves taken apart `depth` more times. -/
def expand : Nat → Char → List Char
  | 0, c => [c]
  | depth + 1, c =>
    match parts? c with
    | some (first, second) => expand depth first ++ [second]
    | none => [c]

/-- No composite stands more than this many steps above its base. -/
def maxDepth : Nat := 3

/-- Puts a mark in front of a text in which marks are in order, behind those of a lower class. -/
def place (c : Char) : List Char → List Char
  | [] => [c]
  | other :: rest =>
    let rank := combiningClass other
    if 0 < rank ∧ rank < combiningClass c then other :: place c rest else c :: other :: rest

/-- Orders every run of marks by class. Marks of one class stay in order. -/
def order (text : List Char) : List Char :=
  text.foldr place []

/-- A text that is being composed, up to the last base, with what follows that base in reverse. -/
structure Partial where
  finished : List Char
  base : Option Char
  marks : List Char
deriving Repr

namespace Partial

def empty : Partial := ⟨[], none, []⟩

def toList (state : Partial) : List Char :=
  state.finished ++ state.base.toList ++ state.marks.reverse

/-- Whether no mark stands in the way of joining a character of class `rank` with the base. -/
def reaches (state : Partial) (rank : Nat) : Bool :=
  match state.marks with
  | [] => true
  | last :: _ => combiningClass last < rank

/-- The base joined with a character, if it reaches the base and there is one for both. -/
def join? (state : Partial) (c : Char) : Option Char :=
  match state.base with
  | some base => if state.reaches (combiningClass c) then compose? base c else none
  | none => none

def push (state : Partial) (c : Char) : Partial :=
  match state.join? c with
  | some whole => { state with base := some whole }
  | none =>
    if combiningClass c = 0 then ⟨state.toList, some c, []⟩
    else { state with marks := c :: state.marks }

end Partial

/-- The composed form of a text. -/
def compose (text : List Char) : List Char :=
  ((order (text.flatMap (expand maxDepth))).foldl Partial.push .empty).toList

end SecondFactor.Composed
