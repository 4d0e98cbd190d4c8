/-!
Tables over the code points, as runs of code points with one value. A table is written as a text
of numbers in base 32, lower case digits, separated by points.
-/

namespace SecondFactor

/-- The first code point of each run, in ascending order, with the run's value. -/
structure RunTable (α : Type) where
  entries : Array (Nat × α)

namespace RunTable

/-- The number of entries that start at `code` or before it, when it is at least `low` and at most
`high`. -/
def countUpTo {α : Type} (entries : Array (Nat × α)) (code low high : Nat) : Nat :=
  if low < high then
    let middle := (low + high) / 2
    match entries[middle]? with
    | some (start, _) =>
      if start ≤ code then countUpTo entries code (middle + 1) high
      else countUpTo entries code low middle
    | none => low
  else low
termination_by high - low

/-- The run that a code point is in: where it starts, and its value. -/
def find? {α : Type} (table : RunTable α) (code : Nat) : Option (Nat × α) :=
  match countUpTo table.entries code 0 table.entries.size with
  | 0 => none
  | count + 1 => table.entries[count]?

/-- The value of a code point's run. -/
def valueAt (table : RunTable Nat) (code : Nat) : Nat :=
  match table.find? code with
  | some (_, value) => value
  | none => 0

/-- The value of a base-32 digit. -/
def digitValue (c : Char) : Nat :=
  if c.isDigit then c.toNat - 48 else c.toNat - 87

/-- The numbers that a text of digits and points writes. -/
def numbers (written : String) : List Nat :=
  let (last, before) := written.toList.foldl
    (fun (current, before) c =>
      if c = '.' then (0, current :: before) else (current * 32 + digitValue c, before))
    (0, [])
  (last :: before).reverse

/-- Runs one after the other from code point zero on, each given as its length and its value. -/
def runsFrom (start : Nat) : List Nat → List (Nat × Nat)
  | length :: value :: rest => (start, value) :: runsFrom (start + length) rest
  | _ => []

/-- The table of a text of lengths and values. -/
def ofText (written : String) : RunTable Nat :=
  ⟨(runsFrom 0 (numbers written)).toArray⟩

end RunTable

end SecondFactor
