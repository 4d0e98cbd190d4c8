/-!
Which part of a host its owner registered. Below a public suffix, such as `co.uk`, anyone can
register a name, so hosts belong together when they share the name registered below the suffix.
-/

namespace SecondFactor

/-- The registrable domain of a host, if it has one. -/
abbrev Registry := List Char → Option (List Char)

/-- A rule on public suffixes, with its labels in reverse. -/
inductive SuffixRule where
  /-- The labels are a public suffix. -/
  | suffix (labels : List (List Char))
  /-- Every name one label longer is a public suffix. -/
  | below (labels : List (List Char))
  /-- Against a rule of the kind before, this name is none. -/
  | except (labels : List (List Char))
deriving DecidableEq, Repr

namespace SuffixRule

def labels : SuffixRule → List (List Char)
  | .suffix labels | .below labels | .except labels => labels

/-- The number of labels in the public suffix of a host, by one rule. The labels of the host are
in reverse. -/
def length? (host : List (List Char)) (rule : SuffixRule) : Option Nat :=
  if rule.labels.isPrefixOf host then
    match rule with
    | .suffix labels => some labels.length
    | .below labels => if labels.length < host.length then some (labels.length + 1) else none
    | .except _ => none
  else none

/-- The same, by a rule that makes an exception. -/
def exceptLength? (host : List (List Char)) : SuffixRule → Option Nat
  | .except labels => if labels.isPrefixOf host then some (labels.length - 1) else none
  | _ => none

/-- A suffix in the order it is read in. -/
def ofText (make : List (List Char) → SuffixRule) (name : String) : SuffixRule :=
  make (name.toList.splitOn '.').reverse

/-- The rules that are built in: a few, of each kind, that stand for the whole list of public
suffixes. Under a suffix that is on that list and not here, the last label alone counts as public,
or what a shorter rule says. -/
def builtIn : List SuffixRule :=
  ["com", "org", "co", "io", "github.io", "uk", "co.uk", "appspot.com", "s3.amazonaws.com", "de",
    "au", "com.au", "jp"].map (ofText .suffix)
  ++ ["ck", "kawasaki.jp"].map (ofText .below)
  ++ ["www.ck", "city.kawasaki.jp"].map (ofText .except)

end SuffixRule

namespace Registry

/-- The number of labels in the public suffix of a host. An exception wins, then the longest
suffix; without any rule it is the last label. -/
def suffixLength (rules : List SuffixRule) (host : List (List Char)) : Nat :=
  match rules.findSome? (SuffixRule.exceptLength? host) with
  | some length => length
  | none => (rules.filterMap (SuffixRule.length? host)).foldl max 1

/-- One label more than the public suffix. Hosts with an empty label have no registrable domain. -/
def ofRules (rules : List SuffixRule) : Registry := fun host =>
  let labels := host.splitOn '.'
  let length := suffixLength rules labels.reverse
  if labels.contains [] || labels.length ≤ length then none
  else some (['.'].intercalate (labels.drop (labels.length - (length + 1))))

/-- The registry of the few rules that are built in. What is proved of origins supposes no more than
that there is some registry, so it holds with the whole list too. -/
def builtIn : Registry :=
  ofRules SuffixRule.builtIn

/-- What stands in front of a dot and a suffix. -/
def front? (host suffix : List Char) : Option (List Char) :=
  if ('.' :: suffix).isSuffixOf host then some (host.take (host.length - (suffix.length + 1)))
  else none

/-- The longest of some suffixes that a host ends in, with what stands in front of it. -/
def longestSuffix? (host : List Char) (suffixes : List (List Char)) :
    Option (List Char × List Char) :=
  (suffixes.filterMap fun suffix => (front? host suffix).map fun front => (front, suffix)).foldl
    (fun best found =>
      match best with
      | some kept => if found.1.length < kept.1.length then some found else some kept
      | none => some found)
    none

/-- The last label in front of the longest suffix, with that suffix. -/
def ofSuffixes (suffixes : List (List Char)) : Registry := fun host => do
  let (front, suffix) ← longestSuffix? host suffixes
  if front = [] then none
  else return ((front.splitOn '.').getLast?.getD []) ++ '.' :: suffix

end Registry

end SecondFactor
