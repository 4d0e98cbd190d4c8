import SecondFactor.Origin.Address
import SecondFactor.Origin.DomainName
import SecondFactor.Text.Percent

/-!
URLs, as far as they tell where a page comes from: the scheme, the host and the port. Nothing is
kept of user names, paths, queries and fragments.
-/

namespace SecondFactor

inductive Host where
  | domain (name : List Char)
  | addressV4 (address : Nat)
  | addressV6 (groups : List Nat)
deriving DecidableEq, Repr

structure Url where
  scheme : List Char
  host : Option Host
  /-- The port, unless it is the usual one. -/
  port : Option Nat
  /-- What follows the scheme up to a query or a fragment, where no host is named. -/
  path : List Char
deriving DecidableEq, Repr

namespace Host

def text : Host → List Char
  | .domain name => name
  | .addressV4 address => AddressV4.render address
  | .addressV6 groups => '[' :: AddressV6.render groups ++ [']']

/-- An address in brackets. -/
def bracketed? (text : List Char) : Option Host := do
  guard (text.getLast? = some ']')
  return .addressV6 (← AddressV6.parse? (text.drop 1).dropLast)

/-- A host of the web: an address or a domain name, which may be percent-encoded. -/
def parse? (text : List Char) : Option Host := do
  if text.head? = some '[' then bracketed? text
  else
    let name ← Utf8.decode? (Percent.decode text) >>= DomainName.toAscii?
    guard (name ≠ [])
    if AddressV4.isAddress name then return .addressV4 (← AddressV4.parse? name)
    else return .domain name

def isForbidden (c : Char) : Bool :=
  "\x00\t\n\r #/:<>?@[\\]^|".toList.contains c

/-- A host of a scheme that gives names a meaning of its own. -/
def parseOpaque? (text : List Char) : Option Host := do
  if text.head? = some '[' then bracketed? text
  else
    guard (!text.any isForbidden)
    return .domain (Percent.encodeControls text)

end Host

namespace Url

/-- The schemes of the web with their usual ports. Only they have hosts in the common form, and
origins. -/
def webSchemes : List (List Char × Nat) :=
  [("http", 80), ("https", 443), ("ws", 80), ("wss", 443), ("ftp", 21)].map fun (name, port) =>
    (name.toList, port)

def usualPort? (scheme : List Char) : Option Nat :=
  webSchemes.lookup scheme

/-- Spaces and control characters around a URL do not count, nor do tabs and line ends in it. -/
def clean (text : List Char) : List Char :=
  let trimmed := ((text.dropWhile (· ≤ ' ')).reverse.dropWhile (· ≤ ' ')).reverse
  trimmed.filter fun c => c ≠ '\t' && c ≠ '\n' && c ≠ '\r'

def isSchemeChar (c : Char) : Bool :=
  c.isAlphanum || c = '+' || c = '-' || c = '.'

/-- The scheme, in lower case, and what follows its colon. -/
def splitScheme? (text : List Char) : Option (List Char × List Char) :=
  match text.span (· ≠ ':') with
  | (first :: scheme, ':' :: rest) =>
    if first.isAlpha && scheme.all isSchemeChar then
      some ((first :: scheme).map Char.toLower, rest)
    else none
  | _ => none

def endsAuthority (isWeb : Bool) (c : Char) : Bool :=
  c = '/' || c = '?' || c = '#' || (isWeb && c = '\\')

/-- What names a user stands before the last `@`. -/
def dropUser (authority : List Char) : List Char :=
  (authority.reverse.takeWhile (· ≠ '@')).reverse

/-- The host, and what follows it from the first colon on that is not within brackets. -/
def splitHost (inBrackets : Bool) : List Char → List Char × List Char
  | [] => ([], [])
  | c :: rest =>
    if c = ':' && !inBrackets then ([], c :: rest)
    else
      let (host, after) := splitHost (if c = '[' then true else if c = ']' then false else inBrackets)
        rest
      (c :: host, after)

/-- The digits of a port, and nothing behind them but what may end them. -/
def port? (isWeb : Bool) (text : List Char) : Option (Option Nat) := do
  let (digits, rest) := text.span Char.isDigit
  let value ← numberOf? 10 digits
  guard (value < 65536 && (rest = [] || (!isWeb && rest.head? = some '\\')))
  return if digits = [] then none else some value

/-- The host and the port of what follows two slashes. -/
def authority? (scheme text : List Char) : Option (Option Host × Option Nat) := do
  let usual := usualPort? scheme
  let isWeb := usual.isSome
  let authority := text.takeWhile fun c => !endsAuthority isWeb c
  let (host, after) := splitHost false (dropUser authority)
  if host = [] then
    guard (!isWeb && after = [] && !authority.contains '@')
    return (none, none)
  let host ← if isWeb then Host.parse? host else Host.parseOpaque? host
  let port ← match after with
    | [] => some none
    | _ :: digits => port? isWeb digits
  return (some host, if port = usual then none else port)

/-- A URL that is complete in itself. Those of files are taken to name no host. -/
def parse? (text : List Char) : Option Url := do
  let (scheme, rest) ← splitScheme? (clean text)
  if scheme = "file".toList then return ⟨scheme, none, none, []⟩
  if (usualPort? scheme).isSome then
    let (host, port) ← authority? scheme (rest.dropWhile fun c => c = '/' || c = '\\')
    return ⟨scheme, host, port, []⟩
  match rest with
  | '/' :: '/' :: rest =>
    let (host, port) ← authority? scheme rest
    return ⟨scheme, host, port, []⟩
  | _ =>
    let path := rest.takeWhile fun c => c ≠ '?' && c ≠ '#'
    return ⟨scheme, none, none, Percent.encodeControls path⟩

/-- The origin of a URL of the web, as text. -/
def webOrigin? (url : Url) : Option (List Char) := do
  let _ ← usualPort? url.scheme
  let host ← url.host
  let port := match url.port with
    | some port => ':' :: Nat.toDigits 10 port
    | none => []
  return url.scheme ++ "://".toList ++ host.text ++ port

/-- The origin of a URL, or of the URL within it, at most `depth` times. -/
def originWithin? (depth : Nat) (text : List Char) : Option (List Char) := do
  let url ← parse? text
  match depth with
  | 0 => url.webOrigin?
  | depth + 1 => if url.scheme = "blob".toList then originWithin? depth url.path else url.webOrigin?

end Url

/-- The origin of a URL in its one written form; `none` for URLs that have no origin to compare. -/
def originOf? (url : String) : Option String :=
  (Url.originWithin? url.length url.toList).map String.ofList

end SecondFactor
