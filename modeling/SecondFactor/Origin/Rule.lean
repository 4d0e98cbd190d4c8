import SecondFactor.Failure
import SecondFactor.Origin.Registry
import SecondFactor.Origin.Url

/-!
Whether a page may use keys that are bound to an application id. The id has to be on the page's own
host or on a parent of it that belongs to the same registrant.
-/

namespace SecondFactor

/-- Checks an application id against the origin of a page: `check appId origin`. -/
abbrev OriginCheck := String → String → Except Failure Unit

/-- Accepts every page. -/
def OriginCheck.any : OriginCheck :=
  fun _ _ => .ok ()

structure OriginRule where
  registry : Registry
  /-- Whether pages of the local machine are taken, whatever their scheme. -/
  allowsLocalhost : Bool

namespace OriginRule

def localhost : List Char := "localhost".toList

/-- Whether a host is the other one or lies below it. -/
def isWithin (host parent : List Char) : Bool :=
  host = parent || ('.' :: parent).isSuffixOf host

/-- Whether both hosts have the same registrable domain. -/
def haveSameOwner (registry : Registry) (host other : List Char) : Bool :=
  match registry host, registry other with
  | some domain, some otherDomain => domain = otherDomain
  | _, _ => false

/-- Whether a page at `scheme` and `host` may use application ids of `scheme` and `appHost`. -/
def acceptsHosts (rule : OriginRule) (scheme appHost host : List Char) : Bool :=
  if host = localhost then rule.allowsLocalhost && appHost = host
  else
    scheme = "https".toList && haveSameOwner rule.registry appHost host && isWithin host appHost

/-- Whether both URLs name a host under one scheme, and the rule accepts them. -/
def acceptsUrls (rule : OriginRule) (appId origin : Url) : Bool :=
  match appId.host, origin.host with
  | some appHost, some host =>
    appId.scheme = origin.scheme && rule.acceptsHosts origin.scheme appHost.text host.text
  | _, _ => false

def accepts (rule : OriginRule) (appId origin : String) : Bool :=
  match Url.parse? appId.toList, Url.parse? origin.toList with
  | some appUrl, some url => rule.acceptsUrls appUrl url
  | _, _ => false

/-- The failure names both texts as they were given. -/
def check (rule : OriginRule) : OriginCheck := fun appId origin =>
  if rule.accepts appId origin then .ok () else .error (.originMismatch origin appId)

end OriginRule

end SecondFactor
