import SecondFactor.Web.Field
import SecondFactor.Json.Bounded

/-!
What a relying party keeps of an account: the keys enrolled for it, and the sessions that wait for
an answer.
-/

namespace SecondFactor.Web

/-- An enrolled key. Only its counter ever changes. -/
structure Enrolment where
  keyHandle : Bytes
  publicKey : Bytes
  certificate : Bytes
  counter : UInt32
  enrolledAt : UInt64
deriving DecidableEq, Repr

/-- What a session was opened for: a new key, or a signature by the key it names. -/
inductive Purpose where
  | enrol
  | sign (publicKey : Bytes)
deriving DecidableEq, Repr

/-- A challenge and the account it was issued for. One response uses it up. -/
structure Session where
  account : String
  appId : String
  challenge : Bytes
  purpose : Purpose
deriving DecidableEq, Repr

def Session.publicKey? (session : Session) : Option Bytes :=
  match session.purpose with
  | .enrol => none
  | .sign publicKey => some publicKey

namespace Enrolment

def toJson (key : Enrolment) : Json :=
  .record [("keyHandle", .binary key.keyHandle), ("publicKey", .binary key.publicKey),
    ("attestationCertificate", .binary key.certificate), ("counter", .word key.counter),
    ("enrollmentTime", .longWord key.enrolledAt)]

def ofJson? (json : Json) : Option Enrolment := do
  match ← json.fields?
    ["keyHandle", "publicKey", "attestationCertificate", "counter", "enrollmentTime"] with
  | [some keyHandle, some publicKey, some certificate, some counter, some enrolledAt] =>
    return ⟨← keyHandle.binary?, ← publicKey.binary?, ← certificate.binary?, ← counter.word?,
      ← enrolledAt.longWord?⟩
  | _ => none

end Enrolment

namespace Purpose

def toJson : Purpose → Json
  | .enrol => .record [("type", .string "enroll")]
  | .sign publicKey => .record [("type", .string "sign"), ("publicKey", .binary publicKey)]

/-- The purpose that a tag names, from the members of the object it stands in. Members other than
its own are ignored. -/
def ofMembers? (tag : String) (members : List (Option String × Json)) : Option Purpose :=
  if tag = "enroll" then some .enrol
  else if tag = "sign" then do
    let publicKey ← (← Json.atMostOnce "publicKey" members)
    return .sign (← publicKey.binary?)
  else none

/-- The purpose that a tag names, from the items behind it. -/
def ofItems? (tag : String) (items : List Json) : Option Purpose :=
  if tag = "enroll" then
    match items with
    | [] => some .enrol
    | _ => none
  else if tag = "sign" then
    match items with
    | [publicKey] => do return .sign (← publicKey.binary?)
    | _ => none
  else none

/-- How many arrays and objects may stand around one another in a purpose, which stands in a
session itself. -/
def maxDepth : Nat := 126

/-- The tag is the member `type`, or the first item. It is looked for before the rest is read, so
every part of the value has to be one that can be kept. -/
def ofJson? (json : Json) : Option Purpose :=
  if json.isBounded maxDepth then
    match json with
    | .object members => do
      let tag ← (← Json.atMostOnce "type" members)
      ofMembers? (← tag.text?) members
    | .array (tag :: items) => do ofItems? (← tag.text?) items
    | _ => none
  else none

end Purpose

namespace Session

def toJson (session : Session) : Json :=
  .record [("accountName", .string session.account), ("appId", .string session.appId),
    ("challenge", .binary session.challenge), ("kind", session.purpose.toJson)]

def ofJson? (json : Json) : Option Session := do
  match ← json.fields? ["accountName", "appId", "challenge", "kind"] with
  | [some account, some appId, some challenge, some purpose] =>
    return ⟨← account.text?, ← appId.text?, ← challenge.binary?, ← Purpose.ofJson? purpose⟩
  | _ => none

end Session

end SecondFactor.Web
