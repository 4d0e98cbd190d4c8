import SecondFactor.Failure
import SecondFactor.Web.Field
import SecondFactor.Json.Reader
import SecondFactor.Json.Writer
import SecondFactor.PublicKey

/-!
Client data: the JSON text in which a client ties a challenge to the origin of the calling page.
The token signs its digest, so a relying party hashes the very bytes it received.
-/

namespace SecondFactor.Web

/-- The public key of a TLS channel, as a JSON web key. -/
structure ChannelId where
  kty : String
  crv : String
  x : String
  y : String
deriving DecidableEq, Repr

/-- Which of the two requests client data answers. -/
inductive ClientDataKind where
  | registration
  | authentication
deriving DecidableEq, Repr

structure ClientData where
  kind : ClientDataKind
  challenge : String
  channelId : Option ChannelId
  origin : String
deriving DecidableEq, Repr

namespace ChannelId

def ofPublicKey (key : PublicKey) : ChannelId where
  kty := "EC"
  crv := "P-256"
  x := Base64.encode .websafe (bytesOfNat 32 key.x)
  y := Base64.encode .websafe (bytesOfNat 32 key.y)

def toJson (channelId : ChannelId) : Json :=
  .record [("kty", .string channelId.kty), ("crv", .string channelId.crv),
    ("x", .string channelId.x), ("y", .string channelId.y)]

def ofJson? (json : Json) : Option ChannelId := do
  match ← json.fields? ["kty", "crv", "x", "y"] with
  | [some kty, some crv, some x, some y] =>
    return ⟨← kty.text?, ← crv.text?, ← x.text?, ← y.text?⟩
  | _ => none

end ChannelId

namespace ClientDataKind

def name : ClientDataKind → String
  | .registration => "navigator.id.finishEnrollment"
  | .authentication => "navigator.id.getAssertion"

def ofName? (name : String) : Option ClientDataKind :=
  if name = "navigator.id.finishEnrollment" then some .registration
  else if name = "navigator.id.getAssertion" then some .authentication
  else none

theorem ofName?_name (kind : ClientDataKind) : ofName? kind.name = some kind := by
  cases kind <;> simp [ofName?, name]

def toJson (kind : ClientDataKind) : Json :=
  .string kind.name

def ofJson? (json : Json) : Option ClientDataKind := do
  ofName? (← json.variant?)

end ClientDataKind

namespace ClientData

/-- The channel id is left out when there is none. -/
def toJson (data : ClientData) : Json :=
  .record ([("typ", data.kind.toJson), ("challenge", .string data.challenge)]
    ++ (match data.channelId with
      | some channelId => [("cid_pubkey", channelId.toJson)]
      | none => [])
    ++ [("origin", .string data.origin)])

def channelIdOfJson? : Option Json → Option (Option ChannelId)
  | none | some .null => some none
  | some json => (ChannelId.ofJson? json).map some

def ofJson? (json : Json) : Option ClientData := do
  match ← json.fields? ["typ", "challenge", "cid_pubkey", "origin"] with
  | [some kind, some challenge, channelId, some origin] =>
    return ⟨← ClientDataKind.ofJson? kind, ← challenge.text?, ← channelIdOfJson? channelId,
      ← origin.text?⟩
  | _ => none

/-- The bytes that are hashed and sent. -/
def bytes (data : ClientData) : Bytes :=
  data.toJson.bytes

def parse (bytes : Bytes) : Except FormatFault ClientData :=
  match Json.parse? bytes >>= ofJson? with
  | some data => .ok data
  | none => .error .clientData

def decodedChallenge (data : ClientData) : Except FormatFault Bytes :=
  match Base64.decode? .websafe data.challenge with
  | some bytes => .ok bytes
  | none => .error .base64

end ClientData

end SecondFactor.Web
