import SecondFactor.Web.Field

/-!
The messages a relying party and a client exchange, and their JSON.
-/

namespace SecondFactor.Web

/-- Asks for a new key. -/
structure RegisterRequest where
  version : String
  challenge : Bytes
  appId : String
  sessionId : String
deriving DecidableEq, Repr

/-- Answers with what the token said and the client data whose digest the token signed. -/
structure RegisterResponse where
  registrationData : Bytes
  clientData : Bytes
  sessionId : String
deriving DecidableEq, Repr

/-- Asks for a signature by one enrolled key. -/
structure SignRequest where
  version : String
  challenge : Bytes
  appId : String
  keyHandle : Bytes
  sessionId : String
deriving DecidableEq, Repr

structure SignResponse where
  keyHandle : Bytes
  signatureData : Bytes
  clientData : Bytes
  sessionId : String
deriving DecidableEq, Repr

namespace RegisterRequest

def toJson (request : RegisterRequest) : Json :=
  .record [("version", .string request.version), ("challenge", .binary request.challenge),
    ("appId", .string request.appId), ("sessionId", .string request.sessionId)]

def ofJson? (json : Json) : Option RegisterRequest := do
  match ← json.fields? ["version", "challenge", "appId", "sessionId"] with
  | [some version, some challenge, some appId, some sessionId] =>
    return ⟨← version.text?, ← challenge.binary?, ← appId.text?, ← sessionId.text?⟩
  | _ => none

end RegisterRequest

namespace RegisterResponse

def toJson (response : RegisterResponse) : Json :=
  .record [("registrationData", .binary response.registrationData),
    ("clientData", .binary response.clientData), ("sessionId", .string response.sessionId)]

def ofJson? (json : Json) : Option RegisterResponse := do
  match ← json.fields? ["registrationData", "clientData", "sessionId"] with
  | [some registrationData, some clientData, some sessionId] =>
    return ⟨← registrationData.binary?, ← clientData.binary?, ← sessionId.text?⟩
  | _ => none

end RegisterResponse

namespace SignRequest

def toJson (request : SignRequest) : Json :=
  .record [("version", .string request.version), ("challenge", .binary request.challenge),
    ("appId", .string request.appId), ("keyHandle", .binary request.keyHandle),
    ("sessionId", .string request.sessionId)]

def ofJson? (json : Json) : Option SignRequest := do
  match ← json.fields? ["version", "challenge", "appId", "keyHandle", "sessionId"] with
  | [some version, some challenge, some appId, some keyHandle, some sessionId] =>
    return ⟨← version.text?, ← challenge.binary?, ← appId.text?, ← keyHandle.binary?,
      ← sessionId.text?⟩
  | _ => none

end SignRequest

namespace SignResponse

def toJson (response : SignResponse) : Json :=
  .record [("keyHandle", .binary response.keyHandle),
    ("signatureData", .binary response.signatureData),
    ("clientData", .binary response.clientData), ("sessionId", .string response.sessionId)]

def ofJson? (json : Json) : Option SignResponse := do
  match ← json.fields? ["keyHandle", "signatureData", "clientData", "sessionId"] with
  | [some keyHandle, some signatureData, some clientData, some sessionId] =>
    return ⟨← keyHandle.binary?, ← signatureData.binary?, ← clientData.binary?,
      ← sessionId.text?⟩
  | _ => none

end SignResponse

end SecondFactor.Web
