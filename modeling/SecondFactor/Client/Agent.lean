import SecondFactor.Client.Inquiry
import SecondFactor.Origin.Rule
import SecondFactor.Raw.Command
import SecondFactor.Suite
import SecondFactor.Web.ClientData

/-!
The operations of a client, the part of a browser that lets pages use tokens. It checks that the
page may use the application id it was given, and ties the challenge to the origin of the page, so
that an answer made for one page is of no use to another.
-/

namespace SecondFactor

structure Client where
  suite : Suite
  check : OriginCheck
  /-- Reported in the client data. -/
  channelId : Option Web.ChannelId

namespace Client

/-- Takes requests of this version of the protocol, about application ids the page may use. -/
def checkRequest (client : Client) (version appId origin : String) : Except Failure Unit := do
  if version ≠ Raw.protocolVersion then throw (.unsupportedVersion version)
  client.check appId origin

def clientData (client : Client) (kind : Web.ClientDataKind) (challenge : Bytes)
    (origin : String) : Web.ClientData where
  kind := kind
  challenge := Base64.encode .websafe challenge
  channelId := client.channelId
  origin := origin

/-- Enrols the token for an account, for a page whose origin is the application id too. -/
def register (client : Client) (account origin : String) (now : UInt64) :
    Talk Web.Enrolment := do
  let request ← Talk.requestRegistration account origin
  Dialogue.ofExcept (client.checkRequest request.version request.appId origin)
  let data := (client.clientData .registration request.challenge origin).bytes
  let registration ← Talk.register
    ⟨client.suite.digest data, client.suite.digestText request.appId⟩
  let registrationData ← .ofFormat registration.encode
  Talk.submitRegistration ⟨registrationData, data, request.sessionId⟩ now

/-- Answers the first of some requests whose key the token knows. -/
def answerFirst (client : Client) (origin : String) : List Web.SignRequest → Talk Web.Enrolment
  | [] => Dialogue.fail .unknownKeyHandle
  | request :: rest => do
    Dialogue.ofExcept (client.checkRequest request.version request.appId origin)
    let data := (client.clientData .authentication request.challenge origin).bytes
    let result ← Talk.authenticate ⟨.enforcePresence, client.suite.digest data,
      client.suite.digestText request.appId, request.keyHandle⟩
    match result with
    | .ok response =>
      Talk.submitSignature ⟨request.keyHandle, response.encode, data, request.sessionId⟩
    | .error .unknownKeyHandle => answerFirst client origin rest
    | .error failure => Dialogue.fail failure

/-- Proves to the relying party that the token of an account is there. -/
def authenticate (client : Client) (account origin : String) : Talk Web.Enrolment := do
  let requests ← Talk.requestSignatures account origin
  client.answerFirst origin requests

end Client

end SecondFactor
