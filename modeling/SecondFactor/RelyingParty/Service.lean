import SecondFactor.Origin.Url
import SecondFactor.Raw.Command
import SecondFactor.RelyingParty.Inquiry
import SecondFactor.RelyingParty.TrustAnchors
import SecondFactor.Web.ClientData
import SecondFactor.Web.Message

/-!
The operations of a relying party: it issues challenges, and takes a response as proof that a key
was made, or was used, for the very request it answers.

A session is used up by the first response to it, whatever becomes of that response. Sessions of
the other kind are left alone.
-/

namespace SecondFactor

/-- What becomes of keys whose attestation is not trusted. -/
inductive TrustPolicy where
  | refuse
  /-- They are taken, with a warning. -/
  | warn
deriving DecidableEq, Repr

structure RelyingParty where
  suite : Suite
  /-- The origins of the pages that may act for it, each in its one written form. -/
  allowedOrigins : List String
  trusted : TrustAnchors
  policy : TrustPolicy

namespace RelyingParty

/-- The origins of some pages, in ascending order and once each, and a warning for every page that
has none. -/
def originsOf (urls : List String) : List String × List Warning :=
  let found := urls.map fun url => (url, originOf? url)
  let origins := (found.filterMap Prod.snd).mergeSort fun a b => decide (a ≤ b)
  (origins.eraseReps, found.filterMap fun (url, origin?) =>
    if origin?.isNone then some (.ignoredOrigin url) else none)

/-- Whether a page is at an allowed origin. -/
def allows (party : RelyingParty) (url : String) : Bool :=
  match originOf? url with
  | some origin => party.allowedOrigins.contains origin
  | none => false

/-- Checks that client data answers the challenge of a session, on a page that may do so. -/
def checkClientData (party : RelyingParty) (data : Web.ClientData) (kind : Web.ClientDataKind)
    (session : Web.Session) : Except Failure Unit := do
  if data.kind ≠ kind then throw (.clientDataMismatch "typ")
  let challenge ← data.decodedChallenge.mapError .format
  if challenge ≠ session.challenge then throw (.clientDataMismatch "challenge")
  if !party.allows data.origin then throw (.originMismatch data.origin session.appId)

/-! Enrolment. -/

def requestRegistration (account appId : String) : Talk Web.RegisterRequest := do
  let challenge ← Talk.challenge account
  let sessionId ← Talk.storeSession ⟨account, appId, challenge, .enrol⟩
  return ⟨Raw.protocolVersion, challenge, appId, sessionId⟩

def isEnrolment (session : Web.Session) : Bool :=
  session.purpose = .enrol

/-- Uses up the session of an enrolment. Between the look and the removal it may have gone. -/
def takeEnrolment (id : String) : Talk Web.Session := do
  let seen ← Talk.session? id
  if (seen.filter isEnrolment).isNone then Dialogue.fail .unknownSession
  let session ← Talk.takeSession id
  Dialogue.ofOption .unknownSession (session.filter isEnrolment)

/-- What a response holds, if it answers the session. -/
def readRegistration (party : RelyingParty) (session : Web.Session)
    (response : Web.RegisterResponse) : Except Failure Raw.RegistrationResponse := do
  let data ← (Web.ClientData.parse response.clientData).mapError .format
  let registration ←
    (Raw.RegistrationResponse.decode response.registrationData).mapError .format
  if (PublicKey.ofRaw? registration.publicKey).isNone then throw (.format .publicKey)
  party.checkClientData data .registration session
  return registration

/-- Takes a certificate that is trusted, or one that is not where the policy lets it pass. -/
def checkTrust (party : RelyingParty) (certificate : Bytes) : Talk Unit :=
  if party.trusted.trusts party.suite certificate then return ()
  else
    match party.policy with
    | .refuse => Dialogue.fail .untrustedAttestation
    | .warn => Talk.warn (.untrustedAttestation certificate)

/-- The bytes the attestation of a response has to sign. -/
def attestedBytes (party : RelyingParty) (session : Web.Session)
    (response : Web.RegisterResponse) (registration : Raw.RegistrationResponse) : Bytes :=
  Raw.registrationSignedBytes (party.suite.digestText session.appId)
    (party.suite.digest response.clientData) registration.keyHandle registration.publicKey

def checkAttestation (party : RelyingParty) (session : Web.Session)
    (response : Web.RegisterResponse) (registration : Raw.RegistrationResponse) :
    Except Failure Unit := do
  let verified ← party.suite.verifyCertified registration.certificate
    (party.attestedBytes session response registration) registration.signature
  if !verified then throw .invalidSignature

/-- The record of a new key. Its counter is not known yet, but is never below zero. -/
def enrolmentOf (registration : Raw.RegistrationResponse) (now : UInt64) : Web.Enrolment where
  keyHandle := registration.keyHandle
  publicKey := registration.publicKey.bytes
  certificate := registration.certificate
  counter := 0
  enrolledAt := now

/-- Enrols the key of a response for the account of its session. -/
def acceptRegistration (party : RelyingParty) (response : Web.RegisterResponse) (now : UInt64) :
    Talk Web.Enrolment := do
  let session ← takeEnrolment response.sessionId
  let registration ← .ofExcept (party.readRegistration session response)
  party.checkTrust registration.certificate
  Dialogue.ofExcept (party.checkAttestation session response registration)
  let key := enrolmentOf registration now
  Talk.addKey session.account key
  return key

/-! Authentication. -/

/-- One request a key, each with a session of its own, all with one challenge. -/
def requestEach (account appId : String) (challenge : Bytes) :
    List Web.Enrolment → Talk (List Web.SignRequest)
  | [] => return []
  | key :: rest => do
    let sessionId ← Talk.storeSession ⟨account, appId, challenge, .sign key.publicKey⟩
    let requests ← requestEach account appId challenge rest
    return ⟨Raw.protocolVersion, challenge, appId, key.keyHandle, sessionId⟩ :: requests

def requestSignatures (account appId : String) : Talk (List Web.SignRequest) := do
  let keys ← Talk.keys account
  if keys.isEmpty then Dialogue.fail .noRegisteredKeys
  let challenge ← Talk.challenge account
  requestEach account appId challenge keys

/-- Uses up a session that waits for a signature, and gives the public key it waits for. -/
def takeSignature (id : String) : Talk (Web.Session × Bytes) := do
  let seen ← Talk.session? id
  if (seen.bind Web.Session.publicKey?).isNone then Dialogue.fail .unknownSession
  let taken ← Talk.takeSession id
  let session ← .ofOption .unknownSession taken
  let publicKey ← .ofOption .unknownSession session.publicKey?
  return (session, publicKey)

/-- The first record of a public key, if the response is by its key handle. -/
def findKey (publicKey : Bytes) (response : Web.SignResponse) (keys : List Web.Enrolment) :
    Talk Web.Enrolment :=
  match (keys.find? fun key => key.publicKey = publicKey).filter fun key =>
      key.keyHandle = response.keyHandle with
  | some key => return key
  | none => do
    Talk.warn (.unknownKeyHandle response.keyHandle)
    Dialogue.fail .unknownKeyHandle

/-- What is wrong with signature data that cannot be read. Once the flags and the counter are
there, only the signature is left. -/
def signatureFailure (data : Bytes) (fault : FormatFault) : Failure :=
  if Raw.AuthenticationResponse.headerLength < data.length then .invalidSignature
  else .format fault

/-- The bytes the key of a session has to sign. -/
def signedBytes (party : RelyingParty) (session : Web.Session) (response : Web.SignResponse)
    (authentication : Raw.AuthenticationResponse) : Bytes :=
  Raw.authenticationSignedBytes (party.suite.digestText session.appId) authentication.presence
    authentication.counter (party.suite.digest response.clientData)

/-- What a response holds, if it answers the session by a signature of the key. -/
def readAuthentication (party : RelyingParty) (session : Web.Session) (key : Web.Enrolment)
    (response : Web.SignResponse) : Except Failure Raw.AuthenticationResponse := do
  let data ← (Web.ClientData.parse response.clientData).mapError .format
  party.checkClientData data .authentication session
  let authentication ← (Raw.AuthenticationResponse.decode response.signatureData).mapError
    (signatureFailure response.signatureData)
  if !authentication.presence.userPresent then throw .presenceDenied
  match PublicKey.decode? key.publicKey with
  | none => throw (.format .publicKey)
  | some publicKey =>
    if !party.suite.verify publicKey (party.signedBytes session response authentication)
        authentication.signature then
      throw .invalidSignature
  return authentication

/-- Raises a counter, and warns where that would not raise it. -/
def raiseCounter (account : String) (publicKey : Bytes) (counter : UInt32) :
    Talk Web.Enrolment := do
  let raised ← Talk.raiseCounter account publicKey counter
  match raised with
  | .ok key => return key
  | .error (.counterRegression stored received) =>
    Talk.warn (.counterRegression stored received)
    Dialogue.fail (.counterRegression stored received)
  | .error failure => Dialogue.fail failure

/-- Takes the signature of a response, and gives the record with the counter that was signed. -/
def acceptSignature (party : RelyingParty) (response : Web.SignResponse) :
    Talk Web.Enrolment := do
  let (session, publicKey) ← takeSignature response.sessionId
  let keys ← Talk.keys session.account
  let key ← findKey publicKey response keys
  let authentication ← .ofExcept (party.readAuthentication session key response)
  raiseCounter session.account key.publicKey authentication.counter

/-! Administration. -/

def keys (account : String) : Talk (List Web.Enrolment) :=
  Talk.keys account

/-- Revokes a key, and tells whether there was one. -/
def removeKey (account : String) (publicKey : Bytes) : Talk Bool :=
  Talk.removeKey account publicKey

end RelyingParty

end SecondFactor
