import SecondFactor.Raw.Command
import SecondFactor.Token.Attestation
import SecondFactor.Token.Inquiry

/-!
The operations of a token: it makes a key pair for one application and attests it, and signs
challenges of that application with it. Keys of other applications are as unknown as foreign ones.
-/

namespace SecondFactor

structure Token where
  suite : Suite
  attestation : Attestation
  /-- What key handles are derived from. -/
  secret : Digest

namespace Token

/-- The handle of a new key. -/
def keyHandle (token : Token) (application : Digest) (publicKey : Raw.PublicKey) : Bytes :=
  (token.suite.keyedDigest token.secret (application.val ++ publicKey.bytes)).val

/-- Makes a key pair, if the user is there, and attests its public key. -/
def register (token : Token) (request : Raw.RegistrationRequest) :
    Talk Raw.RegistrationResponse := do
  let presence ← Talk.presence .registration request.application
  if !presence.userPresent then Dialogue.fail .presenceDenied
  let keyPair ← Talk.newKeyPair
  let publicKey := keyPair.publicKey.toRaw
  let handle := token.keyHandle request.application publicKey
  Talk.keepKey handle ⟨request.application, keyPair⟩
  let signature := token.suite.sign token.attestation.keyPair
    (Raw.registrationSignedBytes request.application request.challenge handle publicKey)
  return ⟨publicKey, handle, token.attestation.certificate, signature⟩

/-- The key of a handle, if it was made for the application. -/
def findKey (application : Digest) (handle : Bytes) : Talk TokenKey := do
  let found ← Talk.key? handle
  match found.filter fun key => key.application = application with
  | some key => return key
  | none =>
    Talk.warn (.unknownKeyHandle handle)
    Dialogue.fail .unknownKeyHandle

/-- Signs a challenge. The counter goes up before the user is asked, so a refusal uses up a value.
A mere check of a handle that is known ends in the demand for a user. -/
def authenticate (token : Token) (request : Raw.AuthenticationRequest) :
    Talk Raw.AuthenticationResponse := do
  let key ← findKey request.application request.keyHandle
  if request.control = .checkOnly then Dialogue.fail .presenceTestRequired
  let counter ← Talk.nextCounter
  let presence ← Talk.presence .authentication request.application
  if request.control = .enforcePresence && !presence.userPresent then
    Dialogue.fail .presenceDenied
  let signature := token.suite.sign key.keyPair
    (Raw.authenticationSignedBytes request.application presence counter request.challenge)
  return ⟨presence, counter, signature⟩

/-- The answer to a command with its data decoded, without a status. -/
def perform (token : Token) : Raw.Payload → Talk Bytes
  | .register request => do
    let response ← token.register request
    .ofFormat response.encode
  | .authenticate request => do
    let response ← token.authenticate request
    return response.encode
  | .version => return Raw.versionBytes

/-- The end of an answer: its bytes and success, or only the status of a failure. -/
def answerBytes : Except Failure Bytes → Bytes
  | .ok bytes => bytes ++ Raw.StatusWord.noError.bytes
  | .error failure => (Raw.StatusWord.ofFailure failure).bytes

/-- The answer to the bytes of a command. -/
def respond (token : Token) (command : Bytes) : Talk Bytes :=
  match Raw.Command.decode command with
  | .ok command => answerBytes <$> (token.perform command.payload).attempt
  | .error status => do
    Talk.warn (.malformedCommand command)
    return status.bytes

end Token

end SecondFactor
