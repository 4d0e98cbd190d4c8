import SecondFactor.Rehearsal.Visit

/-!
The steps of a rehearsal: an operation of the relying party, of a token or of a client, or a look
into a store or a change of it. Each step begins with random bytes of its own.
-/

namespace SecondFactor.Rehearsal

/-- A client that is set up for one step. -/
structure ClientSetup where
  token : Nat
  account : String
  origin : String
  check : OriginCheck
  channelId : Option Web.ChannelId
  script : Script

inductive Act where
  | requestRegistration (account appId : String)
  | acceptRegistration (response : Web.RegisterResponse) (now : UInt64)
  | requestSignatures (account appId : String)
  | acceptSignature (response : Web.SignResponse)
  | keys (account : String)
  | removeKey (account : String) (publicKey : Bytes)
  | trust (certificate : Bytes)
  | storeSession (session : Web.Session)
  | session (id : String)
  | takeSession (id : String)
  | addKey (account : String) (key : Web.Enrolment)
  | raiseCounter (account : String) (publicKey : Bytes) (counter : UInt32)
  | respond (token : Nat) (command : Bytes)
  | register (token : Nat) (request : Raw.RegistrationRequest)
  | authenticate (token : Nat) (request : Raw.AuthenticationRequest)
  | storeTokenKey (token : Nat) (handle : Bytes) (application : Digest) (secret : Bytes)
  | tokenKey (token : Nat) (handle : Bytes)
  | nextCounter (token : Nat)
  | attestation (token : Nat)
  | clientRegister (setup : ClientSetup) (now : UInt64)
  | clientAuthenticate (setup : ClientSetup)

/-- What a step ends in. -/
inductive Outcome where
  | nothing
  | flag (value : Bool)
  | count (value : Nat)
  | id (value : String)
  | bytes (value : Bytes)
  | registerRequest (request : Web.RegisterRequest)
  | signRequests (requests : List Web.SignRequest)
  | enrolment (key : Web.Enrolment)
  | enrolments (keys : List Web.Enrolment)
  /-- A session that was looked at. -/
  | seen (session : Option Web.Session)
  /-- A session that was taken. -/
  | taken (session : Option Web.Session)
  | tokenKey (key : Option TokenKey)
  | visit (result : Except Failure Web.Enrolment) (sent : List Submission) (store : KeyRing)

namespace World

/-- Adds a certificate to the trusted ones, and gives their number. -/
def trust (certificate : Bytes) : Effect World (Except Failure Nat) :=
  Effect.step fun world =>
    match world.party.trusted.add certificate with
    | .ok trusted =>
      (.ok trusted.certificates.length,
        { world with party := { world.party with trusted := trusted } })
    | .error failure => (.error failure, world)

def asClient (setup : ClientSetup) (conditions : Conditions)
    (operation : Client → Client.Talk Web.Enrolment) : Effect World (Except Failure Outcome) := do
  let suite ← Effect.read fun world => world.party.suite
  let (result, sent) ← withClient setup.script conditions setup.token
    (operation ⟨suite, setup.check, setup.channelId⟩)
  let store ← onToken setup.token fun _ => Effect.read id
  return .ok (.visit result sent store)

/-- Stores a key that is given by its secret. -/
def storeSecret (handle : Bytes) (application : Digest) (secret : Bytes) (token : Token) :
    Token.Talk Unit := do
  let keyPair ← .ofOption .invalidKey (token.suite.keyPairOfBytes? secret)
  Token.Talk.keepKey handle ⟨application, keyPair⟩

/-- The encoded answer to a registration, and failures of its encoding with the others. -/
def registerEncoded (request : Raw.RegistrationRequest) (token : Token) : Token.Talk Bytes := do
  let response ← token.register request
  .ofFormat response.encode

end World

/-- Plays one act. -/
def World.play (conditions : Conditions) : Act → Effect World (Except Failure Outcome)
  | .requestRegistration account appId => party .registerRequest fun _ =>
      RelyingParty.requestRegistration account appId
  | .acceptRegistration response now => party .enrolment fun party =>
      party.acceptRegistration response now
  | .requestSignatures account appId => party .signRequests fun _ =>
      RelyingParty.requestSignatures account appId
  | .acceptSignature response => party .enrolment fun party => party.acceptSignature response
  | .keys account => party .enrolments fun _ => RelyingParty.keys account
  | .removeKey account publicKey => party .flag fun _ => RelyingParty.removeKey account publicKey
  | .trust certificate => as .count (trust certificate)
  | .storeSession session => party .id fun _ => RelyingParty.Talk.storeSession session
  | .session id => party .seen fun _ => RelyingParty.Talk.session? id
  | .takeSession id => party .taken fun _ => RelyingParty.Talk.takeSession id
  | .addKey account key => party (fun _ => .nothing) fun _ => RelyingParty.Talk.addKey account key
  | .raiseCounter account publicKey counter => party .enrolment fun _ => do
      let raised ← RelyingParty.Talk.raiseCounter account publicKey counter
      .ofExcept raised
  | .respond index command => token index .bytes fun token => token.respond command
  | .register index request => token index .bytes (registerEncoded request)
  | .authenticate index request => token index (fun response => .bytes response.encode)
      fun token => token.authenticate request
  | .storeTokenKey index handle application secret => token index (fun _ => .nothing)
      (storeSecret handle application secret)
  | .tokenKey index handle => token index .tokenKey fun _ => Token.Talk.key? handle
  | .nextCounter index => token index (fun counter => .count counter.toNat) fun _ =>
      Token.Talk.nextCounter
  | .attestation index => token index .bytes fun token => return token.attestation.certificate
  | .clientRegister setup now => asClient setup conditions fun client =>
      client.register setup.account setup.origin now
  | .clientAuthenticate setup => asClient setup conditions fun client =>
      client.authenticate setup.account setup.origin
where
  as {α : Type} (outcome : α → Outcome) (effect : Effect World (Except Failure α)) :
      Effect World (Except Failure Outcome) := do
    let result ← effect
    return result.map outcome
  party {α : Type} (outcome : α → Outcome) (operation : RelyingParty → RelyingParty.Talk α) :
      Effect World (Except Failure Outcome) :=
    as outcome (withParty conditions operation)
  token {α : Type} (index : Nat) (outcome : α → Outcome) (operation : Token → Token.Talk α) :
      Effect World (Except Failure Outcome) :=
    as outcome (withToken conditions index operation)

structure Step where
  /-- The random bytes the step begins with. -/
  random : Bytes
  conditions : World.Conditions
  /-- A token whose user reacts in another way from now on. -/
  sensor : Option (Nat × Token.Sensor)
  /-- What is done; nothing where it could not be read. -/
  act : Option Act

/-- What came of a step: its outcome, the surroundings as it left them, and the world after it. -/
structure Report where
  result : Option (Except Failure Outcome)
  around : Surroundings
  world : World

/-- Plays one step; there is none without the token it names. -/
def Step.play (step : Step) (world : World) : Option Report := do
  let world := match step.sensor with
    | some (index, sensor) => world.setSensor index sensor
    | none => world
  let around := Surroundings.ofTape (world.tape step.random)
  match step.act with
  | some act =>
    let (result, world, around) ← World.play step.conditions act (world, around)
    return ⟨some result, around, world⟩
  | none => return ⟨none, around, world⟩

/-- Plays steps one after the other. -/
def playAll (world : World) : List Step → Option (List Report)
  | [] => some []
  | step :: rest => do
    let report ← step.play world
    return report :: (← playAll report.world rest)

end SecondFactor.Rehearsal
