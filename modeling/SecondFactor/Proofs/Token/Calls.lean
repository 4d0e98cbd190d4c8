import SecondFactor.Proofs.Dialogue
import SecondFactor.Proofs.Except
import SecondFactor.Token.Device
import SecondFactor.Token.Memory

/-!
The calls of tokens, each with the token and the surroundings it was made in, and what a token
signed in each. A call by command is the call that its command decodes to.
-/

namespace SecondFactor.Token

/-- A finished call, with its result. -/
inductive Call where
  | register (request : Raw.RegistrationRequest) (result : Except Failure Raw.RegistrationResponse)
  | authenticate (request : Raw.AuthenticationRequest)
    (result : Except Failure Raw.AuthenticationResponse)
  | respond (command : Bytes) (result : Except Failure Bytes)

/-- What a call has the token do. -/
def Call.payload? : Call → Option Raw.Payload
  | .register request _ => some (.register request)
  | .authenticate request _ => some (.authenticate request)
  | .respond command _ => (Raw.Command.decode command).toOption.map Raw.Command.payload

/-- A finished call of a token, its user and its surroundings, and the rings it met and left. -/
structure Moment where
  token : Token
  sensor : Sensor
  around : Surroundings
  before : KeyRing
  call : Call
  after : KeyRing

namespace Moment

/-- What a talk comes to in the place of a call. -/
def Ends {α : Type} (moment : Moment) (talk : Talk α) (result : Except Failure α) : Prop :=
  ∃ left, talk.run (Memory.answer moment.token.suite moment.sensor)
    (moment.before, moment.around) = some (result, moment.after, left)

/-- The call has the result and leaves the ring that it says. -/
def Happens (moment : Moment) : Prop :=
  match moment.call with
  | .register request result => moment.Ends (moment.token.register request) result
  | .authenticate request result => moment.Ends (moment.token.authenticate request) result
  | .respond command result => moment.Ends (moment.token.respond command) result

/-- The call makes a key, itself or by its command. -/
def Registers (moment : Moment) (request : Raw.RegistrationRequest)
    (response : Raw.RegistrationResponse) : Prop :=
  moment.call.payload? = some (.register request) ∧
    moment.Ends (moment.token.register request) (.ok response)

/-- The call signs a challenge, itself or by its command. -/
def Authenticates (moment : Moment) (request : Raw.AuthenticationRequest)
    (response : Raw.AuthenticationResponse) : Prop :=
  moment.call.payload? = some (.authenticate request) ∧
    moment.Ends (moment.token.authenticate request) (.ok response)

/-- What is signed in a call, and with which key pair. -/
inductive Signs (moment : Moment) : KeyPair → Bytes → Prop
  | attestation {request : Raw.RegistrationRequest} {response : Raw.RegistrationResponse} :
      moment.Registers request response →
        Signs moment moment.token.attestation.keyPair
          (Raw.registrationSignedBytes request.application request.challenge response.keyHandle
            response.publicKey)
  | authentication {request : Raw.AuthenticationRequest} {response : Raw.AuthenticationResponse}
      {key : TokenKey} :
      moment.Authenticates request response → moment.before.key? request.keyHandle = some key →
        Signs moment key.keyPair
          (Raw.authenticationSignedBytes request.application response.presence response.counter
            request.challenge)

theorem Ends.eq {α : Type} {moment : Moment} {talk : Talk α} {result other : Except Failure α}
    (hends : moment.Ends talk result) (hother : moment.Ends talk other) : result = other := by
  obtain ⟨_, hrun⟩ := hends
  obtain ⟨_, hsame⟩ := hother
  rw [hrun] at hsame
  exact (Prod.mk.inj (Option.some.inj hsame)).1

/-- In a call one thing is signed. -/
theorem Signs.eq {moment : Moment} {keyPair other : KeyPair} {message message' : Bytes}
    (hsigns : moment.Signs keyPair message) (hother : moment.Signs other message') :
    keyPair = other ∧ message = message' := by
  cases hsigns with
  | attestation hregisters =>
      cases hother with
      | attestation hregisters' =>
          have hpayload := hregisters.1.symm.trans hregisters'.1
          cases hpayload
          cases hregisters.2.eq hregisters'.2
          exact ⟨rfl, rfl⟩
      | authentication hauthenticates' _ =>
          have hpayload := hregisters.1.symm.trans hauthenticates'.1
          cases hpayload
  | authentication hauthenticates hkey =>
      cases hother with
      | attestation hregisters' =>
          have hpayload := hauthenticates.1.symm.trans hregisters'.1
          cases hpayload
      | authentication hauthenticates' hkey' =>
          have hpayload := hauthenticates.1.symm.trans hauthenticates'.1
          cases hpayload
          cases hauthenticates.2.eq hauthenticates'.2
          cases hkey.symm.trans hkey'
          exact ⟨rfl, rfl⟩

end Moment

/-! The operations, one part after the other. -/

variable {token : Token} {suite : Suite} {sensor : Sensor} {before after : KeyRing}
  {around left : Surroundings}

theorem run_presence (approval : Approval) (application : Digest) :
    (Talk.presence approval application).run (Memory.answer suite sensor) (before, around) =
      some (.ok (sensor.presence approval), before, around.ask approval application) :=
  rfl

theorem run_newKeyPair :
    Talk.newKeyPair.run (Memory.answer suite sensor) (before, around) =
      (Tape.drawKeyPair suite around.tape).bind fun (keyPair, tape) =>
        some (.ok keyPair, before, { around with tape := tape }) := by
  simp only [Talk.newKeyPair, Dialogue.run, Memory.answer, Effect.draw, bind, StateT.bind]
  cases Tape.drawKeyPair suite around.tape <;> rfl

theorem run_nextCounter :
    Talk.nextCounter.run (Memory.answer suite sensor) (before, around) =
      some (before.nextCounter.1, before.nextCounter.2, around) := by
  exact Dialogue.run_ofExcept _ _

/-- A key is found under its handle for its own application only. -/
theorem run_findKey_eq_ok {application : Digest} {handle : Bytes} {key : TokenKey}
    (hrun : (findKey application handle).run (Memory.answer suite sensor) (before, around) =
      some (.ok key, after, left)) :
    before.key? handle = some key ∧ key.application = application ∧ after = before ∧
      left = around := by
  have hlook : (Talk.key? handle).run (Memory.answer suite sensor) (before, around) =
      some (.ok (before.key? handle), before, around) := rfl
  unfold findKey at hrun
  rw [Dialogue.run_bind_of_ok hlook] at hrun
  cases hfilter : (before.key? handle).filter fun key => key.application = application with
  | none =>
      simp only [hfilter] at hrun
      cases hrun
  | some found =>
      simp only [hfilter] at hrun
      cases hrun
      obtain ⟨hfound, happlication⟩ := Option.filter_eq_some_iff.1 hfilter
      exact ⟨hfound, by simpa using happlication, rfl, rfl⟩

/-- What a registration answers for a key pair. -/
def registrationOf (token : Token) (request : Raw.RegistrationRequest) (keyPair : KeyPair) :
    Raw.RegistrationResponse where
  publicKey := keyPair.publicKey.toRaw
  keyHandle := token.keyHandle request.application keyPair.publicKey.toRaw
  certificate := token.attestation.certificate
  signature := token.suite.sign token.attestation.keyPair
    (Raw.registrationSignedBytes request.application request.challenge
      (token.keyHandle request.application keyPair.publicKey.toRaw) keyPair.publicKey.toRaw)

/-- What an authentication answers with a key, some flags and a counter. -/
def authenticationOf (token : Token) (request : Raw.AuthenticationRequest) (key : TokenKey)
    (presence : Raw.Presence) (counter : UInt32) : Raw.AuthenticationResponse where
  presence := presence
  counter := counter
  signature := token.suite.sign key.keyPair
    (Raw.authenticationSignedBytes request.application presence counter request.challenge)

/-- A registration that succeeds had its user there, and answers for the key pair that it kept. -/
theorem run_register_eq_ok {request : Raw.RegistrationRequest}
    {response : Raw.RegistrationResponse}
    (hrun : (token.register request).run (Memory.answer suite sensor) (before, around) =
      some (.ok response, after, left)) :
    sensor.registration.userPresent = true ∧
      ∃ keyPair, response = token.registrationOf request keyPair ∧
        after = before.addKey response.keyHandle ⟨request.application, keyPair⟩ := by
  unfold register at hrun
  rw [Dialogue.run_bind_of_ok (run_presence _ _)] at hrun
  simp only [Sensor.presence] at hrun
  cases hpresent : sensor.registration.userPresent with
  | false =>
      simp only [hpresent, Bool.not_false, if_true] at hrun
      cases hrun
  | true =>
      simp only [hpresent, Bool.not_true, Bool.false_eq_true, if_false] at hrun
      rcases Dialogue.run_bind_eq_some hrun with
        ⟨keyPair, ⟨_, _⟩, hpair, hrest⟩ | ⟨_, _, hfailed⟩
      · rw [run_newKeyPair] at hpair
        obtain ⟨⟨drawn, tape⟩, _, hdrawn⟩ := Option.bind_eq_some_iff.1 hpair
        cases hdrawn
        cases hrest
        exact ⟨rfl, keyPair, rfl, rfl⟩
      · cases hfailed

/-- With its user there and a key pair drawn, a registration succeeds. -/
theorem run_register_of_present {request : Raw.RegistrationRequest} {keyPair : KeyPair}
    {tape : Tape} (hpresent : sensor.registration.userPresent = true)
    (hdraw : Tape.drawKeyPair suite around.tape = some (keyPair, tape)) :
    ∃ left, (token.register request).run (Memory.answer suite sensor) (before, around) =
      some (.ok (token.registrationOf request keyPair),
        before.addKey (token.registrationOf request keyPair).keyHandle
          ⟨request.application, keyPair⟩, left) := by
  have hpair : Talk.newKeyPair.run (Memory.answer suite sensor)
      (before, around.ask .registration request.application) =
        some (.ok keyPair, before,
          { around.ask .registration request.application with tape := tape }) := by
    rw [run_newKeyPair]
    simp only [Surroundings.ask, hdraw, Option.bind_some]
  unfold register
  rw [Dialogue.run_bind_of_ok (run_presence _ _)]
  simp only [Sensor.presence, hpresent, Bool.not_true, Bool.false_eq_true, if_false]
  rw [Dialogue.run_bind_of_ok hpair]
  exact ⟨_, rfl⟩

/-- An authentication that succeeds was more than a check, found its key, raised the counter, and
signed with that key what its user did. -/
theorem run_authenticate_eq_ok {request : Raw.AuthenticationRequest}
    {response : Raw.AuthenticationResponse}
    (hrun : (token.authenticate request).run (Memory.answer suite sensor) (before, around) =
      some (.ok response, after, left)) :
    request.control ≠ .checkOnly ∧
      (request.control = .enforcePresence → sensor.authentication.userPresent = true) ∧
      before.nextCounter = (.ok response.counter, after) ∧
      ∃ key, before.key? request.keyHandle = some key ∧
        key.application = request.application ∧
        response = token.authenticationOf request key sensor.authentication response.counter := by
  unfold authenticate at hrun
  rcases Dialogue.run_bind_eq_some hrun with
    ⟨key, ⟨_, _⟩, hfind, hrest⟩ | ⟨_, _, hfailed⟩
  · obtain ⟨hkey, happlication, rfl, rfl⟩ := run_findKey_eq_ok hfind
    by_cases hcontrol : request.control = .checkOnly
    · rw [if_pos hcontrol] at hrest
      cases hrest
    · rw [if_neg hcontrol] at hrest
      rcases Dialogue.run_bind_eq_some hrest with
        ⟨counter, ⟨ring, _⟩, hcount, hsign⟩ | ⟨_, _, hfailed⟩
      · rw [run_nextCounter] at hcount
        simp only [Option.some.injEq, Prod.mk.injEq] at hcount
        obtain ⟨hvalue, hring, _⟩ := hcount
        rw [Dialogue.run_bind_of_ok (run_presence _ _)] at hsign
        by_cases hdenied : (request.control = .enforcePresence &&
            !(sensor.presence .authentication).userPresent) = true
        · rw [if_pos hdenied] at hsign
          cases hsign
        · rw [if_neg hdenied] at hsign
          cases hsign
          refine ⟨hcontrol, ?_, Prod.ext hvalue hring, key, hkey, happlication, rfl⟩
          simpa [Sensor.presence] using hdenied
      · cases hfailed
  · cases hfailed

/-- For a known key of the application and with its user there, an authentication succeeds. -/
theorem run_authenticate_of_present {request : Raw.AuthenticationRequest} {key : TokenKey}
    {counter : UInt32} (hkey : before.key? request.keyHandle = some key)
    (happlication : key.application = request.application) (hcontrol : request.control ≠ .checkOnly)
    (hcounter : before.nextCounter = (.ok counter, after))
    (hpresent : sensor.authentication.userPresent = true) :
    ∃ left, (token.authenticate request).run (Memory.answer suite sensor) (before, around) =
      some (.ok (token.authenticationOf request key sensor.authentication counter), after,
        left) := by
  have hlook : (Talk.key? request.keyHandle).run (Memory.answer suite sensor) (before, around) =
      some (.ok (some key), before, around) := by
    rw [← hkey]
    rfl
  have hfind : (findKey request.application request.keyHandle).run (Memory.answer suite sensor)
      (before, around) = some (.ok key, before, around) := by
    unfold findKey
    rw [Dialogue.run_bind_of_ok hlook]
    simp only [Option.filter_some, happlication, decide_true, if_true]
    rfl
  have hcount : Talk.nextCounter.run (Memory.answer suite sensor) (before, around) =
      some (.ok counter, after, around) := by
    rw [run_nextCounter, hcounter]
  unfold authenticate
  rw [Dialogue.run_bind_of_ok hfind]
  simp only [if_neg hcontrol]
  rw [Dialogue.run_bind_of_ok hcount, Dialogue.run_bind_of_ok (run_presence _ _)]
  simp only [Sensor.presence, hpresent, Bool.not_true, Bool.and_false, Bool.false_eq_true,
    if_false]
  exact ⟨_, rfl⟩

/-! Calls by command. -/

/-- Whoever answers the token, a command comes to what its payload comes to, and says so. -/
theorem run_respond {σ : Type} {answer : (inquiry : Inquiry) → Effect σ inquiry.Answer}
    {command : Bytes} {decoded : Raw.Command} (hdecode : Raw.Command.decode command = .ok decoded)
    (state : σ × Surroundings) :
    (token.respond command).run answer state =
      ((token.perform decoded.payload).run answer state).map
        fun (result, after) => (.ok (answerBytes result), after) := by
  unfold respond
  rw [hdecode]
  exact Dialogue.run_map_attempt answerBytes _ state

variable {moment : Moment}

/-- A command is answered by what comes of the call that it decodes to. -/
theorem Moment.result_of_respond {command : Bytes} {result : Except Failure Bytes}
    {payload : Raw.Payload} {performed : Except Failure Bytes} (hhappens : moment.Happens)
    (hcall : moment.call = .respond command result) (hpayload : moment.call.payload? = some payload)
    (hperform : moment.Ends (moment.token.perform payload) performed) :
    result = .ok (answerBytes performed) := by
  rw [Happens, hcall] at hhappens
  rw [hcall, Call.payload?] at hpayload
  obtain ⟨decoded, hdecoded, rfl⟩ := Option.map_eq_some_iff.1 hpayload
  obtain ⟨left, hperform⟩ := hperform
  refine hhappens.eq ⟨left, ?_⟩
  rw [run_respond (eq_ok_of_toOption_eq_some hdecoded), hperform]
  rfl

/-- The response of a signed challenge is what the call returns. -/
theorem Moment.returned_of_authenticates {request : Raw.AuthenticationRequest}
    {response : Raw.AuthenticationResponse} (hhappens : moment.Happens)
    (hauthenticates : moment.Authenticates request response) :
    moment.call = .authenticate request (.ok response) ∨
      ∃ command, moment.call = .respond command (.ok (answerBytes (.ok response.encode))) := by
  obtain ⟨hpayload, left, hrun⟩ := hauthenticates
  cases hcall : moment.call with
  | register given result =>
      rw [hcall] at hpayload
      cases hpayload
  | authenticate given result =>
      rw [hcall] at hpayload
      cases hpayload
      rw [Happens, hcall] at hhappens
      rw [hhappens.eq ⟨left, hrun⟩]
      exact Or.inl rfl
  | respond command result =>
      have hperform : moment.Ends (moment.token.perform (.authenticate request))
          (.ok response.encode) :=
        ⟨left, Dialogue.run_bind_of_ok hrun _⟩
      rw [moment.result_of_respond hhappens hcall hpayload hperform]
      exact Or.inr ⟨command, rfl⟩

/-- A digest is short enough for a key handle. -/
theorem exists_encode_registrationOf (token : Token) (request : Raw.RegistrationRequest)
    (keyPair : KeyPair) : ∃ bytes, (token.registrationOf request keyPair).encode = .ok bytes := by
  have hlength : (token.registrationOf request keyPair).keyHandle.length = 32 :=
    (token.suite.keyedDigest token.secret _).property
  unfold Raw.RegistrationResponse.encode Raw.countedBytes
  rw [hlength]
  exact ⟨_, rfl⟩

/-- The response of a registration is what the call returns. -/
theorem Moment.returned_of_registers {request : Raw.RegistrationRequest}
    {response : Raw.RegistrationResponse} (hhappens : moment.Happens)
    (hregisters : moment.Registers request response) :
    moment.call = .register request (.ok response) ∨
      ∃ command bytes, response.encode = .ok bytes ∧
        moment.call = .respond command (.ok (answerBytes (.ok bytes))) := by
  obtain ⟨hpayload, left, hrun⟩ := hregisters
  cases hcall : moment.call with
  | register given result =>
      rw [hcall] at hpayload
      cases hpayload
      rw [Happens, hcall] at hhappens
      rw [hhappens.eq ⟨left, hrun⟩]
      exact Or.inl rfl
  | authenticate given result =>
      rw [hcall] at hpayload
      cases hpayload
  | respond command result =>
      obtain ⟨_, keyPair, rfl, _⟩ := run_register_eq_ok hrun
      obtain ⟨bytes, hencode⟩ := exists_encode_registrationOf moment.token request keyPair
      have hperform : moment.Ends (moment.token.perform (.register request)) (.ok bytes) := by
        refine ⟨left, (Dialogue.run_bind_of_ok hrun _).trans ?_⟩
        rw [hencode]
        rfl
      rw [moment.result_of_respond hhappens hcall hpayload hperform]
      exact Or.inr ⟨command, bytes, hencode, rfl⟩

end SecondFactor.Token
