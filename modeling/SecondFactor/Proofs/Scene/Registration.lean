import SecondFactor.Proofs.PublicKey
import SecondFactor.Proofs.Scene.EnrolmentOrigin
import SecondFactor.Proofs.Scene.Makings
import SecondFactor.Proofs.Token.Outcome

/-!
An honest visit that enrols a key comes to its end, `registration_completes`: what the client, the
token and the party write is read back by the others, so that the party takes the response, and the
key is in its accounts and in the ring of the token.
-/

namespace SecondFactor

theorem Raw.isSequence_of_toOption {signature : Bytes}
    (h : (restAsSignature signature).toOption = some signature) : IsSequence signature :=
  (restAsSignature_eq_ok_iff.1 (eq_ok_of_toOption_eq_some h)).1

namespace Scene

open RelyingParty (ChallengeSource batchParty enrolmentOf enrolmentRecord enrolmentResponse
  attestationSignature)

namespace Visitor

/-- What the token of a visitor answers to a registration request, once it drew a key pair. -/
def registration (visitor : Visitor) (origin : String) (request : Web.RegisterRequest)
    (keyPair : KeyPair) : Raw.RegistrationResponse :=
  visitor.token.registrationOf (visitor.client.registrationCall origin request) keyPair

/-- What the token attests with that answer. -/
def attestedBytes (visitor : Visitor) (origin : String) (request : Web.RegisterRequest)
    (keyPair : KeyPair) : Bytes :=
  let call := visitor.client.registrationCall origin request
  let registration := visitor.registration origin request keyPair
  Raw.registrationSignedBytes call.application call.challenge registration.keyHandle
    registration.publicKey

/-- The call of the token that the answer comes from. -/
def registered (visitor : Visitor) (origin : String) (request : Web.RegisterRequest)
    (keyPair : KeyPair) (around : Surroundings) (before : KeyRing) : Token.Moment where
  token := visitor.token
  sensor := visitor.sensor
  around := around
  before := before
  call := .register (visitor.client.registrationCall origin request)
    (.ok (visitor.registration origin request keyPair))
  after := before.addKey (visitor.registration origin request keyPair).keyHandle
    ⟨(visitor.client.registrationCall origin request).application, keyPair⟩

/-- What the client makes of the answer. -/
def response (visitor : Visitor) (origin : String) (request : Web.RegisterRequest)
    (registrationData : Bytes) : Web.RegisterResponse :=
  ⟨registrationData, visitor.client.registrationData origin request, request.sessionId⟩

/-- What the client goes on with after the token's answer. -/
def submission (visitor : Visitor) (origin : String) (request : Web.RegisterRequest)
    (now : UInt64) (answer : Except Failure Raw.RegistrationResponse) :
    Client.Talk Web.Enrolment := do
  let registration ← .ofExcept answer
  let registrationData ← .ofFormat registration.encode
  Client.Talk.submitRegistration (visitor.response origin request registrationData) now

/-- The record of a key that the token of a visitor makes for a page. -/
def record (visitor : Visitor) (origin : String) (keyPair : KeyPair) (now : UInt64) :
    Web.Enrolment where
  keyHandle :=
    visitor.token.keyHandle (visitor.token.suite.digestText origin) keyPair.publicKey.toRaw
  publicKey := keyPair.publicKey.bytes
  certificate := visitor.token.attestation.certificate
  counter := 0
  enrolledAt := now

/-- All that an honest visit which enrols a key can come to. -/
inductive Enrolled (visitor : Visitor) (party : RelyingParty) (account origin : String)
    (now : UInt64) (before after : Chronicle) : Except Failure Web.Enrolment → Prop
  | denied :
      visitor.sensor.registration.userPresent = false →
      (∀ holder, after.scene.accounts.keys holder = before.scene.accounts.keys holder) →
      after.scene.rings = before.scene.rings →
      makings after.calls = makings before.calls →
        Enrolled visitor party account origin now before after (.error .presenceDenied)
  | enrolled (keyPair : KeyPair) :
      (∀ holder, after.scene.accounts.keys holder =
        if holder = account then
          before.scene.accounts.keys account ++ [visitor.record origin keyPair now]
        else before.scene.accounts.keys holder) →
      after.scene.rings = Function.update before.scene.rings visitor.ring
        ((before.scene.rings visitor.ring).addKey (visitor.record origin keyPair now).keyHandle
          ⟨party.suite.digestText origin, keyPair⟩) →
      makings after.calls = makings before.calls ++
        [⟨visitor.ring, visitor.token, party.suite.digestText origin, keyPair⟩] →
        Enrolled visitor party account origin now before after
          (.ok (visitor.record origin keyPair now))

/-- The request that a registration begins with, and the call of the party that it comes from. -/
structure Asked (visitor : Visitor) (party : RelyingParty) (source : ChallengeSource)
    (account origin : String) (before : Chronicle) (around : Surroundings)
    (request : Web.RegisterRequest) (moment : RelyingParty.Moment) (left : Surroundings) :
    Prop where
  run : (Client.Talk.requestRegistration account origin).run (visitor.answer party source)
    (before, around) = some (.ok request, before.addParty moment, left)
  version : request.version = Raw.protocolVersion
  appId : request.appId = origin
  fresh : before.scene.accounts.session? request.sessionId = none
  opened : moment.after = before.scene.accounts.openSession request.sessionId
    (RelyingParty.registrationSession account origin request)

end Visitor

variable {party : RelyingParty} {visitor : Visitor} {origin account : String} {now : UInt64}
  {source : ChallengeSource} {before after : Chronicle} {around asked left : Surroundings}
  {request : Web.RegisterRequest} {moment : RelyingParty.Moment} {keyPair : KeyPair}

/-! What is written is read back. -/

theorem wellFormed_registration (honest : visitor.Honest party origin)
    (hvouches : party.suite.Vouches visitor.token.attestation.keyPair
      (visitor.attestedBytes origin request keyPair)) :
    (visitor.registration origin request keyPair).WellFormed where
  keyHandle := by
    have hlength : (visitor.registration origin request keyPair).keyHandle.length = 32 :=
      (visitor.token.suite.keyedDigest visitor.token.secret _).property
    omega
  certificate := honest.whole
  signature := by
    have hframed := hvouches.framed
    rw [← honest.token] at hframed
    exact hframed

theorem exists_encode_registration (honest : visitor.Honest party origin)
    (hvouches : party.suite.Vouches visitor.token.attestation.keyPair
      (visitor.attestedBytes origin request keyPair)) :
    ∃ bytes, (visitor.registration origin request keyPair).encode = .ok bytes := by
  obtain ⟨counted, hcounted⟩ := Raw.exists_countedBytes
    (wellFormed_registration honest hvouches).keyHandle
  exact ⟨_, Raw.RegistrationResponse.encode_eq_ok_iff.2 ⟨counted, hcounted, rfl⟩⟩

/-- What an honest visitor submits is attested. -/
theorem attested_response (account : String) (honest : visitor.Honest party origin)
    {registrationData : Bytes}
    (hvouches : party.suite.Vouches visitor.token.attestation.keyPair
      (visitor.attestedBytes origin request keyPair))
    (happId : request.appId = origin)
    (hencode : (visitor.registration origin request keyPair).encode = .ok registrationData) :
    party.Attested (RelyingParty.registrationSession account origin request)
      (visitor.response origin request registrationData)
      (visitor.registration origin request keyPair)
      (visitor.client.clientData .registration request.challenge origin)
      visitor.token.attestation.keyPair.publicKey where
  parsed := Web.ClientData.parse_bytes _
  answers := honest.answers (RelyingParty.registrationSession account origin request) .registration
  decoded := Raw.RegistrationResponse.decode_eq_ok_iff.2
    ⟨wellFormed_registration honest hvouches, hencode⟩
  trusted := honest.trusted
  keyRead := honest.certified
  verified := by
    have hmessage : party.attestedBytes (RelyingParty.registrationSession account origin request)
        (visitor.response origin request registrationData)
        (visitor.registration origin request keyPair) =
          visitor.attestedBytes origin request keyPair := by
      simp only [RelyingParty.attestedBytes, RelyingParty.registrationSession, Visitor.response,
        Visitor.attestedBytes, Client.registrationCall, honest.client, happId]
    have hsignature : (visitor.registration origin request keyPair).signature =
        party.suite.sign visitor.token.attestation.keyPair
          (visitor.attestedBytes origin request keyPair) := by
      rw [← honest.token]
      rfl
    rw [hmessage, hsignature]
    exact hvouches.verified

theorem application_registrationCall (honest : visitor.Honest party origin)
    (happId : request.appId = origin) :
    (visitor.client.registrationCall origin request).application =
      party.suite.digestText origin := by
  rw [Client.registrationCall, honest.client, happId]

theorem enrolmentOf_registration (honest : visitor.Honest party origin)
    (happId : request.appId = origin) (keyPair : KeyPair) (now : UInt64) :
    enrolmentOf (visitor.registration origin request keyPair) now =
      visitor.record origin keyPair now := by
  simp only [enrolmentOf, Visitor.registration, Token.registrationOf, Visitor.record,
    application_registrationCall honest happId, honest.token]
  rfl

/-- The party enrols the key of an attested response to a request that it just made. -/
theorem exists_run_acceptRegistration (honest : visitor.Honest party origin)
    {store : AccountStore} {registrationData : Bytes}
    (hvouches : party.suite.Vouches visitor.token.attestation.keyPair
      (visitor.attestedBytes origin request keyPair))
    (happId : request.appId = origin)
    (hencode : (visitor.registration origin request keyPair).encode = .ok registrationData)
    (hfresh : store.session? request.sessionId = none) (account : String) (now : UInt64)
    (source : ChallengeSource) (around : Surroundings) :
    ∃ left, (party.acceptRegistration (visitor.response origin request registrationData) now).run
      (RelyingParty.Memory.answer source)
      (store.openSession request.sessionId
        (RelyingParty.registrationSession account origin request), around) =
        some (.ok (visitor.record origin keyPair now),
          store.addKey account (visitor.record origin keyPair now), left) := by
  have hattested := attested_response account honest hvouches happId hencode
  have hkey : PublicKey.ofRaw? (visitor.registration origin request keyPair).publicKey ≠ none := by
    rw [Visitor.registration, Token.registrationOf, PublicKey.ofRaw?_toRaw]
    exact Option.some_ne_none _
  have hverdict := RelyingParty.registrationVerdict_of_attested now hattested hkey
  rw [enrolmentOf_registration honest happId] at hverdict
  have hwaiting : (store.openSession request.sessionId
      (RelyingParty.registrationSession account origin request)).waiting? .registration
        request.sessionId = some (RelyingParty.registrationSession account origin request) := by
    rw [AccountStore.waiting?_eq_some_iff, AccountStore.session?_openSession, if_pos rfl]
    exact ⟨rfl, rfl⟩
  have houtcome := party.outcome_acceptRegistration
    (visitor.response origin request registrationData) now source around
    (store.openSession request.sessionId
      (RelyingParty.registrationSession account origin request))
  rw [RelyingParty.registrationOutcome_of_ok hwaiting hverdict] at houtcome
  obtain ⟨left, hrun⟩ := RelyingParty.exists_run_of_outcome_eq houtcome
  refine ⟨left, hrun.trans ?_⟩
  simp only [Visitor.response, AccountStore.closeSession_openSession _ hfresh]
  rfl

/-! The visit, one question after the other. -/

theorem asked_of_run (visitor : Visitor) (party : RelyingParty) {accounts : AccountStore}
    (hrun : (RelyingParty.requestRegistration account origin).run
      (RelyingParty.Memory.answer source) (before.scene.accounts, around) =
        some (.ok request, accounts, left)) :
    visitor.Asked party source account origin before around request
      ⟨before.scene.accounts, .requestRegistration account origin (.ok request), accounts⟩ left := by
  obtain ⟨found, hfound, hversion, happId, hfresh, hopened⟩ :=
    RelyingParty.ends_requestRegistration (RelyingParty.Talk.ends_of_run hrun)
  cases hfound
  refine ⟨?_, hversion, happId, hfresh, ?_⟩
  · rw [Visitor.run_requestRegistration]
    exact Chronicle.callParty_eq_some_iff.2 ⟨accounts, hrun, rfl⟩
  · rw [hopened]

theorem exists_asked_of_visit {result : Except Failure Web.Enrolment}
    (hvisit : visitor.visit party source (visitor.client.register account origin now)
      (before, around) = some (result, after, left)) :
    ∃ request moment asked,
      visitor.Asked party source account origin before around request moment asked := by
  rcases Dialogue.run_bind_eq_some hvisit with
    ⟨request, ⟨between, asked⟩, hrequest, _⟩ | ⟨failure, hrequest, _⟩
  · rw [Visitor.run_requestRegistration] at hrequest
    obtain ⟨accounts, hrun, rfl⟩ := Chronicle.callParty_eq_some_iff.1 hrequest
    exact ⟨request, _, asked, asked_of_run visitor party hrun⟩
  · rw [Visitor.run_requestRegistration] at hrequest
    obtain ⟨accounts, hrun, rfl⟩ := Chronicle.callParty_eq_some_iff.1 hrequest
    obtain ⟨_, hresult, _⟩ :=
      RelyingParty.ends_requestRegistration (RelyingParty.Talk.ends_of_run hrun)
    cases hresult

/-- A registration goes on with the token's answer to the request. -/
theorem visit_register_eq (honest : visitor.Honest party origin)
    (hasked : visitor.Asked party source account origin before around request moment asked)
    (now : UInt64) :
    visitor.visit party source (visitor.client.register account origin now) (before, around) =
      (Chronicle.callToken visitor.token visitor.sensor visitor.ring
        (.register (visitor.client.registrationCall origin request))
        (visitor.token.register (visitor.client.registrationCall origin request))
        (before.addParty moment, asked)).bind fun (answer, state) =>
          visitor.visit party source (visitor.submission origin request now answer) state := by
  have hadmits : visitor.client.checkRequest request.version request.appId origin = .ok () := by
    rw [hasked.appId]
    exact Client.admits_iff.2 ⟨hasked.version, honest.checked⟩
  unfold Visitor.visit Client.register
  rw [Dialogue.run_bind_of_ok hasked.run, hadmits,
    Dialogue.run_bind_of_ok (Dialogue.run_ofExcept _ _)]
  refine (Dialogue.run_bind _ _ _).trans ?_
  rw [Visitor.run_register]
  refine Option.bind_congr ?_
  rintro ⟨_ | registration, state⟩ _ <;> rfl

/-- A token with its user there answers with the key pair it draws. -/
theorem exists_callToken_register (honest : visitor.Honest party origin)
    (hpresent : visitor.sensor.registration.userPresent = true) {tape : Tape}
    (hdraw : Tape.drawKeyPair party.suite around.tape = some (keyPair, tape))
    (request : Web.RegisterRequest) (before : Chronicle) :
    ∃ left, Chronicle.callToken visitor.token visitor.sensor visitor.ring
      (.register (visitor.client.registrationCall origin request))
      (visitor.token.register (visitor.client.registrationCall origin request)) (before, around) =
        some (.ok (visitor.registration origin request keyPair), before.addToken visitor.ring
          (visitor.registered origin request keyPair around (before.scene.rings visitor.ring)),
            left) := by
  rw [← honest.token] at hdraw
  obtain ⟨left, hrun⟩ := Token.run_register_of_present hpresent hdraw
  exact ⟨left, Chronicle.callToken_eq_some_iff.2 ⟨_, hrun, rfl⟩⟩

/-- The party takes what the client submits, and the session it opened is gone. -/
theorem exists_visit_submission (honest : visitor.Honest party origin) {store : AccountStore}
    (hvouches : party.suite.Vouches visitor.token.attestation.keyPair
      (visitor.attestedBytes origin request keyPair))
    (happId : request.appId = origin) (hfresh : store.session? request.sessionId = none)
    (before : Chronicle) (hopened : before.scene.accounts = store.openSession request.sessionId
      (RelyingParty.registrationSession account origin request))
    (now : UInt64) (source : ChallengeSource) (around : Surroundings) :
    ∃ moment left, moment.after = store.addKey account (visitor.record origin keyPair now) ∧
      visitor.visit party source (visitor.submission origin request now
        (.ok (visitor.registration origin request keyPair))) (before, around) =
          some (.ok (visitor.record origin keyPair now), before.addParty moment, left) := by
  obtain ⟨bytes, hencode⟩ := exists_encode_registration honest hvouches
  obtain ⟨left, hrun⟩ := exists_run_acceptRegistration honest hvouches happId hencode hfresh
    account now source around
  rw [← hopened] at hrun
  refine ⟨⟨before.scene.accounts, .acceptRegistration (visitor.response origin request bytes) now
    (.ok (visitor.record origin keyPair now)),
      store.addKey account (visitor.record origin keyPair now)⟩, left, rfl, ?_⟩
  unfold Visitor.visit Visitor.submission
  rw [Dialogue.run_bind_of_ok (Dialogue.run_ofExcept _ _), hencode]
  refine (Dialogue.run_bind_of_ok rfl _).trans ?_
  rw [Visitor.run_submitRegistration]
  exact Chronicle.callParty_eq_some_iff.2 ⟨_, hrun, rfl⟩

/-- With its user there, the token answers the request with the key pair it draws, and the party
enrols it. -/
theorem visit_register_of_asked (honest : visitor.Honest party origin)
    (hasked : visitor.Asked party source account origin before around request moment asked)
    (hpresent : visitor.sensor.registration.userPresent = true) {tape : Tape}
    (hdraw : Tape.drawKeyPair party.suite asked.tape = some (keyPair, tape))
    (hvouches : party.suite.Vouches visitor.token.attestation.keyPair
      (visitor.attestedBytes origin request keyPair)) (now : UInt64) :
    ∃ submitted left,
      submitted.after = before.scene.accounts.addKey account (visitor.record origin keyPair now) ∧
      visitor.visit party source (visitor.client.register account origin now) (before, around) =
        some (.ok (visitor.record origin keyPair now),
          ((before.addParty moment).addToken visitor.ring (visitor.registered origin request keyPair
            asked (before.scene.rings visitor.ring))).addParty submitted, left) := by
  obtain ⟨registered, hregister⟩ := exists_callToken_register honest hpresent hdraw request
    (before.addParty moment)
  obtain ⟨submitted, left, hafter, hsubmit⟩ := exists_visit_submission honest hvouches hasked.appId
    hasked.fresh ((before.addParty moment).addToken visitor.ring (visitor.registered origin request
      keyPair asked (before.scene.rings visitor.ring))) hasked.opened now source registered
  refine ⟨submitted, left, hafter, ?_⟩
  rw [visit_register_eq honest hasked, hregister]
  exact hsubmit

theorem signs_registered (hpresent : visitor.sensor.registration.userPresent = true) {tape : Tape}
    (hdraw : Tape.drawKeyPair visitor.token.suite around.tape = some (keyPair, tape))
    (origin : String) (request : Web.RegisterRequest) (ring : KeyRing) :
    (visitor.registered origin request keyPair around ring).Signs visitor.token.attestation.keyPair
      (visitor.attestedBytes origin request keyPair) :=
  .attestation ⟨rfl, Token.run_register_of_present hpresent hdraw⟩

theorem makings_registered (hpresent : visitor.sensor.registration.userPresent = true)
    {tape : Tape} (hdraw : Tape.drawKeyPair visitor.token.suite around.tape = some (keyPair, tape))
    (origin : String) (request : Web.RegisterRequest) (before : Chronicle) (ring : KeyRing) :
    makings (before.addToken visitor.ring
      (visitor.registered origin request keyPair around ring)).calls = makings before.calls ++
        [⟨visitor.ring, visitor.token, (visitor.client.registrationCall origin request).application,
          keyPair⟩] := by
  have hmaking : Moment.making? (.token visitor.ring
      (visitor.registered origin request keyPair around ring)) =
        some ⟨visitor.ring, visitor.token,
          (visitor.client.registrationCall origin request).application, keyPair⟩ := by
    change (if visitor.sensor.registration.userPresent then
      (Tape.drawKeyPair visitor.token.suite around.tape).map _ else none) = _
    rw [if_pos hpresent, hdraw]
    rfl
  rw [Chronicle.addToken, makings_append]
  simp only [makings, List.filterMap_cons, hmaking, List.filterMap_nil]

/-- An honest visit that enrols a key, whatever it comes to. -/
theorem enrolled_of_visit (honest : visitor.Honest party origin)
    {result : Except Failure Web.Enrolment}
    (hvisit : visitor.visit party source (visitor.client.register account origin now)
      (before, around) = some (result, after, left))
    (hsound : Sound party after.calls) :
    visitor.Enrolled party account origin now before after result := by
  obtain ⟨request, moment, asked, hasked⟩ := exists_asked_of_visit hvisit
  have hkept : ∀ holder, moment.after.keys holder = before.scene.accounts.keys holder := by
    intro holder
    rw [hasked.opened]
    rfl
  have hanswer := hvisit
  rw [visit_register_eq honest hasked] at hanswer
  obtain ⟨⟨answer, called, answered⟩, hcall, hsubmit⟩ := Option.bind_eq_some_iff.1 hanswer
  obtain ⟨ring, hrun, rfl⟩ := Chronicle.callToken_eq_some_iff.1 hcall
  rcases Token.run_register_eq_some hrun with
    ⟨habsent, rfl, rfl⟩ | ⟨keyPair, tape, hpresent, hdraw, rfl, rfl⟩
  · cases hsubmit
    refine .denied habsent hkept (Function.update_eq_self _ _) ?_
    exact (makings_addToken_of_absent habsent rfl _ _).trans (makings_addParty ..)
  · obtain ⟨calls, hcalls, _⟩ := Visitor.run_visit honest.token hsubmit
    have hvouches : party.suite.Vouches visitor.token.attestation.keyPair
        (visitor.attestedBytes origin request keyPair) := by
      refine hsound.vouches visitor.ring _ ?_ _ _
        (signs_registered hpresent hdraw origin request (before.scene.rings visitor.ring))
      rw [hcalls]
      exact List.mem_append_left _ (List.mem_append_right _ (List.mem_singleton_self _))
    have hparty := hdraw
    rw [honest.token] at hparty
    obtain ⟨submitted, last, hsubmitted, henrolled⟩ :=
      visit_register_of_asked honest hasked hpresent hparty hvouches now
    rw [hvisit] at henrolled
    cases henrolled
    refine .enrolled keyPair ?_ ?_ ?_
    · intro holder
      change submitted.after.keys holder = _
      rw [hsubmitted, AccountStore.keys_addKey]
    · rw [← enrolmentOf_registration honest hasked.appId,
        ← application_registrationCall honest hasked.appId]
      rfl
    · rw [makings_addParty, makings_registered hpresent hdraw, makings_addParty,
        application_registrationCall honest hasked.appId]

/-- An honest visitor whose user is there enrols a key, whatever the store of the party holds and
wherever its challenges come from, as long as the random bytes last. The visit ends in the record
of the new key, which the accounts and the ring of the token then hold besides what they held; the
sessions are those from before. -/
theorem registration_completes (honest : visitor.Honest party origin)
    (hpresent : visitor.sensor.registration.userPresent = true) (source : ChallengeSource)
    (before : Chronicle) (around : Surroundings) (account : String) (now : UInt64)
    {challenge : Bytes} {id : String} {first second third : Tape}
    (hchallenge : RelyingParty.Memory.challenge source account around.tape =
      some (challenge, first))
    (hid : before.scene.accounts.drawId first = some (id, second))
    (hdraw : Tape.drawKeyPair party.suite second = some (keyPair, third))
    (hvouches : party.suite.Vouches visitor.token.attestation.keyPair
      (visitor.attestedBytes origin ⟨Raw.protocolVersion, challenge, origin, id⟩ keyPair)) :
    ∃ after left,
      visitor.visit party source (visitor.client.register account origin now) (before, around) =
        some (.ok (visitor.record origin keyPair now), after, left) ∧
      after.scene.accounts.sessions = before.scene.accounts.sessions ∧
      (∀ other, after.scene.accounts.keys other =
        if other = account then
          before.scene.accounts.keys account ++ [visitor.record origin keyPair now]
        else before.scene.accounts.keys other) ∧
      after.scene.rings = Function.update before.scene.rings visitor.ring
        ((before.scene.rings visitor.ring).addKey (visitor.record origin keyPair now).keyHandle
          ⟨party.suite.digestText origin, keyPair⟩) := by
  have hrequest := RelyingParty.run_requestRegistration hchallenge hid origin
  have hasked := asked_of_run visitor party hrequest
  obtain ⟨submitted, left, hsubmitted, hvisit⟩ :=
    visit_register_of_asked honest hasked hpresent hdraw hvouches now
  refine ⟨_, left, hvisit, ?_, ?_, ?_⟩
  · change submitted.after.sessions = _
    rw [hsubmitted]
    rfl
  · intro other
    change submitted.after.keys other = _
    rw [hsubmitted, AccountStore.keys_addKey]
  · rw [← enrolmentOf_registration honest hasked.appId,
      ← application_registrationCall honest hasked.appId]
    rfl

/-! The registration of the key whose secret is one. -/

def batchVisitor : Visitor := ⟨⟨.standard, .any, none⟩, batchToken, ⟨.confirmed, .confirmed⟩, 0⟩

def emptyChronicle : Chronicle := ⟨⟨.empty, fun _ => .ofCounter 0⟩, []⟩

theorem honest_batchVisitor : batchVisitor.Honest batchParty "https://a.b" where
  client := rfl
  token := rfl
  checked := rfl
  allowed := by decide +kernel
  certified := by decide +kernel
  whole := by decide +kernel
  trusted := by decide +kernel

def attestedMessage : Bytes :=
  batchVisitor.attestedBytes "https://a.b"
    ⟨Raw.protocolVersion, [], "https://a.b", enrolmentResponse.sessionId⟩ KeyPair.base

theorem sign_attestedMessage :
    Suite.standard.sign KeyPair.base attestedMessage = attestationSignature := by
  decide +kernel

theorem vouches_attestation : Suite.standard.Vouches KeyPair.base attestedMessage where
  framed := by
    rw [sign_attestedMessage]
    exact Raw.isSequence_of_toOption (by decide +kernel)
  verified := by
    rw [sign_attestedMessage]
    decide +kernel

theorem registration_completes_enrolment : ∃ after left,
    batchVisitor.visit batchParty (.fixed fun _ => [])
      (batchVisitor.client.register "ann" "https://a.b" 0)
      (emptyChronicle, .ofTape (List.replicate 16 0 ++ bytesOfNat 32 1)) =
        some (.ok enrolmentRecord, after, left) ∧
      after.scene.accounts.keys "ann" = [enrolmentRecord] := by
  have hrecord : batchVisitor.record "https://a.b" KeyPair.base 0 = enrolmentRecord := by
    decide +kernel
  obtain ⟨after, left, hvisit, _, hkeys, _⟩ := registration_completes honest_batchVisitor rfl
    (.fixed fun _ => []) emptyChronicle (.ofTape (List.replicate 16 0 ++ bytesOfNat 32 1)) "ann" 0
    rfl (by decide +kernel) Tape.drawKeyPair_base vouches_attestation
  rw [hrecord] at hvisit
  refine ⟨after, left, hvisit, ?_⟩
  rw [hkeys "ann", hrecord]
  rfl

end Scene

end SecondFactor
