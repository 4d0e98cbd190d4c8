import SecondFactor.Proofs.PublicKey
import SecondFactor.Proofs.Raw.SignedBytes
import SecondFactor.Proofs.RelyingParty.Challenges
import SecondFactor.Proofs.RelyingParty.KeyLog
import SecondFactor.Proofs.Scene

/-!
Where enrolled keys come from. If nobody but a token can attest under a trusted certificate, a party
that refuses what it does not trust enrols a key only when a token made it for the session and the
client data of the response; and no two keys are enrolled for one call of a token.
-/

namespace SecondFactor.Scene

/-- A call of the party has the attestation of a response verified, and it is good. -/
def Attests (party : RelyingParty) (moment : RelyingParty.Moment) (certificate message : Bytes) :
    Prop :=
  ∃ response now result session registration data certified,
    moment.event = .acceptRegistration response now result ∧
      moment.before.waiting? .registration response.sessionId = some session ∧
      party.Attested session response registration data certified ∧
      certificate = registration.certificate ∧
      message = party.attestedBytes session response registration

/-- No attestation is good under a trusted certificate unless a token made one before, with its
attestation key and over the same message. -/
def AttestationUnforgeable (party : RelyingParty) (history : List Moment) : Prop :=
  ∀ earlier moment later, history = earlier ++ .party moment :: later →
    ∀ certificate message, party.trusted.trusts party.suite certificate = true →
      Attests party moment certificate message →
        ∃ ring signer, .token ring signer ∈ earlier ∧
          signer.Signs signer.token.attestation.keyPair message

/-- With its user there, a token made the key that is enrolled, for the application of the session
and for the client data of the response. -/
structure EnrolledBy (party : RelyingParty) (session : Web.Session)
    (response : Web.RegisterResponse) (record : Web.Enrolment) (signer : Token.Moment)
    (request : Raw.RegistrationRequest) (answer : Raw.RegistrationResponse) : Prop where
  registers : signer.Registers request answer
  returned : signer.call = .register request (.ok answer) ∨
    ∃ command bytes, answer.encode = .ok bytes ∧
      signer.call = .respond command (.ok (Token.answerBytes (.ok bytes)))
  present : signer.sensor.registration.userPresent = true
  application : request.application = party.suite.digestText session.appId
  challenge : request.challenge = party.suite.digest response.clientData
  publicKey : answer.publicKey.bytes = record.publicKey
  keyHandle : answer.keyHandle = record.keyHandle

/-- A call of the party enrols the key that a call of a token made. -/
def Corresponds (party : RelyingParty) (moment : RelyingParty.Moment) (signer : Token.Moment) :
    Prop :=
  ∃ response now record session request answer,
    moment.event = .acceptRegistration response now (.ok record) ∧
      moment.before.waiting? .registration response.sessionId = some session ∧
      EnrolledBy party session response record signer request answer

/-- The challenges that the party issues for new keys, one for each request. -/
def challenges (history : List Moment) : List Bytes :=
  (history.filterMap Moment.party?).filterMap RelyingParty.Moment.enrolmentChallenge?

/-- The client data of a registration that the party is given. -/
def Moment.clientData? : Moment → Option Bytes
  | .party ⟨_, .acceptRegistration response _ _, _⟩ => some response.clientData
  | _ => none

/-- The client data of registrations have the same digest only where they are the same. -/
def CollisionFree (party : RelyingParty) (history : List Moment) : Prop :=
  ∀ data ∈ history.filterMap Moment.clientData?,
    ∀ other ∈ history.filterMap Moment.clientData?,
      party.suite.digest data = party.suite.digest other → data = other

variable {party : RelyingParty} {first last : Scene} {history : List Moment}

/-- A token that signed the message of a registration was asked for a key, for no other signature
is made in bytes of that layout. -/
theorem enrolledBy_of_signs {session : Web.Session} {response : Web.RegisterResponse}
    {registration : Raw.RegistrationResponse} {now : UInt64} {signer : Token.Moment}
    {keyPair : KeyPair} (hhappens : signer.Happens)
    (hsigns : signer.Signs keyPair (party.attestedBytes session response registration)) :
    ∃ request answer, EnrolledBy party session response
      (RelyingParty.enrolmentOf registration now) signer request answer := by
  generalize hmessage : party.attestedBytes session response registration = message at hsigns
  cases hsigns with
  | @attestation request answer hregisters =>
      obtain ⟨happlication, hchallenge, hhandle, hkey⟩ :=
        Raw.registrationSignedBytes_injective hmessage
      obtain ⟨_, left, hrun⟩ := id hregisters
      obtain ⟨hpresent, _⟩ := Token.run_register_eq_ok hrun
      exact ⟨request, answer, hregisters,
        Token.Moment.returned_of_registers hhappens hregisters, hpresent, happlication.symm,
        hchallenge.symm, congrArg Raw.PublicKey.bytes hkey.symm, hhandle.symm⟩
  | authentication =>
      exact absurd hmessage
        (Raw.registrationSignedBytes_ne_authenticationSignedBytes _ _ _ _ _ _ _ _)

theorem enrolledBy_of_accepted (hrun : Run (Step party) first history last)
    (hpolicy : party.policy = .refuse) (hunforgeable : AttestationUnforgeable party history)
    {earlier later : List Moment} {moment : RelyingParty.Moment}
    {response : Web.RegisterResponse} {now : UInt64} {record : Web.Enrolment}
    (hsplit : history = earlier ++ .party moment :: later)
    (haccepted : moment.event = .acceptRegistration response now (.ok record)) :
    ∃ session, moment.before.waiting? .registration response.sessionId = some session ∧
      ∃ ring signer request answer, .token ring signer ∈ earlier ∧
        EnrolledBy party session response record signer request answer := by
  subst hsplit
  obtain ⟨before, after, hstep⟩ := step_party hrun
  obtain ⟨event, hleads⟩ := hstep
  simp only at haccepted
  subst haccepted
  obtain ⟨session, registration, data, certified, hwaiting, hattested, rfl⟩ :=
    RelyingParty.leads_acceptRegistration_ok hleads
  have htrusted : party.trusted.trusts party.suite registration.certificate = true := by
    rcases hattested.trusted with htrusted | hwarn
    · exact htrusted
    · rw [hpolicy] at hwarn
      cases hwarn
  obtain ⟨ring, signer, hmem, hsigns⟩ := hunforgeable earlier _ later rfl _ _ htrusted
    ⟨response, now, _, session, registration, data, certified, rfl, hwaiting, hattested, rfl, rfl⟩
  obtain ⟨_, hhappens⟩ := happens_of_mem hrun (List.mem_append_left _ hmem)
  obtain ⟨request, answer, henrolled⟩ := enrolledBy_of_signs hhappens hsigns
  exact ⟨session, hwaiting, ring, signer, request, answer, hmem, henrolled⟩

/-- Two responses that answer one call of a token hold the same client data. -/
theorem digest_eq_of_enrolledBy {session session' : Web.Session}
    {response response' : Web.RegisterResponse} {record record' : Web.Enrolment}
    {signer : Token.Moment} {request request' : Raw.RegistrationRequest}
    {answer answer' : Raw.RegistrationResponse}
    (henrolled : EnrolledBy party session response record signer request answer)
    (henrolled' : EnrolledBy party session' response' record' signer request' answer') :
    party.suite.digest response.clientData = party.suite.digest response'.clientData := by
  have hrequest := henrolled.registers.1
  rw [henrolled'.registers.1] at hrequest
  cases hrequest
  rw [← henrolled.challenge, henrolled'.challenge]

theorem clientData?_of_event {moment : RelyingParty.Moment} {response : Web.RegisterResponse}
    {now : UInt64} {result : Except Failure Web.Enrolment}
    (hevent : moment.event = .acceptRegistration response now result) :
    Moment.clientData? (.party moment) = some response.clientData := by
  cases moment
  cases hevent
  rfl

theorem not_corresponds_twice (hrun : Run (Step party) first history last)
    (hfirst : ∀ id, first.accounts.session? id = none) (hchallenges : (challenges history).Nodup)
    (hcollisionFree : CollisionFree party history) {earlier between later : List Moment}
    {call other : RelyingParty.Moment} {signer : Token.Moment}
    (hsplit : history = earlier ++ .party call :: between ++ .party other :: later)
    (hcall : Corresponds party call signer) : ¬ Corresponds party other signer := by
  intro hother
  obtain ⟨response, now, record, session, request, answer, hevent, hwaiting, henrolled⟩ := hcall
  obtain ⟨response', now', record', session', request', answer', hevent', hwaiting',
    henrolled'⟩ := hother
  subst hsplit
  have hdata : response.clientData = response'.clientData := by
    refine hcollisionFree _ ?_ _ ?_ (digest_eq_of_enrolledBy henrolled henrolled')
    · refine List.mem_filterMap.2 ⟨.party call, by simp, ?_⟩
      rw [clientData?_of_event hevent]
    · refine List.mem_filterMap.2 ⟨.party other, by simp, ?_⟩
      rw [clientData?_of_event hevent']
  have hparts : (earlier ++ .party call :: between ++ .party other :: later).filterMap
      Moment.party? = earlier.filterMap Moment.party? ++ call ::
        between.filterMap Moment.party? ++ other :: later.filterMap Moment.party? := by
    simp [Moment.party?]
  have hparty := run_party hrun
  rw [challenges] at hchallenges
  rw [hparts] at hparty hchallenges
  obtain ⟨_, _, hupto, hotherStep, _⟩ := hparty.cut_at
  obtain ⟨_, _, _, hcallStep, _⟩ := hupto.cut_at
  obtain ⟨_, _, _, hattested⟩ := hcallStep.attested hevent hwaiting
  obtain ⟨_, _, _, hattested'⟩ := hotherStep.attested hevent' hwaiting'
  have hanswered : call.event.answered? = some (.registration, response.sessionId) := by
    rw [hevent]
    rfl
  exact RelyingParty.challenge_ne_of_answered hfirst hparty hchallenges hanswered hwaiting
    hwaiting' (hattested.challenge_eq hattested' hdata)

/-- A key that is enrolled was made by a token before. From a store without sessions on, and where
no challenge is issued twice and no digest is that of two client data, it was not made in a call for
which another key is enrolled. -/
theorem enrolment_origin (hrun : Run (Step party) first history last)
    (hpolicy : party.policy = .refuse) (hunforgeable : AttestationUnforgeable party history) :
    (∀ earlier moment later response now record, history = earlier ++ .party moment :: later →
      moment.event = .acceptRegistration response now (.ok record) →
        ∃ session, moment.before.waiting? .registration response.sessionId = some session ∧
          ∃ ring signer request answer, .token ring signer ∈ earlier ∧
            EnrolledBy party session response record signer request answer) ∧
    ((∀ id, first.accounts.session? id = none) → (challenges history).Nodup →
      CollisionFree party history → ∀ earlier call between other later,
        history = earlier ++ .party call :: between ++ .party other :: later →
          ∀ signer, Corresponds party call signer → ¬ Corresponds party other signer) := by
  constructor
  · intro earlier moment later response now record hsplit haccepted
    exact enrolledBy_of_accepted hrun hpolicy hunforgeable hsplit haccepted
  · intro hfirst hchallenges hcollisionFree earlier call between other later hsplit signer hcall
    exact not_corresponds_twice hrun hfirst hchallenges hcollisionFree hsplit hcall

/-! A token that enrols two keys with one party, one after the other, and attests both with the
first of them. -/

open RelyingParty (batchParty enrolmentAsked enrolmentData enrolmentHandle enrolmentRecord
  enrolmentResponse enrolmentSession enrolmentTaken leads_enrolmentAsked leads_enrolmentTaken
  waiting?_enrolmentTaken)
open TrustAnchors (batchCertificate)

theorem AttestationUnforgeable.nil (party : RelyingParty) : AttestationUnforgeable party [] := by
  intro earlier moment later hsplit
  simp at hsplit

/-- One more call may have an attestation verified if a token made it before. -/
theorem AttestationUnforgeable.concat (hunforgeable : AttestationUnforgeable party history)
    {given : Moment} (hgiven : ∀ moment, given = .party moment → ∀ certificate message,
      Attests party moment certificate message → ∃ ring signer, .token ring signer ∈ history ∧
        signer.Signs signer.token.attestation.keyPair message) :
    AttestationUnforgeable party (history ++ [given]) := by
  intro earlier moment later hsplit certificate message htrusted hattests
  rcases List.eq_nil_or_concat later with rfl | ⟨between, last, rfl⟩
  · obtain ⟨rfl, hlast⟩ := List.append_inj' hsplit rfl
    exact hgiven moment (List.singleton_inj.1 hlast) certificate message hattests
  · rw [List.concat_eq_append, ← List.cons_append, ← List.append_assoc] at hsplit
    obtain ⟨hhistory, _⟩ := List.append_inj' hsplit rfl
    exact hunforgeable earlier moment between hhistory certificate message htrusted hattests

theorem AttestationUnforgeable.concat_party {given : RelyingParty.Moment}
    (hunforgeable : AttestationUnforgeable party history)
    (hgiven : ∀ certificate message, Attests party given certificate message →
      ∃ ring signer, .token ring signer ∈ history ∧
        signer.Signs signer.token.attestation.keyPair message) :
    AttestationUnforgeable party (history ++ [.party given]) := by
  refine hunforgeable.concat fun moment hmoment => ?_
  obtain rfl := Moment.party.inj hmoment
  exact hgiven

theorem AttestationUnforgeable.concat_token (hunforgeable : AttestationUnforgeable party history)
    (ring : Nat) (signer : Token.Moment) :
    AttestationUnforgeable party (history ++ [.token ring signer]) := by
  refine hunforgeable.concat fun moment hmoment => ?_
  cases hmoment

/-- What a call of the party has verified is signed by the token that answered the request. -/
theorem signs_of_attests {moment : RelyingParty.Moment} {response : Web.RegisterResponse}
    {now : UInt64} {result : Except Failure Web.Enrolment} {session : Web.Session}
    {signer : Token.Moment} {request : Raw.RegistrationRequest}
    {answer : Raw.RegistrationResponse} {certificate message : Bytes}
    (hevent : moment.event = .acceptRegistration response now result)
    (hwaiting : moment.before.waiting? .registration response.sessionId = some session)
    (hregisters : signer.Registers request answer)
    (happlication : request.application = party.suite.digestText session.appId)
    (hchallenge : request.challenge = party.suite.digest response.clientData)
    (hdecoded : (Raw.RegistrationResponse.decode response.registrationData).toOption.map
      (fun registration => (registration.keyHandle, registration.publicKey)) =
        some (answer.keyHandle, answer.publicKey))
    (hattests : Attests party moment certificate message) :
    signer.Signs signer.token.attestation.keyPair message := by
  obtain ⟨given, time, outcome, met, registration, data, certified, hgiven, hmet, hattested, _,
    rfl⟩ := hattests
  rw [hevent] at hgiven
  cases hgiven
  rw [hwaiting] at hmet
  cases hmet
  rw [hattested.decoded] at hdecoded
  obtain ⟨hhandle, hkey⟩ := Prod.mk.inj (Option.some.inj hdecoded)
  rw [RelyingParty.attestedBytes, hhandle, hkey, ← happlication, ← hchallenge]
  exact .attestation hregisters

def batchToken : Token := ⟨.standard, ⟨batchCertificate, KeyPair.base⟩, blockOfNat 32 0⟩

def enrolmentRequest : Raw.RegistrationRequest :=
  ⟨Suite.standard.digest enrolmentData, Suite.standard.digestText "https://a.b"⟩

def enrolmentAnswer : Raw.RegistrationResponse :=
  batchToken.registrationOf enrolmentRequest KeyPair.base

def enrolmentMade : Token.Moment where
  token := batchToken
  sensor := ⟨.confirmed, .absent⟩
  around := .ofTape (bytesOfNat 32 1)
  before := .ofCounter 0
  call := .register enrolmentRequest (.ok enrolmentAnswer)
  after := (KeyRing.ofCounter 0).addKey enrolmentAnswer.keyHandle
    ⟨enrolmentRequest.application, KeyPair.base⟩

theorem ends_enrolmentMade :
    enrolmentMade.Ends (batchToken.register enrolmentRequest) (.ok enrolmentAnswer) :=
  Token.run_register_of_present (by decide) Tape.drawKeyPair_base

theorem decode_enrolmentResponse :
    (Raw.RegistrationResponse.decode enrolmentResponse.registrationData).toOption.map
        (fun registration => (registration.keyHandle, registration.publicKey)) =
      some (enrolmentAnswer.keyHandle, enrolmentAnswer.publicKey) := by
  decide +kernel

/-- The key pair whose secret is two. -/
def nextKeyPair : KeyPair where
  secret := 2
  publicKey :=
    ⟨0x7cf27b188d034f7e8a52380304b51ac3c08969e277f21b35a60b48fc47669978,
      0x07775510db8ed040293d9ac69f7430dbba7dade63ce982299e04b79d227873d1, by decide +kernel⟩

def nextData : Bytes :=
  Utf8.bytes ("\x7b\"typ\":\"navigator.id.finishEnrollment\",\"challenge\":\"AQ\"," ++
    "\"origin\":\"https://a.b\"\x7d")

def nextHandle : Bytes :=
  [0x30, 0x32, 0xed, 0x7f, 0xce, 0x90, 0xf5, 0x10, 0x99, 0x5a, 0x48, 0x65, 0xb5, 0x24, 0xd3,
   0xc6, 0xa7, 0x63, 0xbd, 0x0f, 0x72, 0x1e, 0x20, 0x88, 0x7d, 0x3c, 0x0e, 0x8c, 0xe1, 0x50,
   0xdb, 0xa6]

def nextSignature : Bytes :=
  [0x30, 0x46, 0x02, 0x21, 0x00, 0x88, 0xb9, 0xcb, 0x2f, 0xec, 0xb5, 0x68, 0xf1, 0x4c, 0xee,
   0x52, 0x72, 0xe9, 0xaf, 0x1a, 0x59, 0x49, 0x5d, 0xb7, 0xa6, 0xe6, 0x99, 0x6e, 0x8b, 0xfb,
   0xe1, 0x94, 0xf1, 0xa1, 0xdc, 0xb1, 0x50, 0x02, 0x21, 0x00, 0x89, 0x7e, 0xb1, 0xf5, 0xbe,
   0x70, 0x6b, 0x17, 0xb4, 0xe9, 0x1a, 0xd5, 0xa2, 0xa0, 0x35, 0x63, 0x1c, 0x59, 0x8a, 0xf1,
   0xcf, 0x01, 0x60, 0xf9, 0x5a, 0xff, 0xd4, 0xfc, 0x5a, 0xc2, 0x41, 0x6b]

def nextResponse : Web.RegisterResponse where
  registrationData := 0x05 :: (nextKeyPair.publicKey.bytes ++ 0x20 :: nextHandle
    ++ batchCertificate ++ nextSignature)
  clientData := nextData
  sessionId := "AQEBAQEBAQEBAQEBAQEBAQ"

def nextRecord : Web.Enrolment :=
  ⟨nextHandle, nextKeyPair.publicKey.bytes, batchCertificate, 0, 0⟩

def nextSession : Web.Session := ⟨"ann", "https://a.b", [0x01], .enrol⟩

def nextAskedStore : AccountStore :=
  enrolmentTaken.after.openSession nextResponse.sessionId nextSession

def nextAsked : RelyingParty.Moment where
  before := enrolmentTaken.after
  event := .requestRegistration "ann" "https://a.b"
    (.ok ⟨Raw.protocolVersion, [0x01], "https://a.b", nextResponse.sessionId⟩)
  after := nextAskedStore

def nextRequest : Raw.RegistrationRequest :=
  ⟨Suite.standard.digest nextData, Suite.standard.digestText "https://a.b"⟩

def nextAnswer : Raw.RegistrationResponse :=
  batchToken.registrationOf nextRequest nextKeyPair

def nextMade : Token.Moment where
  token := batchToken
  sensor := ⟨.confirmed, .absent⟩
  around := .ofTape (bytesOfNat 32 2)
  before := enrolmentMade.after
  call := .register nextRequest (.ok nextAnswer)
  after := enrolmentMade.after.addKey nextAnswer.keyHandle
    ⟨nextRequest.application, nextKeyPair⟩

def nextTaken : RelyingParty.Moment where
  before := nextAskedStore
  event := .acceptRegistration nextResponse 0 (.ok nextRecord)
  after := (nextAskedStore.closeSession nextResponse.sessionId).addKey "ann" nextRecord

theorem leads_nextAsked : nextAsked.event.Leads batchParty enrolmentTaken.after nextAskedStore :=
  ⟨.fixed fun _ => [0x01], .ofTape (List.replicate 16 1), rfl⟩

theorem ends_nextMade : nextMade.Ends (batchToken.register nextRequest) (.ok nextAnswer) := by
  have hdrawn : Tape.drawKeyPair Suite.standard (bytesOfNat 32 2) = some (nextKeyPair, []) := by
    decide +kernel
  exact Token.run_register_of_present (by decide) hdrawn

theorem waiting?_nextTaken :
    nextAskedStore.waiting? .registration nextResponse.sessionId = some nextSession := by
  decide +kernel

theorem leads_nextTaken : nextTaken.event.Leads batchParty nextAskedStore nextTaken.after := by
  have hverdict : batchParty.registrationVerdict nextSession nextResponse 0 = .ok nextRecord :=
    eq_ok_of_toOption_eq_some (by decide +kernel)
  exact RelyingParty.leads_acceptRegistration_of_ok waiting?_nextTaken hverdict

theorem decode_nextResponse :
    (Raw.RegistrationResponse.decode nextResponse.registrationData).toOption.map
        (fun registration => (registration.keyHandle, registration.publicKey)) =
      some (nextAnswer.keyHandle, nextAnswer.publicKey) := by
  decide +kernel

def enrolmentHistory : List Moment :=
  [.party enrolmentAsked, .token 0 enrolmentMade, .party enrolmentTaken,
    .party nextAsked, .token 0 nextMade, .party nextTaken]

theorem run_enrolment : ∃ last,
    Run (Step batchParty) ⟨.empty, fun _ => .ofCounter 0⟩ enrolmentHistory last := by
  have hring : nextMade.before =
      Function.update (fun _ => KeyRing.ofCounter 0) 0 enrolmentMade.after 0 := by
    rw [Function.update_self]
    rfl
  exact ⟨_, .step (.party (.call _ leads_enrolmentAsked)) <|
    .step (.token rfl rfl ends_enrolmentMade) <|
    .step (.party (.call _ leads_enrolmentTaken)) <|
    .step (.party (.call _ leads_nextAsked)) <|
    .step (.token rfl hring ends_nextMade) <|
    .step (.party (.call _ leads_nextTaken)) (.done _)⟩

theorem attestationUnforgeable_enrolment :
    AttestationUnforgeable batchParty enrolmentHistory := by
  have hasked : AttestationUnforgeable batchParty (enrolmentHistory.take 1) := by
    refine (AttestationUnforgeable.nil batchParty).concat_party ?_
    rintro _ _ ⟨_, _, _, _, _, _, _, hevent, _⟩
    cases hevent
  have htaken : AttestationUnforgeable batchParty (enrolmentHistory.take 3) := by
    refine (hasked.concat_token 0 enrolmentMade).concat_party fun _ _ hattests => ?_
    exact ⟨0, enrolmentMade, by simp, signs_of_attests rfl waiting?_enrolmentTaken
      ⟨rfl, ends_enrolmentMade⟩ rfl rfl decode_enrolmentResponse hattests⟩
  have hnext : AttestationUnforgeable batchParty (enrolmentHistory.take 4) := by
    refine htaken.concat_party ?_
    rintro _ _ ⟨_, _, _, _, _, _, _, hevent, _⟩
    cases hevent
  refine (hnext.concat_token 0 nextMade).concat_party fun _ _ hattests => ?_
  exact ⟨0, nextMade, by simp, signs_of_attests rfl waiting?_nextTaken
    ⟨rfl, ends_nextMade⟩ rfl rfl decode_nextResponse hattests⟩

theorem collisionFree_enrolment : CollisionFree batchParty enrolmentHistory := by
  have hdiffer : batchParty.suite.digest enrolmentData ≠ batchParty.suite.digest nextData := by
    decide +kernel
  change ∀ data ∈ [enrolmentData, nextData], ∀ other ∈ [enrolmentData, nextData],
    batchParty.suite.digest data = batchParty.suite.digest other → data = other
  simp [hdiffer, hdiffer.symm]

theorem enrolment_origin_for_two_keys :
    (∃ ring signer, .token ring signer ∈ enrolmentHistory.take 2 ∧
      Corresponds batchParty enrolmentTaken signer) ∧
    (∃ ring signer, .token ring signer ∈ enrolmentHistory.take 5 ∧
      Corresponds batchParty nextTaken signer) ∧
    ∀ signer, Corresponds batchParty enrolmentTaken signer →
      ¬ Corresponds batchParty nextTaken signer := by
  obtain ⟨last, hrun⟩ := run_enrolment
  obtain ⟨horigin, honce⟩ := enrolment_origin hrun rfl attestationUnforgeable_enrolment
  refine ⟨?_, ?_, ?_⟩
  · obtain ⟨session, hwaiting, ring, signer, request, answer, hmem, henrolled⟩ :=
      horigin (enrolmentHistory.take 2) enrolmentTaken (enrolmentHistory.drop 3) _ _ _ rfl rfl
    exact ⟨ring, signer, hmem, _, _, _, session, request, answer, rfl, hwaiting, henrolled⟩
  · obtain ⟨session, hwaiting, ring, signer, request, answer, hmem, henrolled⟩ :=
      horigin (enrolmentHistory.take 5) nextTaken [] _ _ _ rfl rfl
    exact ⟨ring, signer, hmem, _, _, _, session, request, answer, rfl, hwaiting, henrolled⟩
  · exact honce (fun _ => rfl) (by decide) collisionFree_enrolment (enrolmentHistory.take 2)
      enrolmentTaken [.party nextAsked, .token 0 nextMade] nextTaken [] rfl

end SecondFactor.Scene
