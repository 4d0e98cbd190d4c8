import SecondFactor.Proofs.PublicKey
import SecondFactor.Proofs.Raw.SignedBytes
import SecondFactor.Proofs.RelyingParty.Counters
import SecondFactor.Proofs.Scene

/-!
Where signatures come from. If nobody but a token can sign with the key pairs of tokens, a signature
is taken only when a token made it for the session and the client data of its response.
-/

namespace SecondFactor.Scene

/-- A token made a key pair with this public key. -/
def Made (history : List Moment) (publicKey : PublicKey) : Prop :=
  ∃ ring moment request response, .token ring moment ∈ history ∧
    moment.Registers request response ∧ response.publicKey = publicKey.toRaw

/-- A call of the party has the signature of a response verified, and it is good. -/
def Verifies (party : RelyingParty) (moment : RelyingParty.Moment) (publicKey : PublicKey)
    (message : Bytes) : Prop :=
  ∃ response result session key authentication data,
    moment.event = .acceptSignature response result ∧
      moment.before.waiting? .authentication response.sessionId = some session ∧
      session.publicKey? = some key.publicKey ∧
      moment.before.firstKey? session.account key.publicKey = some key ∧
      key.keyHandle = response.keyHandle ∧
      party.Signed session key response authentication data publicKey ∧
      message = party.signedBytes session response authentication

/-- No signature is good under a public key of tokens unless a token made one before, with the key
pair of that public key and over the same message. -/
def Unforgeable (party : RelyingParty) (history : List Moment) : Prop :=
  ∀ earlier moment later, history = earlier ++ .party moment :: later →
    ∀ publicKey message, Made history publicKey → Verifies party moment publicKey message →
      ∃ ring signer keyPair, .token ring signer ∈ earlier ∧ signer.Signs keyPair message ∧
        keyPair.publicKey = publicKey

/-- In a call that was more than a check, a token signed with the key pair of the public key what
the party takes: its flags and its counter, for the application of the session and for the client
data of the response. -/
structure SignedFor (party : RelyingParty) (session : Web.Session) (response : Web.SignResponse)
    (authentication : Raw.AuthenticationResponse) (publicKey : PublicKey) (signer : Token.Moment)
    (request : Raw.AuthenticationRequest) (answer : Raw.AuthenticationResponse)
    (key : TokenKey) : Prop where
  authenticates : signer.Authenticates request answer
  returned : signer.call = .authenticate request (.ok answer) ∨
    ∃ command, signer.call = .respond command (.ok (Token.answerBytes (.ok answer.encode)))
  control : request.control ≠ .checkOnly
  found : signer.before.key? request.keyHandle = some key
  publicKey : key.keyPair.publicKey = publicKey
  signature : answer.signature = party.suite.sign key.keyPair
    (party.signedBytes session response authentication)
  presence : answer.presence = authentication.presence
  counter : answer.counter = authentication.counter
  application : request.application = party.suite.digestText session.appId
  challenge : request.challenge = party.suite.digest response.clientData

variable {party : RelyingParty} {first last : Scene} {history : List Moment}

/-- A token that signed the message of a response was asked for a signature, for no registration is
signed in bytes of that layout. -/
theorem signedFor_of_signs {session : Web.Session} {response : Web.SignResponse}
    {authentication : Raw.AuthenticationResponse} {signer : Token.Moment} {keyPair : KeyPair}
    (hsuite : signer.token.suite = party.suite) (hhappens : signer.Happens)
    (hsigns : signer.Signs keyPair (party.signedBytes session response authentication)) :
    ∃ request answer key,
      SignedFor party session response authentication keyPair.publicKey signer request answer
        key := by
  generalize hmessage : party.signedBytes session response authentication = message at hsigns
  cases hsigns with
  | attestation hregisters =>
      exact absurd hmessage.symm
        (Raw.registrationSignedBytes_ne_authenticationSignedBytes _ _ _ _ _ _ _ _)
  | @authentication request answer key hauthenticates hkey =>
      obtain ⟨happlication, hpresence, hcounter, hchallenge⟩ :=
        Raw.authenticationSignedBytes_injective hmessage
      obtain ⟨_, left, hrun⟩ := id hauthenticates
      obtain ⟨hcontrol, _, _, found, hfound, _, hanswer⟩ := Token.run_authenticate_eq_ok hrun
      rw [hkey] at hfound
      cases hfound
      refine ⟨request, answer, key, hauthenticates,
        Token.Moment.returned_of_authenticates hhappens hauthenticates, hcontrol, hkey, rfl, ?_,
        hpresence.symm, hcounter.symm, happlication.symm, hchallenge.symm⟩
      have hsignature := congrArg Raw.AuthenticationResponse.signature hanswer
      have hpresent := congrArg Raw.AuthenticationResponse.presence hanswer
      rw [hsignature, hmessage, hpresent, ← hsuite]
      rfl

/-- A signature that is taken for a public key of tokens was made by a token before. -/
theorem signature_origin (hrun : Run (Step party) first history last)
    (hunforgeable : Unforgeable party history) {earlier later : List Moment}
    {moment : RelyingParty.Moment} {response : Web.SignResponse} {record : Web.Enrolment}
    {publicKey : PublicKey} (hsplit : history = earlier ++ .party moment :: later)
    (haccepted : moment.event = .acceptSignature response (.ok record))
    (hmade : Made history publicKey) (hrecord : record.publicKey = publicKey.bytes) :
    ∃ session checked authentication data,
      RelyingParty.Checked party moment.before moment.after response record session checked
        authentication ∧
      party.Signed session checked response authentication data publicKey ∧
      ∃ ring signer request answer key, .token ring signer ∈ earlier ∧
        SignedFor party session response authentication publicKey signer request answer key := by
  subst hsplit
  obtain ⟨before, after, hstep⟩ := step_party hrun
  obtain ⟨event, hleads⟩ := hstep
  simp only at haccepted
  subst haccepted
  obtain ⟨session, checked, authentication, hchecked⟩ :=
    RelyingParty.leads_acceptSignature_ok hleads
  obtain ⟨data, read, hsigned⟩ := RelyingParty.readAuthentication_eq_ok_iff.1 hchecked.read
  have hkey : checked.publicKey = record.publicKey := by
    rw [hchecked.record_eq]
  have hread : read = publicKey := by
    have hdecode := hsigned.keyRead
    rw [hkey, hrecord, PublicKey.decode?_bytes] at hdecode
    cases hdecode
    rfl
  subst hread
  have hverifies : Verifies party ⟨before, .acceptSignature response (.ok record), after⟩ read
      (party.signedBytes session response authentication) :=
    ⟨response, .ok record, session, checked, authentication, data, rfl, hchecked.waiting,
      hkey ▸ hchecked.publicKey, hkey ▸ hchecked.found, hchecked.keyHandle, hsigned, rfl⟩
  obtain ⟨ring, signer, keyPair, hmem, hsigns, rfl⟩ :=
    hunforgeable earlier _ later rfl read _ hmade hverifies
  obtain ⟨hsuite, hhappens⟩ := happens_of_mem hrun (List.mem_append_left _ hmem)
  obtain ⟨request, answer, key, hfor⟩ := signedFor_of_signs hsuite hhappens hsigns
  exact ⟨session, checked, authentication, data, hchecked, hsigned, ring, signer, request,
    answer, key, hmem, hfor⟩

/-! A token that makes the key whose secret is one, and signs with it. -/

open RelyingParty (sampleParty sampleSession sampleKey sampleStore raisedStore firstResponse)

def sampleToken : Token := ⟨.standard, ⟨[], KeyPair.base⟩, blockOfNat 32 0⟩

def keyRequest : Raw.RegistrationRequest :=
  ⟨Suite.standard.digest [], Suite.standard.digestText "https://a.b"⟩

def signatureRequest : Raw.AuthenticationRequest where
  control := .enforcePresence
  challenge := Suite.standard.digest firstResponse.clientData
  application := Suite.standard.digestText "https://a.b"
  keyHandle := (sampleToken.registrationOf keyRequest KeyPair.base).keyHandle

def sampleTokenKey : TokenKey := ⟨keyRequest.application, KeyPair.base⟩

def keyedRing : KeyRing :=
  (KeyRing.ofCounter 0).addKey (sampleToken.registrationOf keyRequest KeyPair.base).keyHandle
    sampleTokenKey

def keyMade : Token.Moment where
  token := sampleToken
  sensor := ⟨.confirmed, .confirmed⟩
  around := .ofTape (bytesOfNat 32 1)
  before := .ofCounter 0
  call := .register keyRequest (.ok (sampleToken.registrationOf keyRequest KeyPair.base))
  after := keyedRing

def signatureMade : Token.Moment where
  token := sampleToken
  sensor := ⟨.confirmed, .confirmed⟩
  around := .ofTape []
  before := keyedRing
  call := .authenticate signatureRequest
    (.ok (sampleToken.authenticationOf signatureRequest sampleTokenKey .confirmed 1))
  after := { keyedRing with counter := 1 }

def signatureTaken : RelyingParty.Moment :=
  ⟨sampleStore, .acceptSignature firstResponse (.ok (sampleKey 1)), raisedStore⟩

def sampleHistory : List Moment :=
  [.token 0 keyMade, .token 0 signatureMade, .party signatureTaken]

theorem ends_keyMade : keyMade.Ends (sampleToken.register keyRequest)
    (.ok (sampleToken.registrationOf keyRequest KeyPair.base)) :=
  Token.run_register_of_present (by decide) Tape.drawKeyPair_base

theorem key?_keyedRing : keyedRing.key? signatureRequest.keyHandle = some sampleTokenKey := by
  have hsame : signatureRequest.keyHandle =
      (sampleToken.registrationOf keyRequest KeyPair.base).keyHandle := rfl
  rw [hsame, keyedRing, KeyRing.key?_addKey, if_pos rfl]

theorem ends_signatureMade : signatureMade.Ends (sampleToken.authenticate signatureRequest)
    (.ok (sampleToken.authenticationOf signatureRequest sampleTokenKey .confirmed 1)) :=
  Token.run_authenticate_of_present key?_keyedRing rfl (by decide) rfl (by decide)

theorem run_sample : ∃ last,
    Run (Step sampleParty) ⟨sampleStore, fun _ => .ofCounter 0⟩ sampleHistory last := by
  have hring : signatureMade.before =
      Function.update (fun _ => KeyRing.ofCounter 0) 0 keyMade.after 0 := by
    rw [Function.update_self]
    rfl
  exact ⟨_, .step (.token rfl rfl ends_keyMade) <| .step (.token rfl hring ends_signatureMade) <|
    .step (.party (.call _ RelyingParty.leads_firstResponse)) (.done _)⟩

theorem verifies_signatureTaken {publicKey : PublicKey} {message : Bytes}
    (hverifies : Verifies sampleParty signatureTaken publicKey message) :
    publicKey = KeyPair.base.publicKey ∧ message = Raw.authenticationSignedBytes
      (Suite.standard.digestText "https://a.b") .confirmed 1
      (Suite.standard.digest firstResponse.clientData) := by
  obtain ⟨response, result, session, key, authentication, data, hevent, hwaiting, hkey, _, _,
    hsigned, rfl⟩ := hverifies
  cases hevent
  have hsession : signatureTaken.before.waiting? .authentication firstResponse.sessionId =
      some sampleSession := by
    decide +kernel
  rw [hsession] at hwaiting
  cases hwaiting
  have hpublicKey : KeyPair.base.publicKey.bytes = key.publicKey := Option.some.inj hkey
  have hread := hsigned.keyRead
  rw [← hpublicKey, PublicKey.decode?_bytes] at hread
  have hdecoded : (Raw.AuthenticationResponse.decode firstResponse.signatureData).toOption.map
      (fun given => (given.presence, given.counter)) = some (.confirmed, 1) := by
    decide +kernel
  rw [hsigned.decoded] at hdecoded
  obtain ⟨hpresence, hcounter⟩ := Prod.mk.inj (Option.some.inj hdecoded)
  refine ⟨(Option.some.inj hread).symm, ?_⟩
  rw [RelyingParty.signedBytes, hpresence, hcounter]
  rfl

theorem unforgeable_sample : Unforgeable sampleParty sampleHistory := by
  intro earlier moment later hsplit publicKey message hmade hverifies
  rcases earlier with _ | ⟨head, _ | ⟨next, _ | ⟨third, rest⟩⟩⟩
  · cases hsplit
  · cases hsplit
  · cases hsplit
    obtain ⟨rfl, rfl⟩ := verifies_signatureTaken hverifies
    exact ⟨0, signatureMade, KeyPair.base, by simp,
      .authentication ⟨rfl, ends_signatureMade⟩ key?_keyedRing, rfl⟩
  · cases rest <;> cases hsplit

theorem signature_origin_for_first_response :
    ∃ ring signer request answer key,
      .token ring signer ∈ [Moment.token 0 keyMade, .token 0 signatureMade] ∧
        ∃ session authentication,
          SignedFor sampleParty session firstResponse authentication KeyPair.base.publicKey signer
            request answer key := by
  obtain ⟨last, hrun⟩ := run_sample
  have hsplit : sampleHistory =
      [.token 0 keyMade, .token 0 signatureMade] ++ .party signatureTaken :: [] := rfl
  have hmade : Made sampleHistory KeyPair.base.publicKey :=
    ⟨0, keyMade, keyRequest, _, List.mem_cons_self, ⟨rfl, ends_keyMade⟩, rfl⟩
  obtain ⟨session, _, authentication, _, _, _, ring, signer, request, answer, key, hmem, hfor⟩ :=
    signature_origin hrun unforgeable_sample hsplit rfl hmade rfl
  exact ⟨ring, signer, request, answer, key, hmem, session, authentication, hfor⟩

end SecondFactor.Scene
