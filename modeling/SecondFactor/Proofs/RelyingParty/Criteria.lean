import SecondFactor.Proofs.RelyingParty.KeyLog
import SecondFactor.Proofs.RelyingParty.Serial
import SecondFactor.Proofs.Signature

/-!
What a response has to say for a party to take it, byte for byte, and what that leaves. A party that
computes with the standard suite takes a signature just where all of `SignatureMeets` holds,
`acceptSignature_settles`, and a registration where all of `RegistrationMeets` does,
`acceptRegistration_settles`. Either way the session is used up, and no other changes.
-/

namespace SecondFactor

/-- The first record of a key is raised where its counter is smaller, and nothing else changes. -/
theorem AccountStore.raiseFirst_of_find? {publicKey : Bytes} {counter : UInt32}
    {keys : List Web.Enrolment} {key : Web.Enrolment}
    (hfind : keys.find? (fun other => other.publicKey = publicKey) = some key)
    (hcounter : key.counter < counter) :
    raiseFirst publicKey counter keys =
      .ok ({ key with counter }, RelyingParty.setFirst publicKey counter keys) := by
  obtain ⟨hkey, earlier, later, rfl, hearlier⟩ := List.find?_eq_some_iff_append.1 hfind
  have hraise : raiseFirst publicKey counter (earlier ++ key :: later) =
      .ok ({ key with counter }, earlier ++ { key with counter } :: later) :=
    raiseFirst_of_first (by simpa using hearlier) (of_decide_eq_true hkey) hcounter
  rw [hraise, RelyingParty.setFirst_of_raiseFirst hraise]

namespace RelyingParty

open Hash.Sha256 (digest)

def standardParty (origins : List String) (trusted : TrustAnchors) (policy : TrustPolicy) :
    RelyingParty :=
  ⟨.standard, origins, trusted, policy⟩

/-! What a response to a session comes to. -/

/-- A response used up the session under an id. It was taken just where it has some record and some
keys to give; then that record is the result, and the account is left with those keys. Nothing else
changes. -/
structure Settles (store : AccountStore) (account id : String)
    (Takes : Web.Enrolment → List Web.Enrolment → Prop) (result : Except Failure Web.Enrolment)
    (after : AccountStore) : Prop where
  sessions : ∀ other, after.session? other = if other = id then none else store.session? other
  taken_iff : (∃ record, result = .ok record) ↔ ∃ record keys, Takes record keys
  taken : ∀ record, result = .ok record → Takes record (after.keys account)
  others : ∀ other, other ≠ account → after.keys other = store.keys other
  refused : ∀ failure, result = .error failure → after.keys account = store.keys account

section

variable {store : AccountStore} {account id : String}
  {Takes : Web.Enrolment → List Web.Enrolment → Prop}

theorem Settles.of_takes {record : Web.Enrolment} {keys : List Web.Enrolment}
    (htakes : Takes record keys) :
    Settles store account id Takes (.ok record)
      ((store.closeSession id).setKeys account keys) where
  sessions := store.session?_closeSession id
  taken_iff := ⟨fun _ => ⟨record, keys, htakes⟩, fun _ => ⟨record, rfl⟩⟩
  taken := by
    intro given hgiven
    cases hgiven
    rw [AccountStore.keys_setKeys, if_pos rfl]
    exact htakes
  others := by
    intro other hother
    rw [AccountStore.keys_setKeys, if_neg hother, AccountStore.keys_closeSession]
  refused := by
    intro failure hfailure
    cases hfailure

theorem Settles.of_not_takes {failure : Failure}
    (hnone : ∀ record keys, ¬ Takes record keys) :
    Settles store account id Takes (.error failure) (store.closeSession id) where
  sessions := store.session?_closeSession id
  taken_iff := by simp [hnone]
  taken := by
    intro record hrecord
    cases hrecord
  others := fun _ _ => rfl
  refused := fun _ _ => rfl

end

/-! What both responses have to say. -/

/-- Client data of a kind gives the challenge of a session in web safe base64, and a page at one of
the origins. -/
def AnswersFrom (origins : List String) (clientData : Bytes) (kind : Web.ClientDataKind)
    (session : Web.Session) : Prop :=
  ∃ data origin, Web.ClientData.parse clientData = .ok data ∧ data.kind = kind ∧
    Base64.decode? .websafe data.challenge = some session.challenge ∧
    originOf? data.origin = some origin ∧ origin ∈ origins

variable {origins : List String} {trusted : TrustAnchors} {policy : TrustPolicy}
variable {session : Web.Session}

theorem decodedChallenge_eq_ok_iff {data : Web.ClientData} {challenge : Bytes} :
    data.decodedChallenge = .ok challenge ↔
      Base64.decode? .websafe data.challenge = some challenge := by
  unfold Web.ClientData.decodedChallenge
  cases Base64.decode? .websafe data.challenge <;> simp

theorem answersFrom_iff {clientData : Bytes} {kind : Web.ClientDataKind} :
    AnswersFrom origins clientData kind session ↔
      ∃ data, Web.ClientData.parse clientData = .ok data ∧
        (standardParty origins trusted policy).Answers data kind session := by
  constructor
  · rintro ⟨data, origin, hparsed, hkind, hchallenge, horigin, hallowed⟩
    exact ⟨data, hparsed, hkind, decodedChallenge_eq_ok_iff.2 hchallenge,
      allows_eq_true_iff.2 ⟨origin, hallowed, horigin⟩⟩
  · rintro ⟨data, hparsed, hanswers⟩
    obtain ⟨origin, hallowed, horigin⟩ := allows_eq_true_iff.1 hanswers.origin
    exact ⟨data, origin, hparsed, hanswers.kind, decodedChallenge_eq_ok_iff.1 hanswers.challenge,
      horigin, hallowed⟩

/-! Signatures. -/

/-- Signature data are flags that report a user, a counter, and a signature that the encoded key
verifies over the digests of the application id and of the client data, with both between them. -/
def SignedWith (publicKey : Bytes) (appId : String) (response : Web.SignResponse)
    (counter : UInt32) : Prop :=
  ∃ flags signature point,
    response.signatureData = flags :: (bytesOfNat 4 counter.toNat ++ signature) ∧
    flags &&& 1 = 1 ∧ PublicKey.decode? publicKey = some point ∧
    point.verify ((digest (Utf8.bytes appId)).val ++
      flags :: (bytesOfNat 4 counter.toNat ++ (digest response.clientData).val)) signature = true

/-- All that a signature with a counter has to meet for a session that waits for one by the public
key. -/
structure SignatureMeets (origins : List String) (store : AccountStore)
    (response : Web.SignResponse) (session : Web.Session) (publicKey : Bytes)
    (key : Web.Enrolment) (counter : UInt32) : Prop where
  first : store.firstKey? session.account publicKey = some key
  keyHandle : key.keyHandle = response.keyHandle
  answers : AnswersFrom origins response.clientData .authentication session
  signed : SignedWith key.publicKey session.appId response counter
  risen : key.counter < counter

/-- A signature gives the first record of its key with the counter that was signed, and leaves the
others as they are. -/
def TakesSignature (origins : List String) (store : AccountStore) (response : Web.SignResponse)
    (session : Web.Session) (publicKey : Bytes) (record : Web.Enrolment)
    (keys : List Web.Enrolment) : Prop :=
  ∃ key counter, SignatureMeets origins store response session publicKey key counter ∧
    record = { key with counter } ∧ keys = setFirst publicKey counter (store.keys session.account)

theorem exists_readAuthentication_iff {key : Web.Enrolment} {response : Web.SignResponse}
    {counter : UInt32} :
    (∃ authentication, (standardParty origins trusted policy).readAuthentication session key
        response = .ok authentication ∧ authentication.counter = counter) ↔
      AnswersFrom origins response.clientData .authentication session ∧
        SignedWith key.publicKey session.appId response counter := by
  constructor
  · rintro ⟨authentication, hread, rfl⟩
    obtain ⟨data, point, hsigned⟩ := readAuthentication_eq_ok_iff.1 hread
    obtain ⟨_, hbytes⟩ := Raw.AuthenticationResponse.decode_eq_ok_iff.1 hsigned.decoded
    refine ⟨answersFrom_iff.2 ⟨data, hsigned.parsed, hsigned.answers⟩, ?_⟩
    exact ⟨authentication.presence.flags, authentication.signature, point, hbytes,
      by simpa [Raw.Presence.userPresent] using hsigned.present, hsigned.keyRead,
      hsigned.verified⟩
  · rintro ⟨hanswers, flags, signature, point, hbytes, hpresent, hkey, hverified⟩
    obtain ⟨data, hparsed, hanswers⟩ := answersFrom_iff.1 hanswers
    -- What verifies is a sequence, so nothing is refused for its framing.
    have hsequence := PublicKey.isSequence_of_verify hverified
    refine ⟨⟨⟨flags⟩, counter, signature⟩, readAuthentication_eq_ok_iff.2 ⟨data, point, ?_⟩, rfl⟩
    exact {
      parsed := hparsed
      answers := hanswers
      decoded := Raw.AuthenticationResponse.decode_eq_ok_iff.2 ⟨hsequence, hbytes⟩
      present := by simpa [Raw.Presence.userPresent] using hpresent
      keyRead := hkey
      verified := hverified }

theorem takesSignature_iff {store : AccountStore} {response : Web.SignResponse}
    {publicKey : Bytes} (hkey : session.publicKey? = some publicKey) {record : Web.Enrolment}
    {keys : List Web.Enrolment} :
    TakesSignature origins store response session publicKey record keys ↔
      (standardParty origins trusted policy).signatureVerdict session response
        (store.keys session.account) = .ok (record, keys) := by
  constructor
  · rintro ⟨key, counter, hmeets, rfl, rfl⟩
    have hfirst := hmeets.first
    obtain rfl : key.publicKey = publicKey := by simpa using List.find?_some hfirst
    obtain ⟨authentication, hread, rfl⟩ :=
      exists_readAuthentication_iff.2 ⟨hmeets.answers, hmeets.signed⟩
    rw [signatureVerdict_of_read hkey hread, AccountStore.raiseFirst_of_find? hfirst hmeets.risen]
    intro other hother
    rw [AccountStore.firstKey?, hother] at hfirst
    cases hfirst
    exact hmeets.keyHandle
  · intro hverdict
    obtain ⟨found, key, authentication, hfound, hfirst, _, hhandle, hread, hraise⟩ :=
      signatureVerdict_eq_ok hverdict
    rw [hkey] at hfound
    cases hfound
    obtain ⟨⟨old, hold, _, hrisen, hrecord, _⟩, _⟩ := AccountStore.find?_of_raiseFirst hraise
    rw [hfirst] at hold
    cases hold
    obtain ⟨hanswers, hsigned⟩ := exists_readAuthentication_iff.1 ⟨authentication, hread, rfl⟩
    exact ⟨key, authentication.counter, ⟨hfirst, hhandle, hanswers, hsigned, hrisen⟩, hrecord,
      (setFirst_of_raiseFirst hraise).symm⟩

theorem publicKey?_eq_some_iff {publicKey : Bytes} :
    session.publicKey? = some publicKey ↔ session.purpose = .sign publicKey := by
  cases hpurpose : session.purpose <;> simp [Web.Session.publicKey?, hpurpose]

theorem waiting?_of_sign {store : AccountStore} {id : String} {publicKey : Bytes}
    (hsession : store.session? id = some session) (hpurpose : session.purpose = .sign publicKey) :
    store.waiting? .authentication id = some session :=
  AccountStore.waiting?_eq_some_iff.2 ⟨hsession,
    Web.Session.awaits_authentication_iff.2 ⟨publicKey, publicKey?_eq_some_iff.2 hpurpose⟩⟩

theorem settles_signatureOutcome {store : AccountStore} {response : Web.SignResponse}
    {publicKey : Bytes} (hsession : store.session? response.sessionId = some session)
    (hkey : session.publicKey? = some publicKey) :
    Settles store session.account response.sessionId
      (TakesSignature origins store response session publicKey)
      ((standardParty origins trusted policy).signatureOutcome store response).1
      ((standardParty origins trusted policy).signatureOutcome store response).2 := by
  have hwaiting := waiting?_of_sign hsession (publicKey?_eq_some_iff.1 hkey)
  cases hverdict : (standardParty origins trusted policy).signatureVerdict session response
      (store.keys session.account) with
  | error failure =>
      rw [signatureOutcome_of_error hwaiting hverdict]
      refine .of_not_takes fun record keys htakes => ?_
      rw [(takesSignature_iff hkey).1 htakes] at hverdict
      cases hverdict
  | ok taken =>
      rw [signatureOutcome_of_ok hwaiting hverdict]
      exact .of_takes ((takesSignature_iff hkey).2 hverdict)

/-- A response to a session that does not wait for a signature is refused, and changes nothing.
Any other uses up its session, and is taken just where it meets all that it has to. -/
theorem acceptSignature_settles (origins : List String) (trusted : TrustAnchors)
    (policy : TrustPolicy) (store : AccountStore) (response : Web.SignResponse)
    (source : ChallengeSource) (around : Surroundings) :
    ∃ result after, ((standardParty origins trusted policy).acceptSignature response).outcome
        source around store = some (result, after) ∧
      ((∀ session publicKey, store.session? response.sessionId = some session →
          session.purpose ≠ .sign publicKey) → result = .error .unknownSession ∧ after = store) ∧
      ∀ session publicKey, store.session? response.sessionId = some session →
        session.purpose = .sign publicKey →
          Settles store session.account response.sessionId
            (TakesSignature origins store response session publicKey) result after := by
  let outcome := (standardParty origins trusted policy).signatureOutcome store response
  refine ⟨outcome.1, outcome.2, outcome_acceptSignature _ response source around store,
    fun hnone => ?_, fun session publicKey hsession hpurpose =>
      settles_signatureOutcome hsession (publicKey?_eq_some_iff.2 hpurpose)⟩
  have hwaiting : store.waiting? .authentication response.sessionId = none := by
    refine AccountStore.waiting?_eq_none_iff.2 fun session hsession hawaits => ?_
    obtain ⟨publicKey, hkey⟩ := Web.Session.awaits_authentication_iff.1 hawaits
    exact hnone session publicKey hsession (publicKey?_eq_some_iff.1 hkey)
  have houtcome : outcome = (.error .unknownSession, store) := signatureOutcome_of_none hwaiting
  exact ⟨congrArg Prod.fst houtcome, congrArg Prod.snd houtcome⟩

/-! Registrations. -/

/-- All that a registration has to meet for a session that waits for one. Its data are
`05 | 04 | x | y | length | key handle | certificate | signature`. -/
structure RegistrationMeets (origins : List String) (trusted : TrustAnchors)
    (policy : TrustPolicy) (response : Web.RegisterResponse) (session : Web.Session)
    (x y : Digest) (keyHandle certificate signature : Bytes) : Prop where
  laidOut : ∃ length : UInt8, length.toNat = keyHandle.length ∧ response.registrationData =
    0x05 :: 0x04 :: (x.val ++ y.val ++ length :: (keyHandle ++ certificate ++ signature))
  whole : Certificate.lengthAt? (certificate ++ signature) = some certificate.length
  sequence : Raw.IsSequence signature
  onCurve : Curve.p256.Contains (natOfBytes x.val) (natOfBytes y.val)
  answers : AnswersFrom origins response.clientData .registration session
  trusted : trusted.trusts .standard certificate ∨ policy = .warn
  attested : ∃ certified, Certificate.publicKey? certificate = some certified ∧
    certified.verify (0x00 :: ((digest (Utf8.bytes session.appId)).val
      ++ (digest response.clientData).val ++ keyHandle ++ 0x04 :: (x.val ++ y.val))) signature = true

/-- A registration gives the record of its key, and adds it behind those of the account. -/
def TakesRegistration (origins : List String) (trusted : TrustAnchors) (policy : TrustPolicy)
    (store : AccountStore) (response : Web.RegisterResponse) (now : UInt64)
    (session : Web.Session) (record : Web.Enrolment) (keys : List Web.Enrolment) : Prop :=
  ∃ x y keyHandle certificate signature,
    RegistrationMeets origins trusted policy response session x y keyHandle certificate signature ∧
    record = ⟨keyHandle, 0x04 :: (x.val ++ y.val), certificate, 0, now⟩ ∧
    keys = store.keys session.account ++ [record]

theorem decode_eq_ok_iff_laidOut {bytes : Bytes} {x y : Digest}
    {keyHandle certificate signature : Bytes} :
    Raw.RegistrationResponse.decode bytes = .ok ⟨⟨x, y⟩, keyHandle, certificate, signature⟩ ↔
      (∃ length : UInt8, length.toNat = keyHandle.length ∧ bytes =
        0x05 :: 0x04 :: (x.val ++ y.val ++ length :: (keyHandle ++ certificate ++ signature))) ∧
      Certificate.lengthAt? (certificate ++ signature) = some certificate.length ∧
      Raw.IsSequence signature := by
  rw [Raw.RegistrationResponse.decode_eq_ok_iff, Raw.RegistrationResponse.encode_eq_ok_iff,
    Certificate.lengthAt?_append_iff]
  constructor
  · rintro ⟨hformed, counted, hcounted, rfl⟩
    obtain ⟨_, rfl⟩ := Raw.countedBytes_eq_ok_iff.1 hcounted
    have hfits : keyHandle.length ≤ 255 := hformed.keyHandle
    refine ⟨⟨UInt8.ofNat keyHandle.length, ?_, ?_⟩, hformed.certificate, hformed.signature⟩
    · rw [UInt8.toNat_ofNat']
      omega
    · simp [Raw.PublicKey.bytes]
  · rintro ⟨⟨length, hlength, rfl⟩, hcertificate, hsignature⟩
    have hfits : keyHandle.length ≤ 255 := by
      have := length.toNat_lt
      omega
    have hcounted : Raw.countedBytes keyHandle = .ok (length :: keyHandle) :=
      Raw.countedBytes_eq_ok_iff.2 ⟨hfits, by rw [← hlength, UInt8.ofNat_toNat]⟩
    exact ⟨⟨hfits, hcertificate, hsignature⟩, _, hcounted, by simp [Raw.PublicKey.bytes]⟩

theorem ofRaw?_ne_none_iff {x y : Digest} :
    PublicKey.ofRaw? ⟨x, y⟩ ≠ none ↔ Curve.p256.Contains (natOfBytes x.val) (natOfBytes y.val) := by
  simp [PublicKey.ofRaw?, PublicKey.ofCoordinates?]

theorem takesRegistration_iff {store : AccountStore} {response : Web.RegisterResponse}
    {now : UInt64} {record : Web.Enrolment} {keys : List Web.Enrolment} :
    TakesRegistration origins trusted policy store response now session record keys ↔
      (standardParty origins trusted policy).registrationVerdict session response now =
          .ok record ∧ keys = store.keys session.account ++ [record] := by
  rw [registrationVerdict_eq_ok_iff]
  constructor
  · rintro ⟨x, y, keyHandle, certificate, signature, hmeets, rfl, rfl⟩
    obtain ⟨data, hparsed, hanswers⟩ := answersFrom_iff.1 hmeets.answers
    obtain ⟨certified, hkeyRead, hverified⟩ := hmeets.attested
    refine ⟨⟨⟨⟨x, y⟩, keyHandle, certificate, signature⟩, data, certified, ?_,
      ofRaw?_ne_none_iff.2 hmeets.onCurve, rfl⟩, rfl⟩
    exact {
      parsed := hparsed
      answers := hanswers
      decoded := decode_eq_ok_iff_laidOut.2 ⟨hmeets.laidOut, hmeets.whole, hmeets.sequence⟩
      trusted := hmeets.trusted
      keyRead := hkeyRead
      verified := hverified }
  · rintro ⟨⟨registration, data, certified, hattested, hkey, rfl⟩, rfl⟩
    obtain ⟨⟨x, y⟩, keyHandle, certificate, signature⟩ := registration
    obtain ⟨hlaidOut, hwhole, hsequence⟩ := decode_eq_ok_iff_laidOut.1 hattested.decoded
    refine ⟨x, y, keyHandle, certificate, signature, ?_, rfl, rfl⟩
    exact {
      laidOut := hlaidOut
      whole := hwhole
      sequence := hsequence
      onCurve := ofRaw?_ne_none_iff.1 hkey
      answers := answersFrom_iff.2 ⟨data, hattested.parsed, hattested.answers⟩
      trusted := hattested.trusted
      attested := ⟨certified, hattested.keyRead, hattested.verified⟩ }

theorem awaits_registration_iff : session.awaits = .registration ↔ session.purpose = .enrol := by
  cases hpurpose : session.purpose <;> simp [Web.Session.awaits, hpurpose]

theorem settles_registrationOutcome {store : AccountStore} {response : Web.RegisterResponse}
    {now : UInt64} (hsession : store.session? response.sessionId = some session)
    (hpurpose : session.purpose = .enrol) :
    Settles store session.account response.sessionId
      (TakesRegistration origins trusted policy store response now session)
      ((standardParty origins trusted policy).registrationOutcome store response now).1
      ((standardParty origins trusted policy).registrationOutcome store response now).2 := by
  have hwaiting : store.waiting? .registration response.sessionId = some session :=
    AccountStore.waiting?_eq_some_iff.2 ⟨hsession, awaits_registration_iff.2 hpurpose⟩
  cases hverdict : (standardParty origins trusted policy).registrationVerdict session response
      now with
  | error failure =>
      rw [registrationOutcome_of_error hwaiting hverdict]
      refine .of_not_takes fun record keys htakes => ?_
      rw [(takesRegistration_iff.1 htakes).1] at hverdict
      cases hverdict
  | ok record =>
      rw [registrationOutcome_of_ok hwaiting hverdict]
      exact .of_takes (takesRegistration_iff.2 ⟨hverdict, rfl⟩)

/-- A response to a session that does not wait for a registration is refused, and changes nothing.
Any other uses up its session, and is taken just where it meets all that it has to. -/
theorem acceptRegistration_settles (origins : List String) (trusted : TrustAnchors)
    (policy : TrustPolicy) (store : AccountStore) (response : Web.RegisterResponse)
    (now : UInt64) (source : ChallengeSource) (around : Surroundings) :
    ∃ result after, ((standardParty origins trusted policy).acceptRegistration response now).outcome
        source around store = some (result, after) ∧
      ((∀ session, store.session? response.sessionId = some session → session.purpose ≠ .enrol) →
        result = .error .unknownSession ∧ after = store) ∧
      ∀ session, store.session? response.sessionId = some session → session.purpose = .enrol →
        Settles store session.account response.sessionId
          (TakesRegistration origins trusted policy store response now session) result after := by
  let outcome := (standardParty origins trusted policy).registrationOutcome store response now
  refine ⟨outcome.1, outcome.2, outcome_acceptRegistration _ response now source around store,
    fun hnone => ?_, fun session hsession hpurpose =>
      settles_registrationOutcome hsession hpurpose⟩
  have hwaiting : store.waiting? .registration response.sessionId = none :=
    AccountStore.waiting?_eq_none_iff.2 fun session hsession hawaits =>
      hnone session hsession (awaits_registration_iff.1 hawaits)
  have houtcome : outcome = (.error .unknownSession, store) := registrationOutcome_of_none hwaiting
  exact ⟨congrArg Prod.fst houtcome, congrArg Prod.snd houtcome⟩

end RelyingParty

end SecondFactor
