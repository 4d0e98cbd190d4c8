import SecondFactor.Proofs.RelyingParty.Counters
import SecondFactor.Proofs.RelyingParty.Criteria
import SecondFactor.Proofs.RelyingParty.Traffic

/-!
What becomes of signature data, whatever bytes they are, once the rest of a response is in order:
the flags, the counter and the signature are looked at one after the other, and past the header no
bytes are malformed, `acceptSignature_graded`.
-/

namespace SecondFactor

namespace Raw.AuthenticationResponse

theorem exists_header {data : Bytes} (hlength : headerLength ≤ data.length) :
    ∃ flags counter signature, data = flags :: (counterBytes counter ++ signature) ∧
      data.length = headerLength + signature.length := by
  cases data with
  | nil => cases hlength
  | cons flags rest =>
      have hrest : 4 ≤ rest.length := Nat.le_of_succ_le_succ hlength
      let block : Block 4 := ⟨rest.take 4, by simp [hrest]⟩
      have hcounter : block.val = counterBytes (counterOfBlock block) :=
        counterOfBlock_eq_iff.1 rfl
      refine ⟨flags, counterOfBlock block, rest.drop 4, ?_, ?_⟩
      · rw [← hcounter, List.take_append_drop]
      · rw [List.length_cons, List.length_drop, headerLength]
        omega

theorem decode_header (flags : UInt8) (counter : UInt32) (signature : Bytes) :
    decode (flags :: (counterBytes counter ++ signature)) =
      (restAsSignature signature).map fun signature => ⟨⟨flags⟩, counter, signature⟩ := by
  let block : Block 4 := ⟨counterBytes counter, length_counterBytes counter⟩
  have hcounter : counterOfBlock block = counter := counterOfBlock_eq_iff.2 rfl
  have hfixed : Scan.fixed 4 (counterBytes counter ++ signature) = .ok (block, signature) :=
    Scan.fixed_append block signature
  simp only [decode, Scan.byte, bind, Except.bind, hfixed, hcounter]
  cases restAsSignature signature <;> rfl

/-- Data that end with the header, or before, are cut off. -/
theorem decode_of_short {data : Bytes} (hlength : data.length ≤ headerLength) :
    decode data = .error .truncated := by
  rcases Nat.lt_or_eq_of_le hlength with hshort | hheader
  · cases data with
    | nil => rfl
    | cons flags rest =>
        have hrest : ¬ 4 ≤ rest.length := Nat.not_le_of_lt (Nat.lt_of_succ_lt_succ hshort)
        have hfixed : Scan.fixed 4 rest = .error .truncated := by
          simp [Scan.fixed, splitBlock?, hrest]
        simp only [decode, Scan.byte, bind, Except.bind, hfixed]
  · obtain ⟨flags, counter, signature, rfl, hsignature⟩ := exists_header hheader.ge
    obtain rfl : signature = [] := List.eq_nil_of_length_eq_zero (by omega)
    rw [decode_header]
    rfl

theorem decode_of_unframed (flags : UInt8) (counter : UInt32) {signature : Bytes}
    (hunframed : ¬ IsSequence signature) :
    ∃ fault, decode (flags :: (counterBytes counter ++ signature)) = .error fault := by
  rw [decode_header]
  cases hread : restAsSignature signature with
  | error fault => exact ⟨fault, rfl⟩
  | ok whole =>
      obtain ⟨hsequence, rfl⟩ := restAsSignature_eq_ok_iff.1 hread
      exact absurd hsequence hunframed

end Raw.AuthenticationResponse

/-- The lowest bit of flags is clear or set. -/
theorem Raw.Presence.low_bit (flags : UInt8) : flags &&& 1 = 0 ∨ flags &&& 1 = 1 := by
  rw [← UInt8.toNat_inj, ← UInt8.toNat_inj, UInt8.toNat_and]
  change flags.toNat &&& 1 = 0 ∨ flags.toNat &&& 1 = 1
  rw [Nat.and_one_is_mod]
  omega

/-- A counter that is not smaller than the one to come is not raised. -/
theorem AccountStore.raiseFirst_of_not_risen {publicKey : Bytes} {counter : UInt32}
    {keys : List Web.Enrolment} {key : Web.Enrolment}
    (hfind : keys.find? (fun other => other.publicKey = publicKey) = some key)
    (hcounter : counter ≤ key.counter) :
    raiseFirst publicKey counter keys = .error (.counterRegression key.counter counter) := by
  induction keys with
  | nil => cases hfind
  | cons first rest ih =>
      rw [raiseFirst]
      by_cases hfirst : first.publicKey = publicKey
      · rw [List.find?_cons_of_pos (by simpa using hfirst)] at hfind
        cases hfind
        rw [if_pos hfirst, if_neg (UInt32.not_lt.2 hcounter)]
      · rw [List.find?_cons_of_neg (by simpa using hfirst)] at hfind
        rw [if_neg hfirst, ih hfind]

namespace RelyingParty

/-- A response is in order but for its signature data: it is to a session that waits for a key of
the account, names the handle of that key, and its client data answer the session. The key is a
point of the curve. -/
structure Addressed (party : RelyingParty) (store : AccountStore) (response : Web.SignResponse)
    (session : Web.Session) (key : Web.Enrolment) (point : PublicKey) : Prop where
  pending : store.session? response.sessionId = some session
  purpose : session.purpose = .sign key.publicKey
  first : store.firstKey? session.account key.publicKey = some key
  keyHandle : key.keyHandle = response.keyHandle
  answers : ∃ data, Web.ClientData.parse response.clientData = .ok data ∧
    party.Answers data .authentication session
  keyRead : PublicKey.decode? key.publicKey = some point

/-- Whether a key verifies a signature over the application id of a session and the client data
of a response, with flags and a counter between them. -/
def verifies (party : RelyingParty) (session : Web.Session) (response : Web.SignResponse)
    (point : PublicKey) (flags : UInt8) (counter : UInt32) (signature : Bytes) : Bool :=
  party.suite.verify point
    (Raw.authenticationSignedBytes (party.suite.digestText session.appId) ⟨flags⟩ counter
      (party.suite.digest response.clientData)) signature

/-- What signature data come to, with a case for each thing that may be wrong with them. A case
says of everything before it that it is in order. -/
inductive Graded (party : RelyingParty) (session : Web.Session) (response : Web.SignResponse)
    (key : Web.Enrolment) (point : PublicKey) : Bytes → Except Failure Web.Enrolment → Prop
  | short {data : Bytes} :
      data.length ≤ 5 → Graded party session response key point data (.error (.format .truncated))
  | unframed {flags : UInt8} {counter : UInt32} {signature : Bytes} :
      signature ≠ [] → ¬ Raw.IsSequence signature →
        Graded party session response key point
          (flags :: (Raw.counterBytes counter ++ signature)) (.error .invalidSignature)
  | absent {flags : UInt8} {counter : UInt32} {signature : Bytes} :
      Raw.IsSequence signature → flags &&& 1 = 0 →
        Graded party session response key point
          (flags :: (Raw.counterBytes counter ++ signature)) (.error .presenceDenied)
  | unverified {flags : UInt8} {counter : UInt32} {signature : Bytes} :
      Raw.IsSequence signature → flags &&& 1 = 1 →
        party.verifies session response point flags counter signature = false →
          Graded party session response key point
            (flags :: (Raw.counterBytes counter ++ signature)) (.error .invalidSignature)
  | stale {flags : UInt8} {counter : UInt32} {signature : Bytes} :
      Raw.IsSequence signature → flags &&& 1 = 1 →
        party.verifies session response point flags counter signature = true →
          counter ≤ key.counter →
          Graded party session response key point
            (flags :: (Raw.counterBytes counter ++ signature))
            (.error (.counterRegression key.counter counter))
  | taken {flags : UInt8} {counter : UInt32} {signature : Bytes} :
      Raw.IsSequence signature → flags &&& 1 = 1 →
        party.verifies session response point flags counter signature = true →
          key.counter < counter →
          Graded party session response key point
            (flags :: (Raw.counterBytes counter ++ signature)) (.ok { key with counter })

section

variable {party : RelyingParty} {store : AccountStore} {response : Web.SignResponse}
  {session : Web.Session} {key : Web.Enrolment} {point : PublicKey}

/-- No bytes are without a grade. -/
theorem exists_graded (party : RelyingParty) (session : Web.Session) (response : Web.SignResponse)
    (key : Web.Enrolment) (point : PublicKey) (data : Bytes) :
    ∃ grade, party.Graded session response key point data grade := by
  by_cases hshort : data.length ≤ 5
  · exact ⟨_, .short hshort⟩
  obtain ⟨flags, counter, signature, rfl, hlength⟩ :=
    Raw.AuthenticationResponse.exists_header (Nat.le_of_not_le hshort)
  by_cases hsequence : Raw.IsSequence signature
  · rcases Raw.Presence.low_bit flags with habsent | hpresent
    · exact ⟨_, .absent hsequence habsent⟩
    · by_cases hverified :
          party.verifies session response point flags counter signature = true
      · by_cases hrisen : key.counter < counter
        · exact ⟨_, .taken hsequence hpresent hverified hrisen⟩
        · exact ⟨_, .stale hsequence hpresent hverified (UInt32.not_lt.1 hrisen)⟩
      · exact ⟨_, .unverified hsequence hpresent (Bool.eq_false_of_not_eq_true hverified)⟩
  · refine ⟨_, .unframed ?_ hsequence⟩
    rintro rfl
    exact hshort hlength.le

/-- Data are malformed only if they end with the header, or before. -/
theorem Graded.format_iff {data : Bytes} {fault : FormatFault} :
    party.Graded session response key point data (.error (.format fault)) ↔
      data.length ≤ 5 ∧ fault = .truncated := by
  constructor
  · intro hgraded
    cases hgraded with
    | short hshort => exact ⟨hshort, rfl⟩
  · rintro ⟨hshort, rfl⟩
    exact .short hshort

/-! The checks of a response, once it is in order up to its signature data. -/

namespace Addressed

theorem readAuthentication_of_unread
    (haddressed : party.Addressed store response session key point) {fault : FormatFault}
    (hunread : Raw.AuthenticationResponse.decode response.signatureData = .error fault) :
    party.readAuthentication session key response =
      .error (signatureFailure response.signatureData fault) := by
  obtain ⟨data, hparsed, hanswers⟩ := haddressed.answers
  unfold readAuthentication
  simp only [bind_eq_error_iff, mapError_eq_ok_iff, mapError_eq_error_iff]
  exact .inr ⟨data, hparsed, .inr ⟨(), checkClientData_eq_ok_iff.2 hanswers,
    .inl ⟨fault, hunread, rfl⟩⟩⟩

/-- What is left to check once the signature is one sequence: the user, and the signature. -/
theorem readAuthentication_of_header
    (haddressed : party.Addressed store response session key point) {flags : UInt8}
    {counter : UInt32} {signature : Bytes} (hsequence : Raw.IsSequence signature)
    (hdata : response.signatureData = flags :: (Raw.counterBytes counter ++ signature)) :
    party.readAuthentication session key response =
      if flags &&& 1 == 1 then
        if party.verifies session response point flags counter signature then
          .ok ⟨⟨flags⟩, counter, signature⟩
        else .error .invalidSignature
      else .error .presenceDenied := by
  obtain ⟨data, hparsed, hanswers⟩ := haddressed.answers
  have hclient : (Web.ClientData.parse response.clientData).mapError Failure.format = .ok data :=
    mapError_eq_ok_iff.2 hparsed
  have hchecked := checkClientData_eq_ok_iff.2 hanswers
  have hread : (Raw.AuthenticationResponse.decode response.signatureData).mapError
      (signatureFailure response.signatureData) = .ok ⟨⟨flags⟩, counter, signature⟩ :=
    mapError_eq_ok_iff.2 (Raw.AuthenticationResponse.decode_eq_ok_iff.2 ⟨hsequence, hdata⟩)
  have hflags : Raw.Presence.userPresent ⟨flags⟩ = (flags &&& 1 == 1) := rfl
  have hsigned : party.suite.verify point
      (party.signedBytes session response ⟨⟨flags⟩, counter, signature⟩) signature =
        party.verifies session response point flags counter signature := rfl
  cases hpresent : flags &&& 1 == 1 <;>
    cases hverified : party.verifies session response point flags counter signature <;>
      simp only [readAuthentication, hclient, hread, bind, Except.bind, hchecked,
        haddressed.keyRead, hsigned, hflags, hpresent, hverified] <;> rfl

theorem signatureVerdict_eq (haddressed : party.Addressed store response session key point) :
    party.signatureVerdict session response (store.keys session.account) =
      party.readAuthentication session key response >>= fun authentication =>
        AccountStore.raiseFirst key.publicKey authentication.counter
          (store.keys session.account) := by
  have hkey : session.publicKey? = some key.publicKey :=
    publicKey?_eq_some_iff.2 haddressed.purpose
  have hfirst : (store.keys session.account).find? (fun other =>
      other.publicKey = key.publicKey) = some key := haddressed.first
  simp only [signatureVerdict, hkey, hfirst, Option.filter_some, haddressed.keyHandle,
    decide_true, if_true]

/-- The verdict on a response is the grade of its signature data. -/
theorem signatureVerdict_of_graded
    (haddressed : party.Addressed store response session key point) {data : Bytes}
    (hdata : response.signatureData = data) {grade : Except Failure Web.Enrolment}
    (hgraded : party.Graded session response key point data grade) :
    party.signatureVerdict session response (store.keys session.account) =
      grade.map fun record =>
        (record, setFirst key.publicKey record.counter (store.keys session.account)) := by
  rw [haddressed.signatureVerdict_eq]
  cases hgraded with
  | short hshort =>
      rw [← hdata] at hshort
      have hfailure : signatureFailure response.signatureData .truncated = .format .truncated :=
        if_neg (Nat.not_lt.2 hshort)
      rw [haddressed.readAuthentication_of_unread
        (Raw.AuthenticationResponse.decode_of_short hshort), hfailure]
      rfl
  | @unframed flags counter signature hsome hunframed =>
      obtain ⟨fault, hunread⟩ :=
        Raw.AuthenticationResponse.decode_of_unframed flags counter hunframed
      have hlong : Raw.AuthenticationResponse.headerLength < response.signatureData.length := by
        have hlength := List.length_pos_iff.2 hsome
        rw [hdata, List.length_cons, List.length_append, Raw.length_counterBytes,
          Raw.AuthenticationResponse.headerLength]
        omega
      have hfailure : signatureFailure response.signatureData fault = .invalidSignature :=
        if_pos hlong
      rw [← hdata] at hunread
      rw [haddressed.readAuthentication_of_unread hunread, hfailure]
      rfl
  | absent hsequence habsent =>
      rw [haddressed.readAuthentication_of_header hsequence hdata, habsent]
      rfl
  | unverified hsequence hpresent hverified =>
      rw [haddressed.readAuthentication_of_header hsequence hdata, hpresent, hverified]
      rfl
  | stale hsequence hpresent hverified hstale =>
      rw [haddressed.readAuthentication_of_header hsequence hdata, hpresent, hverified]
      exact AccountStore.raiseFirst_of_not_risen haddressed.first hstale
  | taken hsequence hpresent hverified hrisen =>
      rw [haddressed.readAuthentication_of_header hsequence hdata, hpresent, hverified]
      exact AccountStore.raiseFirst_of_find? haddressed.first hrisen

end Addressed

theorem Graded.unique (haddressed : party.Addressed store response session key point)
    {grade other : Except Failure Web.Enrolment}
    (hgrade : party.Graded session response key point response.signatureData grade)
    (hother : party.Graded session response key point response.signatureData other) :
    grade = other := by
  have hsame := haddressed.signatureVerdict_of_graded rfl hgrade
  rw [haddressed.signatureVerdict_of_graded rfl hother] at hsame
  have hfirst := congrArg (Except.map Prod.fst) hsame
  cases grade <;> cases other <;> cases hfirst <;> rfl

/-- The grade of signature data is what the response comes to, and nothing else is. -/
theorem acceptSignature_graded
    (haddressed : party.Addressed store response session key point) (source : ChallengeSource)
    (around : Surroundings) :
    ∃ result after,
      (party.acceptSignature response).outcome source around store = some (result, after) ∧
      (∀ grade, party.Graded session response key point response.signatureData grade ↔
        grade = result) ∧
      (∀ fault, result = .error (.format fault) ↔
        response.signatureData.length ≤ 5 ∧ fault = .truncated) ∧
      after = (store.closeSession response.sessionId).settle session.account
        (result.map fun record =>
          (record, setFirst key.publicKey record.counter (store.keys session.account))) := by
  obtain ⟨result, hresult⟩ :=
    exists_graded party session response key point response.signatureData
  have hwaiting : store.waiting? .authentication response.sessionId = some session :=
    AccountStore.waiting?_eq_some_iff.2 ⟨haddressed.pending,
      Web.Session.awaits_authentication_iff.2
        ⟨key.publicKey, publicKey?_eq_some_iff.2 haddressed.purpose⟩⟩
  have houtcome := outcome_acceptSignature party response source around store
  rw [signatureOutcome_of_waiting hwaiting,
    haddressed.signatureVerdict_of_graded rfl hresult] at houtcome
  refine ⟨result, _, houtcome.trans ?_, ?_, ?_, rfl⟩
  · cases result <;> rfl
  · intro grade
    refine ⟨fun hgrade => hgrade.unique haddressed hresult, ?_⟩
    rintro rfl
    exact hresult
  · intro fault
    rw [← Graded.format_iff]
    constructor
    · rintro rfl
      exact hresult
    · exact hresult.unique haddressed

end

/-! The first of two signatures, sent again to the session of the second. -/

def replayedResponse : Web.SignResponse := { firstResponse with sessionId := "second" }

theorem addressed_replayedResponse : sampleParty.Addressed raisedStore replayedResponse
    sampleSession (sampleKey 1) KeyPair.base.publicKey where
  pending := by decide +kernel
  purpose := rfl
  first := by decide +kernel
  keyHandle := rfl
  answers := by
    obtain ⟨session, _, _, hchecked⟩ := leads_acceptSignature_ok leads_firstResponse
    have hsession : sampleStore.waiting? .authentication firstResponse.sessionId =
        some sampleSession := by decide +kernel
    obtain rfl : sampleSession = session :=
      Option.some.inj (hsession.symm.trans hchecked.waiting)
    obtain ⟨data, _, hsigned⟩ := readAuthentication_eq_ok_iff.1 hchecked.read
    exact ⟨data, hsigned.parsed, hsigned.answers⟩
  keyRead := KeyPair.base.publicKey.decode?_bytes

theorem graded_replayedResponse : sampleParty.Graded sampleSession replayedResponse (sampleKey 1)
    KeyPair.base.publicKey replayedResponse.signatureData
    (.error (.counterRegression 1 1)) := by
  have hsequence : Raw.IsSequence (replayedResponse.signatureData.drop 5) :=
    .short 0x44 _ (by decide) (by decide)
  exact @Graded.stale sampleParty sampleSession replayedResponse (sampleKey 1)
    KeyPair.base.publicKey 1 1 _ hsequence (by decide) (by decide +kernel) (UInt32.le_refl 1)

theorem acceptSignature_graded_replayedResponse :
    ∃ after, (sampleParty.acceptSignature replayedResponse).outcome .random (.ofTape [])
      raisedStore = some (.error (.counterRegression 1 1), after) := by
  obtain ⟨result, after, houtcome, hgrades, _, _⟩ :=
    acceptSignature_graded addressed_replayedResponse .random (.ofTape [])
  rw [houtcome, ← (hgrades _).1 graded_replayedResponse]
  exact ⟨after, rfl⟩

end RelyingParty

end SecondFactor
