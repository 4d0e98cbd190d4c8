import SecondFactor.Proofs.RelyingParty.SignatureData

/-!
Enrolled keys can be used. Whatever responses a party met since its store was empty, every key that
it holds, or waits for, is a point of the curve, and every handle fits the request that carries it,
`enrolled_keys_usable`. So no signature is ever refused for the key it is checked with.
-/

namespace SecondFactor.RelyingParty

/-- An encoded key that signatures can be checked with: `04 | x | y`, on the curve. -/
structure UsableKey (publicKey : Bytes) : Prop where
  length : publicKey.length = 65
  uncompressed : publicKey.head? = some 0x04
  onCurve : ∃ point, PublicKey.decode? publicKey = some point

/-- A record whose key, handle and certificate can be used. -/
structure UsableRecord (record : Web.Enrolment) : Prop where
  publicKey : UsableKey record.publicKey
  keyHandle : record.keyHandle.length ≤ 255
  certificate : ∃ certified, Certificate.publicKey? record.certificate = some certified

/-- All records of all accounts are usable, and all sessions wait for usable keys. The record of
such a key may be gone. -/
structure Usable (store : AccountStore) : Prop where
  records : ∀ account, ∀ record ∈ store.keys account, UsableRecord record
  sessions : ∀ id session publicKey, store.session? id = some session →
    session.purpose = .sign publicKey → UsableKey publicKey

theorem Usable.empty : Usable .empty where
  records := nofun
  sessions := nofun

/-! What a registration leaves. -/

variable {party : RelyingParty} {session : Web.Session} {before after : AccountStore}
  {moment : Moment}

theorem usableKey_of_ofRaw? {raw : Raw.PublicKey} (hkey : PublicKey.ofRaw? raw ≠ none) :
    UsableKey raw.bytes where
  length := raw.length_bytes
  uncompressed := rfl
  onCurve := by
    rw [PublicKey.decode?_bytes_raw]
    exact Option.ne_none_iff_exists'.1 hkey

theorem usableRecord_of_registrationVerdict {response : Web.RegisterResponse} {now : UInt64}
    {record : Web.Enrolment}
    (hverdict : party.registrationVerdict session response now = .ok record) :
    UsableRecord record := by
  obtain ⟨registration, data, certified, hattested, hkey, rfl⟩ :=
    registrationVerdict_eq_ok_iff.1 hverdict
  obtain ⟨hformed, _⟩ := Raw.RegistrationResponse.decode_eq_ok_iff.1 hattested.decoded
  exact ⟨usableKey_of_ofRaw? hkey, hformed.keyHandle, certified, hattested.keyRead⟩

theorem Step.usableRecord (hstep : Step party before moment after)
    {response : Web.RegisterResponse} {now : UInt64} {record : Web.Enrolment}
    (hevent : moment.event = .acceptRegistration response now (.ok record)) :
    UsableRecord record := by
  have hleads := hstep.leads
  rw [hevent] at hleads
  obtain ⟨_, _, hverdict, _⟩ := registrationVerdict_of_leads hleads
  exact usableRecord_of_registrationVerdict hverdict

/-! Steps and runs. -/

/-- A call that enrols only usable keys leaves only usable ones. -/
theorem KeyChange.usable {store : AccountStore} {account : String} {changed : List Web.Enrolment}
    {event : Event} (hchange : KeyChange store account event changed)
    (henrolled : ∀ response now record,
      event = .acceptRegistration response now (.ok record) → UsableRecord record)
    (hkeys : ∀ record ∈ store.keys account, UsableRecord record) : ∀ record ∈ changed, UsableRecord record :=
  hchange.forall_mem (fun _ _ ⟨hkey, hhandle, hcertificate⟩ => ⟨hkey, hhandle, hcertificate⟩)
    henrolled hkeys

theorem Step.usable (hstep : Step party before moment after) (husable : Usable before) :
    Usable after where
  records account :=
    (hstep.keyChange account).usable (fun _ _ _ => hstep.usableRecord) (husable.records account)
  sessions := by
    intro id session publicKey hsession hpurpose
    rcases (hstep.session?_iff id session).1 hsession with hissued | ⟨hold, _⟩
    · -- The record is there when the session is issued, though it may go before the session does.
      rcases moment.issued_cases hissued with
        ⟨_, _, _, _, _, rfl⟩ | ⟨account, _, _, _, _, _, key, hmem, _, rfl⟩
      · cases hpurpose
      · cases hpurpose
        rw [hstep.met] at hmem
        exact (husable.records account key hmem).publicKey
    · exact husable.sessions id session publicKey hold hpurpose

theorem usable_of_run {history : List Moment} {last : AccountStore}
    (hrun : Run party.Step .empty history last) : Usable last :=
  hrun.invariant Usable (fun _ _ _ _ hstep => hstep.usable) .empty

/-! What may be malformed in a response. -/

theorem parse_eq_error {bytes : Bytes} {fault : FormatFault}
    (hparse : Web.ClientData.parse bytes = .error fault) : fault = .clientData := by
  unfold Web.ClientData.parse at hparse
  split at hparse <;> cases hparse
  rfl

theorem decodedChallenge_eq_error {data : Web.ClientData} {fault : FormatFault}
    (hdecode : data.decodedChallenge = .error fault) : fault = .base64 := by
  unfold Web.ClientData.decodedChallenge at hdecode
  split at hdecode <;> cases hdecode
  rfl

theorem fault_of_checkClientData {data : Web.ClientData} {kind : Web.ClientDataKind}
    {fault : FormatFault} (hcheck : party.checkClientData data kind session =
      .error (.format fault)) : fault = .base64 := by
  unfold checkClientData at hcheck
  simp only [guard_eq_error_iff, bind_eq_error_iff, mapError_eq_error_iff,
    lastGuard_eq_error_iff, reduceCtorEq, and_false, false_or, Failure.format.injEq] at hcheck
  rcases hcheck with ⟨_, ⟨given, hdecode, rfl⟩ | ⟨_, _, _, _, hdone⟩⟩
  · exact decodedChallenge_eq_error hdecode
  · cases hdone

theorem fault_of_decode {data : Bytes} {fault : FormatFault}
    (hread : (Raw.AuthenticationResponse.decode data).mapError (signatureFailure data) =
      .error (.format fault)) : fault = .truncated := by
  obtain ⟨given, hgiven, hfailure⟩ := mapError_eq_error_iff.1 hread
  unfold signatureFailure at hfailure
  split at hfailure
  · cases hfailure
  · rename_i hshort
    rw [Raw.AuthenticationResponse.decode_of_short (Nat.le_of_not_lt hshort)] at hgiven
    cases hgiven
    cases hfailure
    rfl

/-- What may be malformed in a response to a session: client data, the challenge in them, data that
end before the signature, and a key that is no point of the curve. -/
theorem fault_of_readAuthentication {key : Web.Enrolment} {response : Web.SignResponse}
    {fault : FormatFault}
    (hread : party.readAuthentication session key response = .error (.format fault)) :
    fault = .clientData ∨ fault = .base64 ∨ fault = .truncated ∨
      fault = .publicKey ∧ PublicKey.decode? key.publicKey = none := by
  unfold readAuthentication at hread
  simp only [bind_eq_error_iff, guard_eq_error_iff, reduceCtorEq, and_false, false_or] at hread
  rcases hread with hparse | ⟨data, _, hcheck | ⟨_, _, hdecode | ⟨authentication, _, _, hkey⟩⟩⟩
  · obtain ⟨given, hparse, hfault⟩ := mapError_eq_error_iff.1 hparse
    cases hfault
    exact .inl (parse_eq_error hparse)
  · exact .inr (.inl (fault_of_checkClientData hcheck))
  · exact .inr (.inr (.inl (fault_of_decode hdecode)))
  · cases hpoint : PublicKey.decode? key.publicKey with
    | none =>
        rw [hpoint] at hkey
        cases hkey
        exact .inr (.inr (.inr ⟨rfl, rfl⟩))
    | some point =>
        simp only [hpoint, guard_eq_error_iff, reduceCtorEq, and_false, false_or] at hkey
        cases hkey.2

theorem raiseFirst_ne_format (publicKey : Bytes) (counter : UInt32) (keys : List Web.Enrolment)
    (fault : FormatFault) :
    AccountStore.raiseFirst publicKey counter keys ≠ .error (.format fault) := by
  intro hfailure
  cases hfind : keys.find? fun key => key.publicKey = publicKey with
  | none =>
      rw [AccountStore.raiseFirst_of_find?_eq_none counter hfind] at hfailure
      cases hfailure
  | some key =>
      by_cases hcounter : key.counter < counter
      · rw [AccountStore.raiseFirst_of_find? hfind hcounter] at hfailure
        cases hfailure
      · rw [AccountStore.raiseFirst_of_not_risen hfind (UInt32.not_lt.1 hcounter)] at hfailure
        cases hfailure

/-- A response that is malformed is so in what is checked against a record of the account. -/
theorem exists_key_of_signatureVerdict {response : Web.SignResponse} {keys : List Web.Enrolment}
    {fault : FormatFault}
    (hverdict : party.signatureVerdict session response keys = .error (.format fault)) :
    ∃ key ∈ keys, party.readAuthentication session key response = .error (.format fault) := by
  unfold signatureVerdict at hverdict
  split at hverdict
  · cases hverdict
  · split at hverdict
    · cases hverdict
    · rename_i key hfound
      refine ⟨key, List.mem_of_find?_eq_some (Option.filter_eq_some_iff.1 hfound).1, ?_⟩
      rcases bind_eq_error_iff.1 hverdict with hread | ⟨authentication, _, hraise⟩
      · exact hread
      · exact absurd hraise (raiseFirst_ne_format _ _ _ _)

/-- No response is refused for the key of the record that it is checked against. -/
theorem Usable.outcome_ne (husable : Usable before) (party : RelyingParty)
    (response : Web.SignResponse) (source : ChallengeSource) (around : Surroundings) :
    (party.acceptSignature response).outcome source around before ≠
      some (.error (.format .publicKey), after) := by
  rw [outcome_acceptSignature]
  intro houtcome
  have hresult : (party.signatureOutcome before response).1 = .error (.format .publicKey) :=
    congrArg Prod.fst (Option.some.inj houtcome)
  cases hwaiting : before.waiting? .authentication response.sessionId with
  | none =>
      rw [signatureOutcome_of_none hwaiting] at hresult
      cases hresult
  | some session =>
      rw [signatureOutcome_of_waiting hwaiting] at hresult
      cases hverdict : party.signatureVerdict session response (before.keys session.account) with
      | ok raised =>
          rw [hverdict] at hresult
          cases hresult
      | error failure =>
          rw [hverdict] at hresult
          cases hresult
          obtain ⟨key, hmem, hread⟩ := exists_key_of_signatureVerdict hverdict
          obtain ⟨point, hpoint⟩ := (husable.records _ key hmem).publicKey.onCurve
          rcases fault_of_readAuthentication hread with
            hfault | hfault | hfault | ⟨_, hnone⟩
          · cases hfault
          · cases hfault
          · cases hfault
          · rw [hpoint] at hnone
            cases hnone

theorem exists_key_of_request {appId : String} {challenge : Bytes} {keys : List Web.Enrolment}
    {requests : List Web.SignRequest}
    (hall : List.Forall₂ (RequestsKey appId challenge) keys requests) {request : Web.SignRequest}
    (hmem : request ∈ requests) : ∃ key ∈ keys, request.keyHandle = key.keyHandle := by
  obtain ⟨index, hindex, rfl⟩ := List.getElem_of_mem hmem
  have hkey : index < keys.length := by
    rw [hall.length_eq]
    exact hindex
  obtain ⟨_, _, _, hhandle⟩ := hall.get hkey hindex
  exact ⟨keys[index], List.getElem_mem hkey, hhandle⟩

/-- Every request for a signature is by a handle that a token can be asked for. -/
theorem Usable.exists_encode (husable : Usable before) {account appId : String}
    {requests : List Web.SignRequest}
    (hends : (requestSignatures account appId).Ends before (.ok requests) after)
    {request : Web.SignRequest} (hmem : request ∈ requests) (control : Raw.Control)
    (challenge application : Digest) :
    ∃ bytes, (⟨control, challenge, application, request.keyHandle⟩ :
      Raw.AuthenticationRequest).encode = .ok bytes := by
  rcases ends_requestSignatures hends with ⟨_, hresult, _⟩ | ⟨given, issued, _, hresult, hall, _, _⟩
  · cases hresult
  · cases hresult
    obtain ⟨key, hkey, hhandle⟩ := exists_key_of_request hall hmem
    have hlength : request.keyHandle.length ≤ 255 := by
      rw [hhandle]
      exact (husable.records account key hkey).keyHandle
    obtain ⟨counted, hcounted⟩ := Raw.exists_countedBytes hlength
    exact ⟨_, Raw.AuthenticationRequest.encode_eq_ok_iff.2 ⟨counted, hcounted, rfl⟩⟩

/-- After any run from an empty store, all that is enrolled or waited for is usable, no signature is
refused for its key, and all that is asked of tokens can be written. -/
theorem enrolled_keys_usable {history : List Moment} {last : AccountStore}
    (hrun : Run party.Step .empty history last) :
    Usable last ∧
    (∀ response source around after, (party.acceptSignature response).outcome source around last ≠
      some (.error (.format .publicKey), after)) ∧
    ∀ account appId requests after,
      (requestSignatures account appId).Ends last (.ok requests) after → ∀ request ∈ requests,
        ∀ control challenge application, ∃ bytes,
          (⟨control, challenge, application, request.keyHandle⟩ :
            Raw.AuthenticationRequest).encode = .ok bytes := by
  have husable := usable_of_run hrun
  refine ⟨husable, fun response source around _ => husable.outcome_ne party response source around,
    ?_⟩
  intro account appId requests after hends request hmem control challenge application
  exact husable.exists_encode hends hmem control challenge application

/-- A key that was enrolled, while a signature is waited for. -/
theorem enrolled_keys_usable_signing :
    ∃ history, Run batchParty.Step .empty history signingStore ∧ Usable signingStore ∧
      signingStore.keys "ann" = [enrolmentRecord] ∧
      signingStore.session? lifeResponse.sessionId = some sampleSession := by
  obtain ⟨_, hrun⟩ := run_keyLife
  have hsplit : keyLife = keyLife.take 3 ++ keyLife[3] :: keyLife.drop 4 := rfl
  rw [hsplit] at hrun
  obtain ⟨store, _, hupto, hsigned, _⟩ := hrun.cut_at
  obtain rfl : signingStore = store := hsigned.met
  exact ⟨_, hupto, (enrolled_keys_usable hupto).1, by decide +kernel, by decide +kernel⟩

end SecondFactor.RelyingParty
