import SecondFactor.Proofs.Except
import SecondFactor.Proofs.RelyingParty.History

/-!
What a response that a relying party takes holds: client data that answers the session, and
a signature over the digests of the session's application id and of that client data.
-/

namespace SecondFactor.RelyingParty

/-- Client data says that a page the party allows answered the challenge of a session. -/
structure Answers (party : RelyingParty) (data : Web.ClientData) (kind : Web.ClientDataKind)
    (session : Web.Session) : Prop where
  kind : data.kind = kind
  challenge : data.decodedChallenge = .ok session.challenge
  origin : party.allows data.origin = true

/-- What a signature that is taken holds. -/
structure Signed (party : RelyingParty) (session : Web.Session) (key : Web.Enrolment)
    (response : Web.SignResponse) (authentication : Raw.AuthenticationResponse)
    (data : Web.ClientData) (publicKey : PublicKey) : Prop where
  parsed : Web.ClientData.parse response.clientData = .ok data
  answers : party.Answers data .authentication session
  decoded : Raw.AuthenticationResponse.decode response.signatureData = .ok authentication
  present : authentication.presence.userPresent = true
  keyRead : PublicKey.decode? key.publicKey = some publicKey
  verified : party.suite.verify publicKey (party.signedBytes session response authentication)
    authentication.signature = true

/-- What a registration that is taken holds. -/
structure Attested (party : RelyingParty) (session : Web.Session)
    (response : Web.RegisterResponse) (registration : Raw.RegistrationResponse)
    (data : Web.ClientData) (certified : PublicKey) : Prop where
  parsed : Web.ClientData.parse response.clientData = .ok data
  answers : party.Answers data .registration session
  decoded : Raw.RegistrationResponse.decode response.registrationData = .ok registration
  trusted : party.trusted.trusts party.suite registration.certificate ∨ party.policy = .warn
  keyRead : Certificate.publicKey? registration.certificate = some certified
  verified : party.suite.verify certified (party.attestedBytes session response registration)
    registration.signature = true

variable {party : RelyingParty} {session : Web.Session} {before after : AccountStore}

theorem allows_eq_true_iff {url : String} :
    party.allows url = true ↔ ∃ allowed ∈ party.allowedOrigins, originOf? url = some allowed := by
  unfold allows
  cases originOf? url <;> simp

theorem checkClientData_eq_ok_iff {data : Web.ClientData} {kind : Web.ClientDataKind} :
    party.checkClientData data kind session = .ok () ↔ party.Answers data kind session := by
  unfold checkClientData
  rw [guard_eq_ok_iff, bind_eq_ok_iff]
  simp only [mapError_eq_ok_iff, guard_eq_ok_iff, lastGuard_eq_ok_iff, Bool.not_eq_true',
    Bool.not_eq_false, ne_eq, Decidable.not_not]
  constructor
  · rintro ⟨hkind, challenge, hchallenge, rfl, horigin, _⟩
    exact ⟨hkind, hchallenge, horigin⟩
  · intro hanswers
    exact ⟨hanswers.kind, _, hanswers.challenge, rfl, hanswers.origin, rfl⟩

theorem readAuthentication_eq_ok_iff {key : Web.Enrolment} {response : Web.SignResponse}
    {authentication : Raw.AuthenticationResponse} :
    party.readAuthentication session key response = .ok authentication ↔
      ∃ data publicKey, party.Signed session key response authentication data publicKey := by
  unfold readAuthentication
  simp only [bind_eq_ok_iff, mapError_eq_ok_iff, guard_eq_ok_iff, Bool.not_eq_true',
    Bool.not_eq_false]
  constructor
  · rintro ⟨data, hparsed, ⟨⟩, hchecked, found, hdecoded, hpresent, hverified⟩
    cases hkey : PublicKey.decode? key.publicKey with
    | none =>
        simp only [hkey] at hverified
        cases hverified
    | some publicKey =>
        simp only [hkey, guard_eq_ok_iff, Bool.not_eq_false] at hverified
        obtain ⟨hsignature, hfound⟩ := hverified
        cases hfound
        exact ⟨data, publicKey, hparsed, checkClientData_eq_ok_iff.1 hchecked, hdecoded,
          hpresent, hkey, hsignature⟩
  · rintro ⟨data, publicKey, hsigned⟩
    refine ⟨data, hsigned.parsed, (), checkClientData_eq_ok_iff.2 hsigned.answers,
      authentication, hsigned.decoded, hsigned.present, ?_⟩
    simp only [hsigned.keyRead, guard_eq_ok_iff, Bool.not_eq_false]
    exact ⟨hsigned.verified, rfl⟩

theorem readRegistration_eq_ok_iff {response : Web.RegisterResponse}
    {registration : Raw.RegistrationResponse} :
    party.readRegistration session response = .ok registration ↔
      ∃ data, Web.ClientData.parse response.clientData = .ok data ∧
        Raw.RegistrationResponse.decode response.registrationData = .ok registration ∧
        PublicKey.ofRaw? registration.publicKey ≠ none ∧
        party.Answers data .registration session := by
  unfold readRegistration
  simp only [bind_eq_ok_iff, mapError_eq_ok_iff, guard_eq_ok_iff, Option.isNone_iff_eq_none]
  constructor
  · rintro ⟨data, hparsed, found, hdecoded, hkey, ⟨⟩, hchecked, hfound⟩
    cases hfound
    exact ⟨data, hparsed, hdecoded, hkey, checkClientData_eq_ok_iff.1 hchecked⟩
  · rintro ⟨data, hparsed, hdecoded, hkey, hanswers⟩
    exact ⟨data, hparsed, registration, hdecoded, hkey, (), checkClientData_eq_ok_iff.2 hanswers,
      rfl⟩

theorem trustVerdict_eq_ok_iff {certificate : Bytes} :
    party.trustVerdict certificate = .ok () ↔
      party.trusted.trusts party.suite certificate ∨ party.policy = .warn := by
  unfold trustVerdict
  split <;> simp_all

theorem checkAttestation_eq_ok_iff {response : Web.RegisterResponse}
    {registration : Raw.RegistrationResponse} :
    party.checkAttestation session response registration = .ok () ↔
      ∃ certified, Certificate.publicKey? registration.certificate = some certified ∧
        party.suite.verify certified (party.attestedBytes session response registration)
          registration.signature = true := by
  unfold checkAttestation Suite.verifyCertified
  cases Certificate.publicKey? registration.certificate with
  | none => simp [bind, Except.bind]
  | some certified =>
      simp only [bind_eq_ok_iff, lastGuard_eq_ok_iff, Except.ok.injEq, exists_eq_left',
        Bool.not_eq_true', Bool.not_eq_false, Option.some.injEq]
      exact ⟨fun hverified => hverified.1, fun hverified => ⟨hverified, rfl⟩⟩

/-- An accepted signature answers a session, is by the first record of the session's key, and
leaves that record with the counter that was signed. -/
theorem signatureVerdict_eq_ok {response : Web.SignResponse} {keys changed : List Web.Enrolment}
    {raised : Web.Enrolment}
    (hverdict : party.signatureVerdict session response keys = .ok (raised, changed)) :
    ∃ publicKey key authentication, session.publicKey? = some publicKey ∧
      keys.find? (fun other => other.publicKey = publicKey) = some key ∧
      key.publicKey = publicKey ∧ key.keyHandle = response.keyHandle ∧
      party.readAuthentication session key response = .ok authentication ∧
      AccountStore.raiseFirst publicKey authentication.counter keys = .ok (raised, changed) := by
  cases hpublicKey : session.publicKey? with
  | none =>
      simp only [signatureVerdict, hpublicKey] at hverdict
      cases hverdict
  | some publicKey =>
      rw [party.signatureVerdict_of_publicKey hpublicKey] at hverdict
      simp only [bind_eq_ok_iff] at hverdict
      obtain ⟨key, hfound, authentication, hread, hraise⟩ := hverdict
      cases hfilter : (keys.find? fun key => key.publicKey = publicKey).filter fun key =>
          key.keyHandle = response.keyHandle with
      | none =>
          rw [hfilter] at hfound
          cases hfound
      | some first =>
          rw [hfilter] at hfound
          cases hfound
          obtain ⟨hfind, hhandle⟩ := Option.filter_eq_some_iff.1 hfilter
          have hkey : key.publicKey = publicKey := by simpa using List.find?_some hfind
          exact ⟨publicKey, key, authentication, rfl, hfind, hkey, by simpa using hhandle, hread,
            hkey ▸ hraise⟩

/-- A registration makes the record of a key on the curve, in an attested response. -/
theorem registrationVerdict_eq_ok_iff {response : Web.RegisterResponse} {now : UInt64}
    {record : Web.Enrolment} :
    party.registrationVerdict session response now = .ok record ↔
      ∃ registration data certified,
        party.Attested session response registration data certified ∧
          PublicKey.ofRaw? registration.publicKey ≠ none ∧ record = enrolmentOf registration now := by
  unfold registrationVerdict
  simp only [bind_eq_ok_iff]
  constructor
  · rintro ⟨registration, hread, ⟨⟩, htrust, ⟨⟩, hattestation, hrecord⟩
    cases hrecord
    obtain ⟨data, hparsed, hdecoded, hkey, hanswers⟩ := readRegistration_eq_ok_iff.1 hread
    obtain ⟨certified, hcertified, hverified⟩ := checkAttestation_eq_ok_iff.1 hattestation
    exact ⟨registration, data, certified, ⟨hparsed, hanswers, hdecoded,
      trustVerdict_eq_ok_iff.1 htrust, hcertified, hverified⟩, hkey, rfl⟩
  · rintro ⟨registration, data, certified, hattested, hkey, rfl⟩
    exact ⟨registration, readRegistration_eq_ok_iff.2
      ⟨data, hattested.parsed, hattested.decoded, hkey, hattested.answers⟩, (),
      trustVerdict_eq_ok_iff.2 hattested.trusted, (),
      checkAttestation_eq_ok_iff.2 ⟨certified, hattested.keyRead, hattested.verified⟩, rfl⟩

theorem registrationVerdict_eq_ok {response : Web.RegisterResponse} {now : UInt64}
    {record : Web.Enrolment}
    (hverdict : party.registrationVerdict session response now = .ok record) :
    ∃ registration data certified,
      party.Attested session response registration data certified ∧
        record = enrolmentOf registration now := by
  obtain ⟨registration, data, certified, hattested, _, hrecord⟩ :=
    registrationVerdict_eq_ok_iff.1 hverdict
  exact ⟨registration, data, certified, hattested, hrecord⟩

theorem registrationVerdict_of_attested {response : Web.RegisterResponse} (now : UInt64)
    {registration : Raw.RegistrationResponse} {data : Web.ClientData} {certified : PublicKey}
    (hattested : party.Attested session response registration data certified)
    (hkey : PublicKey.ofRaw? registration.publicKey ≠ none) :
    party.registrationVerdict session response now = .ok (enrolmentOf registration now) :=
  registrationVerdict_eq_ok_iff.2 ⟨registration, data, certified, hattested, hkey, rfl⟩

theorem leads_acceptRegistration_ok {response : Web.RegisterResponse} {now : UInt64}
    {record : Web.Enrolment}
    (hleads : (Event.acceptRegistration response now (.ok record)).Leads party before after) :
    ∃ session registration data certified,
      before.waiting? .registration response.sessionId = some session ∧
      party.Attested session response registration data certified ∧
      record = enrolmentOf registration now := by
  obtain ⟨session, hwaiting, hverdict, _⟩ := registrationVerdict_of_leads hleads
  obtain ⟨registration, data, certified, hattested, hrecord⟩ := registrationVerdict_eq_ok hverdict
  exact ⟨session, registration, data, certified, hwaiting, hattested, hrecord⟩

theorem Step.attested {moment : Moment} (hstep : Step party before moment after)
    {response : Web.RegisterResponse} {now : UInt64} {record : Web.Enrolment}
    (hevent : moment.event = .acceptRegistration response now (.ok record))
    (hwaiting : moment.before.waiting? .registration response.sessionId = some session) :
    ∃ registration data certified,
      party.Attested session response registration data certified := by
  have hleads := hstep.leads
  rw [hevent] at hleads
  obtain ⟨given, registration, data, certified, hgiven, hattested, _⟩ :=
    leads_acceptRegistration_ok hleads
  rw [hstep.met, hgiven] at hwaiting
  cases hwaiting
  exact ⟨registration, data, certified, hattested⟩

/-- Client data answers one challenge. -/
theorem Attested.challenge_eq {session' : Web.Session} {response response' : Web.RegisterResponse}
    {registration registration' : Raw.RegistrationResponse} {data data' : Web.ClientData}
    {certified certified' : PublicKey}
    (hattested : party.Attested session response registration data certified)
    (hattested' : party.Attested session' response' registration' data' certified')
    (hsame : response.clientData = response'.clientData) :
    session.challenge = session'.challenge := by
  have hparsed := hattested.parsed
  rw [hsame, hattested'.parsed] at hparsed
  cases hparsed
  have hdecoded := hattested.answers.challenge
  rw [hattested'.answers.challenge] at hdecoded
  exact (Except.ok.inj hdecoded).symm

end SecondFactor.RelyingParty
