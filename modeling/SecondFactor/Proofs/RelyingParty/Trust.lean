import SecondFactor.Proofs.RelyingParty.KeyLog
import SecondFactor.Proofs.RelyingParty.Traffic

/-!
What trust has a say in. A registration is refused as untrusted, or comes to what it would come to
if every certificate were trusted; and the more is trusted, or let pass with a warning, the less is
refused so, `trust_decides_untrusted`.
-/

namespace SecondFactor.RelyingParty

/-- The party with another policy, and with other certificates to trust. -/
def trusting (party : RelyingParty) (policy : TrustPolicy) (trusted : TrustAnchors) :
    RelyingParty :=
  { party with policy, trusted }

/-- The party lets pass the certificate of a response, if it can read the response at all. -/
def LetsPass (party : RelyingParty) (session : Web.Session) (response : Web.RegisterResponse) :
    Prop :=
  ∀ registration, party.readRegistration session response = .ok registration →
    party.trustVerdict registration.certificate = .ok ()

/-- The record of a key whose registration answers the session, whoever attests it. -/
def attestedVerdict (party : RelyingParty) (session : Web.Session)
    (response : Web.RegisterResponse) (now : UInt64) : Except Failure Web.Enrolment := do
  let registration ← party.readRegistration session response
  party.checkAttestation session response registration
  return enrolmentOf registration now

variable {party : RelyingParty} {session : Web.Session} {response : Web.RegisterResponse}
  {trusted others : TrustAnchors}

theorem trustVerdict_cases (party : RelyingParty) (certificate : Bytes) :
    party.trustVerdict certificate = .ok () ∨
      party.trustVerdict certificate = .error .untrustedAttestation := by
  unfold trustVerdict
  split
  · exact .inl rfl
  · exact .inr rfl

theorem registrationVerdict_of_letsPass (now : UInt64) (hpass : party.LetsPass session response) :
    party.registrationVerdict session response now =
      party.attestedVerdict session response now := by
  unfold registrationVerdict attestedVerdict
  cases hread : party.readRegistration session response with
  | error failure => rfl
  | ok registration =>
      simp only [bind, Except.bind, hpass registration hread]

theorem registrationVerdict_of_not_letsPass (now : UInt64)
    (hstop : ¬ party.LetsPass session response) :
    party.registrationVerdict session response now = .error .untrustedAttestation := by
  unfold LetsPass at hstop
  push Not at hstop
  obtain ⟨registration, hread, htrust⟩ := hstop
  have huntrusted := (party.trustVerdict_cases registration.certificate).resolve_left htrust
  simp only [registrationVerdict, hread, bind, Except.bind, huntrusted]

theorem letsPass_warn (party : RelyingParty) (trusted : TrustAnchors) (session : Web.Session)
    (response : Web.RegisterResponse) : (party.trusting .warn trusted).LetsPass session response :=
  fun _ _ => trustVerdict_eq_ok_iff.2 (.inr rfl)

theorem LetsPass.of_subset {policy : TrustPolicy}
    (hpass : (party.trusting policy trusted).LetsPass session response)
    (hsubset : trusted.certificates ⊆ others.certificates) :
    (party.trusting policy others).LetsPass session response := by
  intro registration hread
  refine trustVerdict_eq_ok_iff.2 ?_
  rcases trustVerdict_eq_ok_iff.1 (hpass registration hread) with htrusts | hpolicy
  · exact .inl (TrustAnchors.trusts_of_subset hsubset htrusts)
  · exact .inr hpolicy

/-! Outcomes. -/

/-- Trust makes no difference to a registration but where it is refused as untrusted. An outcome is
the result under a policy and with certificates to trust, and the store that is left. -/
structure DecidesUntrusted
    (outcome : TrustPolicy → TrustAnchors → Except Failure Web.Enrolment × AccountStore) :
    Prop where
  /-- What is not refused so comes to the same where that is let pass. -/
  warned : ∀ trusted, (outcome .refuse trusted).1 ≠ .error .untrustedAttestation →
    outcome .warn trusted = outcome .refuse trusted
  /-- What is not refused so comes to the same where more is trusted. -/
  extended : ∀ trusted others, trusted.certificates ⊆ others.certificates →
    (outcome .refuse trusted).1 ≠ .error .untrustedAttestation →
      outcome .refuse others = outcome .refuse trusted
  /-- Where all is let pass, it does not matter what is trusted. -/
  careless : ∀ trusted others, outcome .warn trusted = outcome .warn others
  sessions : ∀ policy policy' trusted trusted',
    (outcome policy trusted).2.sessions = (outcome policy' trusted').2.sessions

variable {store : AccountStore} {now : UInt64}

theorem letsPass_of_registrationOutcome_ne
    (hresult : (party.registrationOutcome store response now).1 ≠ .error .untrustedAttestation)
    (hwaiting : store.waiting? .registration response.sessionId = some session) :
    party.LetsPass session response := by
  by_contra hstop
  refine hresult ?_
  rw [registrationOutcome_of_error hwaiting (registrationVerdict_of_not_letsPass now hstop)]

/-- Where a registration passes either way, it comes to the same. -/
theorem registrationOutcome_trusting_eq {policy policy' : TrustPolicy}
    (hpass : ∀ session, store.waiting? .registration response.sessionId = some session →
      (party.trusting policy trusted).LetsPass session response)
    (hpass' : ∀ session, store.waiting? .registration response.sessionId = some session →
      (party.trusting policy' others).LetsPass session response) :
    (party.trusting policy trusted).registrationOutcome store response now =
      (party.trusting policy' others).registrationOutcome store response now := by
  cases hwaiting : store.waiting? .registration response.sessionId with
  | none => rw [registrationOutcome_of_none hwaiting, registrationOutcome_of_none hwaiting]
  | some session =>
      have hverdict : (party.trusting policy trusted).registrationVerdict session response now =
          (party.trusting policy' others).registrationVerdict session response now := by
        rw [registrationVerdict_of_letsPass now (hpass session hwaiting),
          registrationVerdict_of_letsPass now (hpass' session hwaiting)]
        rfl
      rw [registrationOutcome_of_waiting now hwaiting, registrationOutcome_of_waiting now hwaiting,
        hverdict]

/-- A registration uses up the session that waits for it, whatever becomes of it. -/
theorem sessions_registrationOutcome (party : RelyingParty) (store : AccountStore)
    (response : Web.RegisterResponse) (now : UInt64) :
    (party.registrationOutcome store response now).2.sessions =
      if (store.waiting? .registration response.sessionId).isSome then
        (store.closeSession response.sessionId).sessions
      else store.sessions := by
  cases hwaiting : store.waiting? .registration response.sessionId with
  | none =>
      rw [registrationOutcome_of_none hwaiting]
      rfl
  | some session =>
      rw [registrationOutcome_of_waiting now hwaiting]
      cases party.registrationVerdict session response now <;> rfl

theorem trust_decides_untrusted (party : RelyingParty) (store : AccountStore)
    (response : Web.RegisterResponse) (now : UInt64) :
    ∃ outcome : TrustPolicy → TrustAnchors → Except Failure Web.Enrolment × AccountStore,
      (∀ policy trusted source around,
        ((party.trusting policy trusted).acceptRegistration response now).outcome source around
          store = some (outcome policy trusted)) ∧
      DecidesUntrusted outcome := by
  refine ⟨fun policy trusted => (party.trusting policy trusted).registrationOutcome store response
    now, fun policy trusted source around =>
      outcome_acceptRegistration _ response now source around store, ?_⟩
  have hwarn : ∀ trusted session, store.waiting? .registration response.sessionId = some session →
      (party.trusting .warn trusted).LetsPass session response :=
    fun trusted session _ => letsPass_warn party trusted session response
  constructor
  case warned =>
    intro trusted hresult
    exact registrationOutcome_trusting_eq (hwarn trusted)
      fun session hwaiting => letsPass_of_registrationOutcome_ne hresult hwaiting
  case extended =>
    intro trusted others hsubset hresult
    have hpass : ∀ session, store.waiting? .registration response.sessionId = some session →
        (party.trusting .refuse trusted).LetsPass session response :=
      fun session hwaiting => letsPass_of_registrationOutcome_ne hresult hwaiting
    exact registrationOutcome_trusting_eq
      (fun session hwaiting => (hpass session hwaiting).of_subset hsubset) hpass
  case careless =>
    intro trusted others
    exact registrationOutcome_trusting_eq (hwarn trusted) (hwarn others)
  case sessions =>
    intro policy policy' trusted trusted'
    rw [sessions_registrationOutcome, sessions_registrationOutcome]

/-! The enrolment that a party takes because it trusts the batch of the token. -/

open TrustAnchors (batchCertificate)

theorem registrationVerdict_of_nobody_trusted :
    (batchParty.trusting .refuse .empty).registrationVerdict enrolmentSession enrolmentResponse 0 =
      .error .untrustedAttestation := by
  obtain ⟨registration, data, _, hattested, hkey, _⟩ :=
    registrationVerdict_eq_ok_iff.1 registrationVerdict_enrolment
  have hread : batchParty.readRegistration enrolmentSession enrolmentResponse = .ok registration :=
    readRegistration_eq_ok_iff.2
      ⟨data, hattested.parsed, hattested.decoded, hkey, hattested.answers⟩
  refine registrationVerdict_of_not_letsPass 0 fun hpass => ?_
  rcases trustVerdict_eq_ok_iff.1 (hpass registration hread) with htrusts | hpolicy
  · cases htrusts
  · cases hpolicy

theorem trust_decides_untrusted_enrolment :
    ∃ outcome : TrustPolicy → TrustAnchors → Except Failure Web.Enrolment × AccountStore,
      DecidesUntrusted outcome ∧
      outcome .refuse ⟨[batchCertificate]⟩ = (.ok enrolmentRecord, enrolmentTaken.after) ∧
      outcome .warn .empty = (.ok enrolmentRecord, enrolmentTaken.after) ∧
      (outcome .refuse .empty).1 = .error .untrustedAttestation := by
  obtain ⟨outcome, hends, hdecides⟩ :=
    trust_decides_untrusted batchParty askedStore enrolmentResponse 0
  have hend : ∀ policy trusted, outcome policy trusted =
      (batchParty.trusting policy trusted).registrationOutcome askedStore enrolmentResponse 0 := by
    intro policy trusted
    have hsome := hends policy trusted .random (.ofTape [])
    rw [outcome_acceptRegistration] at hsome
    exact (Option.some.inj hsome).symm
  have htaken : outcome .refuse ⟨[batchCertificate]⟩ =
      (.ok enrolmentRecord, enrolmentTaken.after) :=
    (hend _ _).trans
      (registrationOutcome_of_ok waiting?_enrolmentTaken registrationVerdict_enrolment)
  refine ⟨outcome, hdecides, htaken, ?_, ?_⟩
  · rw [hdecides.careless .empty ⟨[batchCertificate]⟩, ← htaken]
    refine hdecides.warned _ ?_
    rw [htaken]
    exact nofun
  · rw [hend, registrationOutcome_of_error waiting?_enrolmentTaken
      registrationVerdict_of_nobody_trusted]

end SecondFactor.RelyingParty
