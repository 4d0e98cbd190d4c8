import SecondFactor.Proofs.RelyingParty.Issue
import SecondFactor.Proofs.Run

/-!
The histories of a relying party: calls with the stores they met and left, one after the other. Who
answers, and with what, is not restricted. For each kind of call a lemma says all it can do.
-/

namespace SecondFactor.RelyingParty

/-- A finished call, with its result. -/
inductive Event where
  | requestRegistration (account appId : String) (result : Except Failure Web.RegisterRequest)
  | acceptRegistration (response : Web.RegisterResponse) (now : UInt64)
    (result : Except Failure Web.Enrolment)
  | requestSignatures (account appId : String) (result : Except Failure (List Web.SignRequest))
  | acceptSignature (response : Web.SignResponse) (result : Except Failure Web.Enrolment)
  | keys (account : String) (result : Except Failure (List Web.Enrolment))
  | removeKey (account : String) (publicKey : Bytes) (result : Except Failure Bool)

/-- The store of the party that the call leads from the first store to the second. -/
def Event.Leads (party : RelyingParty) (before after : AccountStore) : Event → Prop
  | .requestRegistration account appId result =>
    (RelyingParty.requestRegistration account appId).Ends before result after
  | .acceptRegistration response now result =>
    (party.acceptRegistration response now).Ends before result after
  | .requestSignatures account appId result =>
    (RelyingParty.requestSignatures account appId).Ends before result after
  | .acceptSignature response result => (party.acceptSignature response).Ends before result after
  | .keys account result => (RelyingParty.keys account).Ends before result after
  | .removeKey account publicKey result =>
    (RelyingParty.removeKey account publicKey).Ends before result after

/-- A finished call between the stores it met and left. -/
structure Moment where
  before : AccountStore
  event : Event
  after : AccountStore

/-- One step in the history of a party. -/
inductive Step (party : RelyingParty) : AccountStore → Moment → AccountStore → Prop
  | call {before after : AccountStore} (event : Event) :
      event.Leads party before after → Step party before ⟨before, event, after⟩ after

variable {party : RelyingParty} {before after : AccountStore} {moment : Moment}

theorem Step.met (hstep : Step party before moment after) : moment.before = before := by
  cases hstep
  rfl

theorem Step.left (hstep : Step party before moment after) : moment.after = after := by
  cases hstep
  rfl

theorem Step.leads (hstep : Step party before moment after) :
    moment.event.Leads party before after := by
  cases hstep with
  | call event hleads => exact hleads

theorem Talk.Ends.eq_of_outcome {α : Type} {talk : Talk α} {result : Except Failure α}
    (hends : talk.Ends before result after) (outcome : Except Failure α × AccountStore)
    (houtcome : ∀ source around, talk.outcome source around before = some outcome) :
    result = outcome.1 ∧ after = outcome.2 := by
  obtain ⟨source, around, hresult⟩ := hends
  rw [houtcome] at hresult
  cases hresult
  exact ⟨rfl, rfl⟩

/-- A registration without a session that waits for it does nothing. Any other uses up its session,
and enrols a key or fails. -/
theorem leads_acceptRegistration {response : Web.RegisterResponse} {now : UInt64}
    {result : Except Failure Web.Enrolment}
    (hleads : (Event.acceptRegistration response now result).Leads party before after) :
    (before.waiting? .registration response.sessionId = none ∧
        result = .error .unknownSession ∧ after = before) ∨
      ∃ session, before.waiting? .registration response.sessionId = some session ∧
        ((∃ failure, party.registrationVerdict session response now = .error failure ∧
            result = .error failure ∧ after = before.closeSession response.sessionId) ∨
          ∃ key, party.registrationVerdict session response now = .ok key ∧ result = .ok key ∧
            after = (before.closeSession response.sessionId).addKey session.account key) := by
  obtain ⟨hresult, hafter⟩ := Talk.Ends.eq_of_outcome hleads _ fun source around =>
    party.outcome_acceptRegistration response now source around before
  cases hwaiting : before.waiting? .registration response.sessionId with
  | none =>
      rw [registrationOutcome_of_none hwaiting] at hresult hafter
      exact Or.inl ⟨rfl, hresult, hafter⟩
  | some session =>
      refine Or.inr ⟨session, rfl, ?_⟩
      cases hverdict : party.registrationVerdict session response now with
      | error failure =>
          rw [registrationOutcome_of_error hwaiting hverdict] at hresult hafter
          exact Or.inl ⟨failure, rfl, hresult, hafter⟩
      | ok key =>
          rw [registrationOutcome_of_ok hwaiting hverdict] at hresult hafter
          exact Or.inr ⟨key, rfl, hresult, hafter⟩

/-- A signature without a session that waits for it does nothing. Any other uses up its session,
and raises a counter or fails. -/
theorem leads_acceptSignature {response : Web.SignResponse}
    {result : Except Failure Web.Enrolment}
    (hleads : (Event.acceptSignature response result).Leads party before after) :
    (before.waiting? .authentication response.sessionId = none ∧
        result = .error .unknownSession ∧ after = before) ∨
      ∃ session, before.waiting? .authentication response.sessionId = some session ∧
        ((∃ failure, party.signatureVerdict session response (before.keys session.account) =
              .error failure ∧ result = .error failure ∧
            after = before.closeSession response.sessionId) ∨
          ∃ raised keys, party.signatureVerdict session response (before.keys session.account) =
              .ok (raised, keys) ∧ result = .ok raised ∧
            after = (before.closeSession response.sessionId).setKeys session.account keys) := by
  obtain ⟨hresult, hafter⟩ := Talk.Ends.eq_of_outcome hleads _ fun source around =>
    party.outcome_acceptSignature response source around before
  cases hwaiting : before.waiting? .authentication response.sessionId with
  | none =>
      rw [signatureOutcome_of_none hwaiting] at hresult hafter
      exact Or.inl ⟨rfl, hresult, hafter⟩
  | some session =>
      refine Or.inr ⟨session, rfl, ?_⟩
      cases hverdict : party.signatureVerdict session response (before.keys session.account) with
      | error failure =>
          rw [signatureOutcome_of_error hwaiting hverdict] at hresult hafter
          exact Or.inl ⟨failure, rfl, hresult, hafter⟩
      | ok raised =>
          rw [signatureOutcome_of_ok hwaiting hverdict] at hresult hafter
          exact Or.inr ⟨raised.1, raised.2, rfl, hresult, hafter⟩

/-- A key that is enrolled is the verdict on a response that a session waited for. -/
theorem registrationVerdict_of_leads {response : Web.RegisterResponse} {now : UInt64}
    {record : Web.Enrolment}
    (hleads : (Event.acceptRegistration response now (.ok record)).Leads party before after) :
    ∃ session, before.waiting? .registration response.sessionId = some session ∧
      party.registrationVerdict session response now = .ok record ∧
      after = (before.closeSession response.sessionId).addKey session.account record := by
  rcases leads_acceptRegistration hleads with
    ⟨_, hresult, _⟩ | ⟨session, hwaiting, ⟨_, _, hresult, _⟩ | ⟨key, hverdict, hresult, hafter⟩⟩
  · cases hresult
  · cases hresult
  · cases hresult
    exact ⟨session, hwaiting, hverdict, hafter⟩

/-- A counter that is raised is the verdict on a response that a session waited for. -/
theorem signatureVerdict_of_leads {response : Web.SignResponse} {record : Web.Enrolment}
    (hleads : (Event.acceptSignature response (.ok record)).Leads party before after) :
    ∃ session keys, before.waiting? .authentication response.sessionId = some session ∧
      party.signatureVerdict session response (before.keys session.account) =
        .ok (record, keys) ∧
      after = (before.closeSession response.sessionId).setKeys session.account keys := by
  rcases leads_acceptSignature hleads with
    ⟨_, hresult, _⟩ |
      ⟨session, hwaiting, ⟨_, _, hresult, _⟩ | ⟨raised, keys, hverdict, hresult, hafter⟩⟩
  · cases hresult
  · cases hresult
  · cases hresult
    exact ⟨session, keys, hwaiting, hverdict, hafter⟩

theorem leads_acceptRegistration_of_ok {response : Web.RegisterResponse} {now : UInt64}
    {session : Web.Session} {key : Web.Enrolment}
    (hwaiting : before.waiting? .registration response.sessionId = some session)
    (hverdict : party.registrationVerdict session response now = .ok key) :
    (Event.acceptRegistration response now (.ok key)).Leads party before
      ((before.closeSession response.sessionId).addKey session.account key) := by
  refine ⟨.random, .ofTape [], ?_⟩
  rw [party.outcome_acceptRegistration, registrationOutcome_of_ok hwaiting hverdict]

theorem leads_acceptSignature_of_ok {response : Web.SignResponse} {session : Web.Session}
    {raised : Web.Enrolment} {keys : List Web.Enrolment}
    (hwaiting : before.waiting? .authentication response.sessionId = some session)
    (hverdict : party.signatureVerdict session response (before.keys session.account) =
      .ok (raised, keys)) :
    (Event.acceptSignature response (.ok raised)).Leads party before
      ((before.closeSession response.sessionId).setKeys session.account keys) := by
  refine ⟨.random, .ofTape [], ?_⟩
  rw [party.outcome_acceptSignature, signatureOutcome_of_ok hwaiting hverdict]

theorem leads_keys {account : String} {result : Except Failure (List Web.Enrolment)}
    (hleads : (Event.keys account result).Leads party before after) :
    result = .ok (before.keys account) ∧ after = before :=
  Talk.Ends.eq_of_outcome hleads (.ok (before.keys account), before)
    fun _ _ => rfl

theorem leads_removeKey {account : String} {publicKey : Bytes} {result : Except Failure Bool}
    (hleads : (Event.removeKey account publicKey result).Leads party before after) :
    result = .ok (before.hasKey account publicKey) ∧ after = before.removeKey account publicKey :=
  Talk.Ends.eq_of_outcome hleads
    (.ok (before.hasKey account publicKey), before.removeKey account publicKey)
    fun _ _ => rfl

end SecondFactor.RelyingParty
