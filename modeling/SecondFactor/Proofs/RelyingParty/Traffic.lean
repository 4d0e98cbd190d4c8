import SecondFactor.Proofs.RelyingParty.Counters
import SecondFactor.Proofs.RelyingParty.Sessions
import SecondFactor.Proofs.Traffic

/-!
Calls under way at once over one store in memory. What is left of a call is a dialogue, which ends
in the event of the call, and one answer of the store to one of the calls is one step.
-/

namespace SecondFactor

namespace AccountStore

/-- The store with the keys that a verdict gives an account, if it is a success. -/
def settle (store : AccountStore) (account : String)
    (verdict : Except Failure (Web.Enrolment × List Web.Enrolment)) : AccountStore :=
  match verdict with
  | .ok (_, keys) => store.setKeys account keys
  | .error _ => store

@[simp] theorem session?_settle (store : AccountStore) (account : String)
    (verdict : Except Failure (Web.Enrolment × List Web.Enrolment)) (id : String) :
    (store.settle account verdict).session? id = store.session? id := by
  cases verdict <;> rfl

/-- One verdict leaves stores with the same keys with the same keys. -/
theorem keys_settle_congr {store other : AccountStore}
    (hkeys : ∀ account, store.keys account = other.keys account) (account : String)
    (verdict : Except Failure (Web.Enrolment × List Web.Enrolment)) (holder : String) :
    (store.settle account verdict).keys holder = (other.settle account verdict).keys holder := by
  cases verdict with
  | error failure => exact hkeys holder
  | ok changed => rw [settle, settle, keys_setKeys, keys_setKeys, hkeys]

theorem raiseCounter_eq (store : AccountStore) (account : String) (publicKey : Bytes)
    (counter : UInt32) :
    store.raiseCounter account publicKey counter =
      ((raiseFirst publicKey counter (store.keys account)).map Prod.fst,
        store.settle account (raiseFirst publicKey counter (store.keys account))) := by
  unfold raiseCounter settle
  cases raiseFirst publicKey counter (store.keys account) <;> rfl

theorem session?_of_closeSession {store : AccountStore} {id other : String}
    {session : Web.Session} (hsession : (store.closeSession id).session? other = some session) :
    store.session? other = some session := by
  rw [session?_closeSession] at hsession
  split at hsession
  · cases hsession
  · exact hsession

theorem session?_closeSession_of_none {store : AccountStore} {id : String}
    (hnone : store.session? id = none) (other : String) :
    (store.closeSession id).session? other = store.session? other := by
  rw [session?_closeSession]
  split
  · rename_i hother
    rw [hother, hnone]
  · rfl

@[simp] theorem session?_removeKey (store : AccountStore) (account : String) (publicKey : Bytes)
    (id : String) : (store.removeKey account publicKey).session? id = store.session? id := by
  rw [session?, sessions_removeKey, session?]

end AccountStore

namespace RelyingParty

section

variable {party : RelyingParty} {store : AccountStore} {session : Web.Session}

/-- A registration uses up the session that waits for it, and does to the keys what the verdict
says. -/
theorem registrationOutcome_of_waiting {response : Web.RegisterResponse} (now : UInt64)
    (hwaiting : store.waiting? .registration response.sessionId = some session) :
    party.registrationOutcome store response now =
      (party.registrationVerdict session response now,
        (store.closeSession response.sessionId).settle session.account
          ((party.registrationVerdict session response now).map fun key =>
            (key, store.keys session.account ++ [key]))) := by
  cases hverdict : party.registrationVerdict session response now with
  | error failure =>
      rw [registrationOutcome_of_error hwaiting hverdict]
      rfl
  | ok key =>
      rw [registrationOutcome_of_ok hwaiting hverdict]
      rfl

/-- A signature uses up the session that waits for it, and does to the keys what the verdict
says. -/
theorem signatureOutcome_of_waiting {response : Web.SignResponse}
    (hwaiting : store.waiting? .authentication response.sessionId = some session) :
    party.signatureOutcome store response =
      ((party.signatureVerdict session response (store.keys session.account)).map Prod.fst,
        (store.closeSession response.sessionId).settle session.account
          (party.signatureVerdict session response (store.keys session.account))) := by
  cases hverdict : party.signatureVerdict session response (store.keys session.account) with
  | error failure =>
      rw [signatureOutcome_of_error hwaiting hverdict]
      rfl
  | ok raised =>
      rw [signatureOutcome_of_ok hwaiting hverdict]
      rfl

end

/-- A response, and the time if it is for a new key. -/
inductive Response where
  | registration (response : Web.RegisterResponse) (now : UInt64)
  | signature (response : Web.SignResponse)

namespace Response

def sessionId : Response → String
  | .registration response _ => response.sessionId
  | .signature response => response.sessionId

def kind : Response → Web.ClientDataKind
  | .registration .. => .registration
  | .signature _ => .authentication

def accept (party : RelyingParty) : Response → Talk Web.Enrolment
  | .registration response now => party.acceptRegistration response now
  | .signature response => party.acceptSignature response

def event (result : Except Failure Web.Enrolment) : Response → Event
  | .registration response now => .acceptRegistration response now result
  | .signature response => .acceptSignature response result

/-- What becomes of a response in its session: the record of its key, and the keys of the account
with that record. -/
def verdict (party : RelyingParty) (session : Web.Session) (keys : List Web.Enrolment) :
    Response → Except Failure (Web.Enrolment × List Web.Enrolment)
  | .registration response now =>
    (party.registrationVerdict session response now).map fun key => (key, keys ++ [key])
  | .signature response => party.signatureVerdict session response keys

variable {party : RelyingParty} {store : AccountStore} {session : Web.Session}

@[simp] theorem answered?_event (response : Response) (result : Except Failure Web.Enrolment) :
    (response.event result).answered? = some (response.kind, response.sessionId) := by
  cases response <;> rfl

@[simp] theorem answer?_event (response : Response) (result : Except Failure Web.Enrolment) :
    (response.event result).answer? = some result := by
  cases response <;> rfl

/-- A response that a session waits for uses it up, and does to the keys what the verdict says. -/
theorem leads (response : Response)
    (hwaiting : store.waiting? response.kind response.sessionId = some session) :
    (response.event ((response.verdict party session (store.keys session.account)).map
      Prod.fst)).Leads party store ((store.closeSession response.sessionId).settle session.account
        (response.verdict party session (store.keys session.account))) := by
  cases response with
  | registration response now =>
      refine ⟨.random, .ofTape [], ?_⟩
      rw [party.outcome_acceptRegistration, registrationOutcome_of_waiting now hwaiting, verdict]
      cases party.registrationVerdict session response now <;> rfl
  | signature response =>
      refine ⟨.random, .ofTape [], ?_⟩
      rw [party.outcome_acceptSignature, signatureOutcome_of_waiting hwaiting]
      rfl

/-- A response that no session waits for does nothing. -/
theorem leads_of_none (response : Response)
    (hwaiting : store.waiting? response.kind response.sessionId = none) :
    (response.event (.error .unknownSession)).Leads party store store := by
  cases response with
  | registration response now =>
      refine ⟨.random, .ofTape [], ?_⟩
      rw [party.outcome_acceptRegistration, registrationOutcome_of_none hwaiting]
  | signature response =>
      refine ⟨.random, .ofTape [], ?_⟩
      rw [party.outcome_acceptSignature, signatureOutcome_of_none hwaiting]

end Response

/-- A call that may be made beside others. -/
inductive Call where
  | respond (response : Response)
  | removeKey (account : String) (publicKey : Bytes)

/-- An operation up to its end, which is the event of its result. -/
def Talk.report {α : Type} (talk : Talk α) (event : Except Failure α → Event) : Talk Event :=
  event <$> talk.attempt

def Call.talk (party : RelyingParty) : Call → Talk Event
  | .respond response => (response.accept party).report response.event
  | .removeKey account publicKey =>
    (RelyingParty.removeKey account publicKey).report (.removeKey account publicKey)

/-- What was said with one of `n` callers. -/
abbrev Access (n : Nat) := SecondFactor.Access Inquiry Inquiry.Answer n

/-- The call is given the session of an id, so it is past the check of its session. -/
def Access.Takes {n : Nat} (access : Access n) (id : String) : Prop :=
  ∃ caller session, access = ⟨caller, .takeSession id, .ok (some session)⟩

/-- Calls under way, and the store they have in common. -/
abbrev Traffic (n : Nat) := SecondFactor.Traffic Inquiry Inquiry.Answer AccountStore Event n

namespace Traffic

variable {n : Nat}

/-- Calls of which none has asked anything yet. -/
def ofCalls (party : RelyingParty) (store : AccountStore) (calls : Fin n → Call) : Traffic n :=
  ⟨store, fun caller => (calls caller).talk party⟩

/-- Any one of the calls has its next question answered by the store. Challenges may come from
anywhere. -/
abbrev Step : Traffic n → Access n → Traffic n → Prop :=
  SecondFactor.Traffic.Step fun _ source => Memory.answer source

end Traffic

/-- No key that one call removes from an account is enrolled for it by another. -/
def Apart {n : Nat} (store : AccountStore) (events : Fin n → Event) : Prop :=
  ∀ remover enroller account publicKey, (events remover).Removes account publicKey →
    ¬ (events enroller).Enrols store account publicKey

end RelyingParty

end SecondFactor
