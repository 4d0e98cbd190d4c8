import SecondFactor.Client.Agent
import SecondFactor.Proofs.Exchange

/-!
What a client asks, whoever answers: an enrolment is one request, one call of the token and one
submission (`asks_register`), an authentication calls the token for one request after the other, as
long as it knows none of their keys, and submits one answer (`asks_authenticate`).
-/

namespace SecondFactor.Client

/-- A question of a client, with its answer. -/
abbrev Said := Exchange Inquiry Inquiry.Answer

variable (client : Client) (origin : String)

/-- The client data a client makes of a request. -/
def registrationData (request : Web.RegisterRequest) : Bytes :=
  (client.clientData .registration request.challenge origin).bytes

def registrationCall (request : Web.RegisterRequest) : Raw.RegistrationRequest :=
  ⟨client.suite.digest (client.registrationData origin request),
    client.suite.digestText request.appId⟩

/-- A client may go on with a request of these parts. -/
def Admits (version appId : String) : Prop :=
  client.checkRequest version appId origin = .ok ()

def signatureData (request : Web.SignRequest) : Bytes :=
  (client.clientData .authentication request.challenge origin).bytes

def signatureCall (request : Web.SignRequest) : Raw.AuthenticationRequest :=
  ⟨.enforcePresence, client.suite.digest (client.signatureData origin request),
    client.suite.digestText request.appId, request.keyHandle⟩

/-- A request is skipped, as the token does not know its key. -/
def skipped (request : Web.SignRequest) : Said :=
  ⟨.authenticate (client.signatureCall origin request), .error .unknownKeyHandle⟩

/-- What follows the token's answer for one of some requests. -/
def afterSignature (request : Web.SignRequest) (rest : List Web.SignRequest) :
    Except Failure Raw.AuthenticationResponse → Talk Web.Enrolment
  | .ok response => Talk.submitSignature
      ⟨request.keyHandle, response.encode, client.signatureData origin request,
        request.sessionId⟩
  | .error .unknownKeyHandle => client.answerFirst origin rest
  | .error failure => Dialogue.fail failure

variable {client origin} {account : String} {now : UInt64} {history : List Said}
  {inquiry : Inquiry} {next : inquiry.Answer → Talk Web.Enrolment}

theorem admits_iff {version appId : String} :
    client.Admits origin version appId ↔
      version = Raw.protocolVersion ∧ client.check appId origin = .ok () := by
  unfold Admits checkRequest
  by_cases hversion : version = Raw.protocolVersion
  · simp [hversion]
  · simp only [ne_eq, hversion, not_false_eq_true, if_true, false_and, iff_false]
    intro h
    cases h

/-- What is asked at the end of a question is the question, or is asked after its answer. -/
theorem asks_ask {α : Type} {question : Inquiry} {rest : question.Answer → Talk α}
    {next : inquiry.Answer → Talk α}
    (hafter : Dialogue.After (.ask question rest) history (.ask inquiry next)) :
    (history = [] ∧ inquiry = question) ∨
      ∃ answer tail, history = ⟨question, answer⟩ :: tail ∧
        (rest answer).After tail (.ask inquiry next) := by
  rcases Dialogue.after_ask_iff.1 hafter with ⟨hhistory, hask⟩ | htail
  · cases hask
    exact Or.inl ⟨hhistory, rfl⟩
  · exact Or.inr htail

theorem not_asks_ofExcept {α : Type} {result : Except Failure α} {next : inquiry.Answer → Talk α} :
    ¬ (Dialogue.ofExcept result : Talk α).After history (.ask inquiry next) := by
  intro hafter
  obtain ⟨_, hend⟩ := Dialogue.after_ofExcept_iff.1 hafter
  cases result <;> cases hend

/-- Beyond a result that is asked for nothing is asked unless it is there. -/
theorem asks_ofExcept_bind {α β : Type} {result : Except Failure α} {rest : α → Talk β}
    {next : inquiry.Answer → Talk β}
    (hafter : ((Dialogue.ofExcept result : Talk α) >>= rest).After history (.ask inquiry next)) :
    ∃ value, result = .ok value ∧ (rest value).After history (.ask inquiry next) := by
  cases result with
  | error failure =>
      obtain ⟨_, hend⟩ := Dialogue.after_fail_iff.1 hafter
      cases hend
  | ok value => exact ⟨value, rfl, hafter⟩

theorem asks_ofFormat_bind {α β : Type} {result : Except FormatFault α} {rest : α → Talk β}
    {next : inquiry.Answer → Talk β}
    (hafter : ((Dialogue.ofFormat result : Talk α) >>= rest).After history (.ask inquiry next)) :
    ∃ value, result = .ok value ∧ (rest value).After history (.ask inquiry next) := by
  cases result with
  | error fault =>
      obtain ⟨_, hend⟩ := Dialogue.after_fail_iff.1 hafter
      cases hend
  | ok value => exact ⟨value, rfl, hafter⟩

theorem asks_register
    (hafter : (client.register account origin now).After history (.ask inquiry next)) :
    (history = [] ∧ inquiry = .requestRegistration account origin) ∨
      ∃ request, client.Admits origin request.version request.appId ∧
        ((history = [⟨.requestRegistration account origin, .ok request⟩] ∧
            inquiry = .register (client.registrationCall origin request)) ∨
          ∃ registration bytes, registration.encode = .ok bytes ∧
            history = [⟨.requestRegistration account origin, .ok request⟩,
              ⟨.register (client.registrationCall origin request), .ok registration⟩] ∧
            inquiry = .submitRegistration
              ⟨bytes, client.registrationData origin request, request.sessionId⟩ now) := by
  rcases asks_ask hafter with hfirst | ⟨answer, tail, rfl, hanswered⟩
  · exact Or.inl hfirst
  obtain ⟨request, rfl, hrequest⟩ := asks_ofExcept_bind hanswered
  obtain ⟨⟨⟩, hadmits, hcall⟩ := asks_ofExcept_bind hrequest
  refine Or.inr ⟨request, hadmits, ?_⟩
  rcases asks_ask hcall with ⟨rfl, rfl⟩ | ⟨answer, tail, rfl, hcalled⟩
  · exact Or.inl ⟨rfl, rfl⟩
  obtain ⟨registration, rfl, hregistration⟩ := asks_ofExcept_bind hcalled
  obtain ⟨bytes, hencode, hsubmit⟩ := asks_ofFormat_bind hregistration
  rcases asks_ask hsubmit with ⟨rfl, rfl⟩ | ⟨answer, tail, rfl, hsubmitted⟩
  · exact Or.inr ⟨registration, bytes, hencode, rfl, rfl⟩
  · exact absurd hsubmitted not_asks_ofExcept

/-- A question about one of some requests is put after all before it were skipped. -/
inductive AsksFor (client : Client) (origin : String) (request : Web.SignRequest)
    (passed : List Said) : List Said → Inquiry → Prop
  | signature : AsksFor client origin request passed passed
      (.authenticate (client.signatureCall origin request))
  | submission (response : Raw.AuthenticationResponse) : AsksFor client origin request passed
      (passed ++ [⟨.authenticate (client.signatureCall origin request), .ok response⟩])
      (.submitSignature ⟨request.keyHandle, response.encode, client.signatureData origin request,
        request.sessionId⟩)

theorem asks_answerFirst {requests : List Web.SignRequest}
    (hafter : (client.answerFirst origin requests).After history (.ask inquiry next)) :
    ∃ earlier request later, requests = earlier ++ request :: later ∧
      client.Admits origin request.version request.appId ∧
      AsksFor client origin request (earlier.map (client.skipped origin)) history inquiry := by
  induction requests generalizing history with
  | nil =>
      obtain ⟨_, hend⟩ := Dialogue.after_fail_iff.1 hafter
      cases hend
  | cons request rest ih =>
      obtain ⟨⟨⟩, hadmits, hcall⟩ := asks_ofExcept_bind hafter
      rcases asks_ask hcall with ⟨rfl, rfl⟩ | ⟨answer, tail, rfl, htail⟩
      · exact ⟨[], request, rest, rfl, hadmits, .signature⟩
      change (client.afterSignature origin request rest answer).After tail _ at htail
      unfold afterSignature at htail
      split at htail
      · next response =>
        rcases asks_ask htail with ⟨rfl, rfl⟩ | ⟨answer, tail, rfl, hdone⟩
        · exact ⟨[], request, rest, rfl, hadmits, .submission response⟩
        · exact absurd hdone not_asks_ofExcept
      · obtain ⟨earlier, found, later, rfl, hfound, hasks⟩ := ih htail
        refine ⟨request :: earlier, found, later, rfl, hfound, ?_⟩
        cases hasks with
        | signature => exact .signature
        | submission response => exact .submission response
      · obtain ⟨_, hend⟩ := Dialogue.after_fail_iff.1 htail
        cases hend

theorem asks_authenticate
    (hafter : (client.authenticate account origin).After history (.ask inquiry next)) :
    (history = [] ∧ inquiry = .requestSignatures account origin) ∨
      ∃ requests tail, history = ⟨.requestSignatures account origin, .ok requests⟩ :: tail ∧
        ∃ earlier request later, requests = earlier ++ request :: later ∧
          client.Admits origin request.version request.appId ∧
          AsksFor client origin request (earlier.map (client.skipped origin)) tail inquiry := by
  rcases asks_ask hafter with hfirst | ⟨answer, tail, rfl, htail⟩
  · exact Or.inl hfirst
  obtain ⟨requests, rfl, hrequests⟩ := asks_ofExcept_bind htail
  exact Or.inr ⟨requests, tail, rfl, asks_answerFirst hrequests⟩

end SecondFactor.Client
