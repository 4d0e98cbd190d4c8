import SecondFactor.Proofs.Bytes.Base64
import SecondFactor.Proofs.Client.Questions
import SecondFactor.Proofs.RelyingParty.Counters
import SecondFactor.Proofs.Token.Outcome
import SecondFactor.Proofs.Web.ClientData

/-!
Whatever a client is told, it has tokens sign for the page it acts for only, `calls_bound_to_page`:
each call is bound to a request that the page may answer, an authentication uses one value of the
token's counter at most, and what is submitted is of no use but for that request's challenge and
that page's origin.
-/

namespace SecondFactor.Client

/-- A request of a relying party, in the parts that both kinds have. -/
structure Demand where
  version : String
  challenge : Bytes
  appId : String
  sessionId : String

namespace Demand

def ofRegister (request : Web.RegisterRequest) : Demand :=
  ⟨request.version, request.challenge, request.appId, request.sessionId⟩

def ofSign (request : Web.SignRequest) : Demand :=
  ⟨request.version, request.challenge, request.appId, request.sessionId⟩

end Demand

/-- The requests that an answer brings. -/
def demandsOf : Said → List Demand
  | ⟨.requestRegistration .., .ok request⟩ => [.ofRegister request]
  | ⟨.requestSignatures .., .ok requests⟩ => requests.map .ofSign
  | _ => []

/-- What a token is called for. -/
structure TokenCall where
  kind : Web.ClientDataKind
  application : Digest
  challenge : Digest

def Inquiry.call? : Inquiry → Option TokenCall
  | .register request => some ⟨.registration, request.application, request.challenge⟩
  | .authenticate request => some ⟨.authentication, request.application, request.challenge⟩
  | _ => none

/-- The client data that a question submits, and the session it is submitted for. -/
def Inquiry.submission? : Inquiry → Option (Bytes × String)
  | .submitRegistration response _ => some (response.clientData, response.sessionId)
  | .submitSignature response => some (response.clientData, response.sessionId)
  | _ => none

def isUnknownKeyHandle : Except Failure Raw.AuthenticationResponse → Bool
  | .error .unknownKeyHandle => true
  | _ => false

/-- A call of the token that the token did not answer with the handle being unknown to it. -/
def engages : Said → Bool
  | ⟨.register _, _⟩ => true
  | ⟨.authenticate _, result⟩ => !isUnknownKeyHandle result
  | _ => false

def submits (said : Said) : Bool :=
  said.question.submission?.isSome

/-- A call is bound to a request and to a page, by client data of some bytes. -/
structure Binds (client : Client) (origin : String) (demand : Demand) (clientData : Bytes)
    (call : TokenCall) : Prop where
  version : demand.version = "U2F_V2"
  allowed : client.check demand.appId origin = .ok ()
  application : call.application = client.suite.digestText demand.appId
  challenge : call.challenge = client.suite.digest clientData
  parsed : ∃ data, Web.ClientData.parse clientData = .ok data ∧ data.kind = call.kind ∧
    data.decodedChallenge = .ok demand.challenge ∧ data.origin = origin

/-- A relying party takes what is submitted, when it is brought to it for some session. -/
def Inquiry.AcceptedBy (party : RelyingParty) (before : AccountStore) (id : String) :
    Inquiry → Prop
  | .submitRegistration response _ => ∃ now record after,
      (RelyingParty.Event.acceptRegistration { response with sessionId := id } now
        (.ok record)).Leads party before after
  | .submitSignature response => ∃ record after,
      (RelyingParty.Event.acceptSignature { response with sessionId := id }
        (.ok record)).Leads party before after
  | _ => False

/-- The operations that enrol a token and that use it. -/
def operation (client : Client) (account origin : String) (now : UInt64) :
    Web.ClientDataKind → Talk Web.Enrolment
  | .registration => client.register account origin now
  | .authentication => client.authenticate account origin

variable {client : Client} {account origin : String} {now : UInt64} {history : List Said}
  {inquiry : Inquiry} {next : inquiry.Answer → Talk Web.Enrolment}

/-! Calls and submissions are bound to what was asked for. -/

theorem binds_clientData {demand : Demand} (kind : Web.ClientDataKind)
    (hadmits : client.Admits origin demand.version demand.appId) :
    client.Binds origin demand (client.clientData kind demand.challenge origin).bytes
      ⟨kind, client.suite.digestText demand.appId,
        client.suite.digest (client.clientData kind demand.challenge origin).bytes⟩ := by
  obtain ⟨hversion, hallowed⟩ := admits_iff.1 hadmits
  refine ⟨hversion, hallowed, rfl, rfl, _, Web.ClientData.parse_bytes _, rfl, ?_, rfl⟩
  simp only [Web.ClientData.decodedChallenge, clientData, Base64.decode?_encode]

/-- What a client asks about a request that it was brought. -/
inductive Serves (client : Client) (origin : String) (kind : Web.ClientDataKind)
    (history : List Said) : Inquiry → Prop
  | request {inquiry : Inquiry} : inquiry.call? = none → inquiry.submission? = none →
      Serves client origin kind history inquiry
  | call {inquiry : Inquiry} {call : TokenCall} {demand : Demand} {clientData : Bytes} :
      inquiry.call? = some call → inquiry.submission? = none → call.kind = kind →
        demand ∈ history.flatMap demandsOf → client.Binds origin demand clientData call →
          Serves client origin kind history inquiry
  | submission {inquiry : Inquiry} {call : TokenCall} {demand : Demand} {clientData : Bytes}
      {said : Said} :
      inquiry.call? = none → inquiry.submission? = some (clientData, demand.sessionId) →
        call.kind = kind → demand ∈ history.flatMap demandsOf →
          client.Binds origin demand clientData call → said ∈ history →
            said.question.call? = some call → Serves client origin kind history inquiry

theorem serves_of_asks_register
    (hasks : (client.register account origin now).After history (.ask inquiry next)) :
    Serves client origin .registration history inquiry := by
  rcases asks_register hasks with
    ⟨_, rfl⟩ | ⟨request, hadmits, hlater⟩
  · exact .request rfl rfl
  have hdemand : ∀ tail, Demand.ofRegister request ∈ List.flatMap demandsOf
      (⟨.requestRegistration account origin, .ok request⟩ :: tail) := by
    simp [demandsOf]
  rcases hlater with ⟨rfl, rfl⟩ | ⟨registration, bytes, _, rfl, rfl⟩
  · exact .call rfl rfl rfl (hdemand _) (binds_clientData .registration hadmits)
  · exact .submission rfl rfl rfl (hdemand _) (binds_clientData .registration hadmits)
      (List.mem_cons_of_mem _ List.mem_cons_self) rfl

theorem serves_of_asks_authenticate
    (hasks : (client.authenticate account origin).After history (.ask inquiry next)) :
    Serves client origin .authentication history inquiry := by
  rcases asks_authenticate hasks with
    ⟨_, rfl⟩ | ⟨requests, tail, rfl, earlier, request, later, rfl, hadmits, hfor⟩
  · exact .request rfl rfl
  have hdemand : Demand.ofSign request ∈ List.flatMap demandsOf
      (⟨.requestSignatures account origin, .ok (earlier ++ request :: later)⟩ :: tail) := by
    simp [demandsOf]
  cases hfor with
  | signature =>
      exact .call rfl rfl rfl hdemand (binds_clientData .authentication hadmits)
  | submission response =>
      exact .submission rfl rfl rfl hdemand (binds_clientData .authentication hadmits)
        (List.mem_cons_of_mem _ (List.mem_append_right _ List.mem_cons_self)) rfl

theorem serves_of_asks {kind : Web.ClientDataKind}
    (hasks : (client.operation account origin now kind).After history (.ask inquiry next)) :
    Serves client origin kind history inquiry := by
  cases kind with
  | registration => exact serves_of_asks_register hasks
  | authentication => exact serves_of_asks_authenticate hasks

/-! An authentication is one use of a token. -/

theorem countP_answerFirst {requests : List Web.SignRequest} {rest : Talk Web.Enrolment}
    (hafter : (client.answerFirst origin requests).After history rest) :
    history.countP engages ≤ 1 ∧ history.countP submits ≤ 1 := by
  induction requests generalizing history with
  | nil =>
      obtain ⟨rfl, _⟩ := Dialogue.after_fail_iff.1 hafter
      simp
  | cons request others ih =>
      unfold answerFirst at hafter
      cases hcheck : client.checkRequest request.version request.appId origin with
      | error failure =>
          rw [hcheck] at hafter
          obtain ⟨rfl, _⟩ := Dialogue.after_fail_iff.1 hafter
          simp
      | ok _ =>
          rw [hcheck] at hafter
          rcases Dialogue.after_ask_iff.1 hafter with ⟨rfl, _⟩ | ⟨answer, tail, rfl, htail⟩
          · simp
          clear hafter
          change (client.afterSignature origin request others answer).After tail rest at htail
          unfold afterSignature at htail
          split at htail
          · rcases Dialogue.after_ask_iff.1 htail with ⟨rfl, _⟩ | ⟨answer, tail, rfl, hdone⟩
            · exact ⟨List.countP_le_length, List.countP_le_length⟩
            · obtain ⟨rfl, _⟩ := Dialogue.after_ofExcept_iff.1 hdone
              exact ⟨Nat.le_refl 1, Nat.le_refl 1⟩
          · have hrest := ih htail
            exact hrest
          · obtain ⟨rfl, _⟩ := Dialogue.after_fail_iff.1 htail
            exact ⟨List.countP_le_length, List.countP_le_length⟩

theorem countP_authenticate {rest : Talk Web.Enrolment}
    (hafter : (client.authenticate account origin).After history rest) :
    history.countP engages ≤ 1 ∧ history.countP submits ≤ 1 := by
  rcases Dialogue.after_ask_iff.1 hafter with ⟨rfl, _⟩ | ⟨answer, tail, rfl, htail⟩
  · simp
  rcases answer with failure | requests
  · obtain ⟨rfl, _⟩ := Dialogue.after_fail_iff.1 htail
    exact ⟨List.countP_le_length, List.countP_le_length⟩
  · have hanswers : (client.answerFirst origin requests).After tail rest := htail
    have hrest := countP_answerFirst hanswers
    exact hrest

/-- A token goes through what is said: it answers what it is called for, and is not concerned by the
rest. Its user may change from call to call. -/
inductive Meets (token : Token) : KeyRing → Said → KeyRing → Prop
  | register {moment : Token.Moment} {request : Raw.RegistrationRequest}
      {result : Except Failure Raw.RegistrationResponse} :
      moment.token = token → moment.call = .register request result → moment.Happens →
        Meets token moment.before ⟨.register request, result⟩ moment.after
  | authenticate {moment : Token.Moment} {request : Raw.AuthenticationRequest}
      {result : Except Failure Raw.AuthenticationResponse} :
      moment.token = token → moment.call = .authenticate request result → moment.Happens →
        Meets token moment.before ⟨.authenticate request, result⟩ moment.after
  | other {ring : KeyRing} {said : Said} : said.question.call? = none → Meets token ring said ring

theorem isUnknownKeyHandle_iff {result : Except Failure Raw.AuthenticationResponse} :
    isUnknownKeyHandle result = true ↔ result = .error .unknownKeyHandle := by
  unfold isUnknownKeyHandle
  split
  · simp
  · next hne => simpa using hne

theorem counter_of_meets {token : Token} {before after : KeyRing} {said : Said}
    (hmeets : Meets token before said after) :
    after.counter.toNat ≤ before.counter.toNat + (if engages said then 1 else 0) := by
  cases hmeets with
  | @register moment request result _ hcall hhappens =>
      rw [Token.Moment.Happens, hcall] at hhappens
      obtain ⟨left, hrun⟩ := hhappens
      rcases Token.run_register_eq_some hrun with ⟨_, _, hafter⟩ | ⟨_, _, _, _, _, hafter⟩ <;>
        simp [hafter, KeyRing.addKey]
  | @authenticate moment request result _ hcall hhappens =>
      rw [Token.Moment.Happens, hcall] at hhappens
      obtain ⟨left, hrun⟩ := hhappens
      obtain ⟨left', houtcome⟩ := moment.token.run_authenticate moment.token.suite moment.sensor
        moment.before moment.around request
      obtain ⟨hcounter, hunknown⟩ :=
        moment.token.counter_authenticationOutcome moment.sensor moment.before request
      rw [hrun] at houtcome
      simp only [Option.some.injEq, Prod.mk.injEq] at houtcome
      obtain ⟨hresult, hafter, _⟩ := houtcome
      by_cases hknown : result = .error .unknownKeyHandle
      · rw [hafter, hunknown (hresult ▸ hknown)]
        omega
      · rw [← isUnknownKeyHandle_iff, Bool.not_eq_true] at hknown
        have hengages : engages ⟨.authenticate request, result⟩ = !isUnknownKeyHandle result := rfl
        rw [hafter, hengages, hknown]
        exact hcounter
  | other hcall => simp

theorem counter_of_run_meets {token : Token} {first last : KeyRing}
    (hrun : Run (Meets token) first history last) :
    last.counter.toNat ≤ first.counter.toNat + history.countP engages := by
  induction hrun with
  | done ring => simp
  | @step first between last said rest hmeets _ ih =>
      have hstep := counter_of_meets hmeets
      rw [List.countP_cons]
      split at hstep <;> simp_all <;> omega

/-! What is submitted is good for one challenge and one page. -/

theorem session_of_acceptedBy {party : RelyingParty} {before : AccountStore} {id id' : String}
    {clientData : Bytes} (hsubmission : inquiry.submission? = some (clientData, id))
    (haccepted : inquiry.AcceptedBy party before id') :
    ∃ kind session data, before.waiting? kind id' = some session ∧
      Web.ClientData.parse clientData = .ok data ∧ party.Answers data kind session := by
  cases inquiry with
  | submitRegistration response now =>
      cases hsubmission
      obtain ⟨now', record, after, hleads⟩ := haccepted
      obtain ⟨session, registration, data, certified, hwaiting, hattested, _⟩ :=
        RelyingParty.leads_acceptRegistration_ok hleads
      exact ⟨_, session, data, hwaiting, hattested.parsed, hattested.answers⟩
  | submitSignature response =>
      cases hsubmission
      obtain ⟨record, after, hleads⟩ := haccepted
      obtain ⟨session, key, authentication, hchecked⟩ :=
        RelyingParty.leads_acceptSignature_ok hleads
      obtain ⟨data, publicKey, hsigned⟩ :=
        RelyingParty.readAuthentication_eq_ok_iff.1 hchecked.read
      exact ⟨_, session, data, hchecked.waiting, hsigned.parsed, hsigned.answers⟩
  | requestRegistration => cases hsubmission
  | requestSignatures => cases hsubmission
  | register => cases hsubmission
  | authenticate => cases hsubmission

/-- Whatever a client is told for a page, and whatever token it calls:

* each call of the token is for an application id that the page may use and signs client data of
  the operation, both out of one request of the protocol's version that was brought before the call;
* an authentication has one answer at most that is not an unknown handle, raises the counter by one
  at most and submits once at most;
* what is submitted is for the request that the token was called for, and under any session id a
  relying party takes it only where the session's challenge is that of the request, and the page is
  at one of its origins. -/
theorem calls_bound_to_page (client : Client) (account origin : String) (now : UInt64) :
    (∀ kind history inquiry next, (client.operation account origin now kind).After history
        (.ask inquiry next) → ∀ call, inquiry.call? = some call →
          call.kind = kind ∧ ∃ demand ∈ history.flatMap demandsOf, ∃ clientData,
            client.Binds origin demand clientData call) ∧
      (∀ history rest, (client.authenticate account origin).After history rest →
        history.countP engages ≤ 1 ∧ history.countP submits ≤ 1 ∧
          ∀ token first last, Run (Meets token) first history last →
            last.counter.toNat ≤ first.counter.toNat + 1) ∧
      ∀ kind history inquiry next, (client.operation account origin now kind).After history
        (.ask inquiry next) → ∀ clientData id, inquiry.submission? = some (clientData, id) →
          ∃ demand ∈ history.flatMap demandsOf, demand.sessionId = id ∧
            (∃ said ∈ history, ∃ call, said.question.call? = some call ∧ call.kind = kind ∧
              client.Binds origin demand clientData call) ∧
            ∀ (party : RelyingParty) before id', inquiry.AcceptedBy party before id' →
              ∃ session, before.session? id' = some session ∧
                session.challenge = demand.challenge ∧
                ∃ allowed ∈ party.allowedOrigins, originOf? origin = some allowed := by
  refine ⟨?_, ?_, ?_⟩
  · intro kind history inquiry next hasks call hcall
    cases serves_of_asks hasks with
    | request hnone => simp [hnone] at hcall
    | call hgiven _ hkind hdemand hbinds =>
        rw [hcall] at hgiven
        cases hgiven
        exact ⟨hkind, _, hdemand, _, hbinds⟩
    | submission hnone => simp [hnone] at hcall
  · intro history rest hafter
    obtain ⟨hengages, hsubmits⟩ := countP_authenticate hafter
    refine ⟨hengages, hsubmits, ?_⟩
    intro token first last hrun
    have hcounter := counter_of_run_meets hrun
    omega
  · intro kind history inquiry next hasks clientData id hsubmission
    cases serves_of_asks hasks with
    | request _ hnone => simp [hnone] at hsubmission
    | call _ hnone => simp [hnone] at hsubmission
    | @submission call demand clientData said _ hgiven hkind hdemand hbinds hsaid hcall =>
        rw [hsubmission] at hgiven
        cases hgiven
        refine ⟨demand, hdemand, rfl, ⟨said, hsaid, call, hcall, hkind, hbinds⟩, ?_⟩
        intro party before id' haccepted
        obtain ⟨_, session, data, hwaiting, hparsed, hanswers⟩ :=
          session_of_acceptedBy hsubmission haccepted
        obtain ⟨given, hgiven, _, hchallenge, rfl⟩ := hbinds.parsed
        rw [hparsed] at hgiven
        cases hgiven
        have hsame := hanswers.challenge
        rw [hchallenge] at hsame
        exact ⟨session, (AccountStore.waiting?_eq_some_iff.1 hwaiting).1,
          (Except.ok.inj hsame).symm, RelyingParty.allows_eq_true_iff.1 hanswers.origin⟩

/-! A request brought to a client for the key whose secret is one, and answered with its first
signature, which a party takes under an id of its own. -/

open RelyingParty (sampleParty sampleStore sampleHandle firstResponse)

def pageClient : Client := ⟨.standard, .any, none⟩

def pageRequest : Web.SignRequest :=
  ⟨"U2F_V2", [], "https://a.b", sampleHandle, "elsewhere"⟩

def pageAnswer : Raw.AuthenticationResponse := ⟨.confirmed, 1, firstResponse.signatureData.drop 5⟩

def pageHistory : List Said :=
  [⟨.requestSignatures "ann" "https://a.b", .ok [pageRequest]⟩,
    ⟨.authenticate (pageClient.signatureCall "https://a.b" pageRequest), .ok pageAnswer⟩]

def pageResponse : Web.SignResponse where
  keyHandle := sampleHandle
  signatureData := pageAnswer.encode
  clientData := pageClient.signatureData "https://a.b" pageRequest
  sessionId := "elsewhere"

theorem asks_pageHistory :
    (pageClient.operation "ann" "https://a.b" 0 .authentication).After pageHistory
      (.ask (.submitSignature pageResponse) .ofExcept) :=
  .there (.there (.here _))

theorem acceptedBy_pageResponse :
    (Inquiry.submitSignature pageResponse).AcceptedBy sampleParty sampleStore "first" := by
  have hsame : { pageResponse with sessionId := "first" } = firstResponse := by decide +kernel
  have hleads := RelyingParty.leads_firstResponse
  rw [← hsame] at hleads
  exact ⟨_, _, hleads⟩

theorem calls_bound_to_page_firstResponse :
    pageHistory.countP engages ≤ 1 ∧ ∃ session, sampleStore.session? "first" = some session ∧
      session.challenge = pageRequest.challenge ∧ originOf? "https://a.b" = some "https://a.b" := by
  obtain ⟨_, honce, hbound⟩ := calls_bound_to_page pageClient "ann" "https://a.b" 0
  obtain ⟨hengages, _⟩ := honce _ _ asks_pageHistory
  obtain ⟨demand, hdemand, _, _, hgood⟩ := hbound _ _ _ _ asks_pageHistory _ _ rfl
  obtain ⟨session, hsession, hchallenge, allowed, hallowed, horigin⟩ :=
    hgood _ _ _ acceptedBy_pageResponse
  rw [List.mem_singleton.1 hallowed] at horigin
  have hdemand : demand = .ofSign pageRequest := List.mem_singleton.1 hdemand
  rw [hdemand] at hchallenge
  exact ⟨hengages, session, hsession, hchallenge, horigin⟩

end SecondFactor.Client
