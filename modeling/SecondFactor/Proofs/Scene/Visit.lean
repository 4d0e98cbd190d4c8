import SecondFactor.Proofs.Bytes.Base64
import SecondFactor.Proofs.Client.Questions
import SecondFactor.Proofs.Raw.RoundTrip
import SecondFactor.Proofs.RelyingParty.Acceptance
import SecondFactor.Proofs.Scene
import SecondFactor.Proofs.Web.ClientData

/-!
Visits to a scene: a client between the party and a token. Each question of the client is one call
of the party or of the token, and a chronicle keeps the calls with the scene they led to, so that
a visit makes its chronicle longer by steps of the scene, `Visitor.run_visit`.
-/

namespace SecondFactor

/-- What the key pair signs is framed as a signature, and is good under its public key. -/
structure Suite.Vouches (suite : Suite) (keyPair : KeyPair) (message : Bytes) : Prop where
  framed : Raw.IsSequence (suite.sign keyPair message)
  verified : suite.verify keyPair.publicKey message (suite.sign keyPair message) = true

namespace Scene

/-- A scene, and the calls that led to it. -/
structure Chronicle where
  scene : Scene
  calls : List Moment

namespace Chronicle

def addParty (chronicle : Chronicle) (moment : RelyingParty.Moment) : Chronicle where
  scene := { chronicle.scene with accounts := moment.after }
  calls := chronicle.calls ++ [.party moment]

def addToken (chronicle : Chronicle) (ring : Nat) (moment : Token.Moment) : Chronicle where
  scene :=
    { chronicle.scene with rings := Function.update chronicle.scene.rings ring moment.after }
  calls := chronicle.calls ++ [.token ring moment]

/-- A call of the party, which `event` names with its result. -/
def callParty {α : Type} (source : RelyingParty.ChallengeSource)
    (event : Except Failure α → RelyingParty.Event) (talk : RelyingParty.Talk α) :
    Effect Chronicle (Except Failure α) := fun (chronicle, around) =>
  (talk.run (RelyingParty.Memory.answer source) (chronicle.scene.accounts, around)).map
    fun (result, accounts, left) =>
      (result, chronicle.addParty ⟨chronicle.scene.accounts, event result, accounts⟩, left)

/-- A call of a token over one of the rings. -/
def callToken {α : Type} (token : Token) (sensor : Token.Sensor) (ring : Nat)
    (call : Except Failure α → Token.Call) (talk : Token.Talk α) :
    Effect Chronicle (Except Failure α) := fun (chronicle, around) =>
  (talk.run (Token.Memory.answer token.suite sensor) (chronicle.scene.rings ring, around)).map
    fun (result, after, left) =>
      (result, chronicle.addToken ring
        ⟨token, sensor, around, chronicle.scene.rings ring, call result, after⟩, left)

end Chronicle

/-- A client, and the token its user has, with the ring that token keeps its keys in. -/
structure Visitor where
  client : Client
  token : Token
  sensor : Token.Sensor
  ring : Nat

namespace Visitor

open Chronicle (callParty callToken)

/-- The answers to the client of a visitor. -/
def answer (visitor : Visitor) (party : RelyingParty) (source : RelyingParty.ChallengeSource) :
    (inquiry : Client.Inquiry) → Effect Chronicle inquiry.Answer
  | .requestRegistration account appId => callParty source (.requestRegistration account appId)
      (RelyingParty.requestRegistration account appId)
  | .submitRegistration response now => callParty source (.acceptRegistration response now)
      (party.acceptRegistration response now)
  | .requestSignatures account appId => callParty source (.requestSignatures account appId)
      (RelyingParty.requestSignatures account appId)
  | .submitSignature response => callParty source (.acceptSignature response)
      (party.acceptSignature response)
  | .register request => callToken visitor.token visitor.sensor visitor.ring (.register request)
      (visitor.token.register request)
  | .authenticate request => callToken visitor.token visitor.sensor visitor.ring
      (.authenticate request) (visitor.token.authenticate request)

/-- What comes of an operation of the client. -/
def visit (visitor : Visitor) (party : RelyingParty) (source : RelyingParty.ChallengeSource)
    (talk : Client.Talk Web.Enrolment) : Effect Chronicle (Except Failure Web.Enrolment) :=
  talk.run (visitor.answer party source)

end Visitor

variable {party : RelyingParty} {visitor : Visitor} {source : RelyingParty.ChallengeSource}
  {before after : Chronicle} {around left : Surroundings}

namespace Chronicle

variable {α : Type} {result : Except Failure α}

theorem callParty_eq_some_iff {event : Except Failure α → RelyingParty.Event}
    {talk : RelyingParty.Talk α} :
    callParty source event talk (before, around) = some (result, after, left) ↔
      ∃ accounts, talk.run (RelyingParty.Memory.answer source) (before.scene.accounts, around) =
        some (result, accounts, left) ∧
          after = before.addParty ⟨before.scene.accounts, event result, accounts⟩ := by
  constructor
  · intro hcall
    obtain ⟨⟨_, accounts, _⟩, hrun, hresult⟩ := Option.map_eq_some_iff.1 hcall
    cases hresult
    exact ⟨accounts, hrun, rfl⟩
  · rintro ⟨accounts, hrun, rfl⟩
    exact Option.map_eq_some_iff.2 ⟨_, hrun, rfl⟩

theorem callToken_eq_some_iff {token : Token} {sensor : Token.Sensor} {ring : Nat}
    {call : Except Failure α → Token.Call} {talk : Token.Talk α} :
    callToken token sensor ring call talk (before, around) = some (result, after, left) ↔
      ∃ changed, talk.run (Token.Memory.answer token.suite sensor)
        (before.scene.rings ring, around) = some (result, changed, left) ∧
          after = before.addToken ring
            ⟨token, sensor, around, before.scene.rings ring, call result, changed⟩ := by
  constructor
  · intro hcall
    obtain ⟨⟨_, changed, _⟩, hrun, hresult⟩ := Option.map_eq_some_iff.1 hcall
    cases hresult
    exact ⟨changed, hrun, rfl⟩
  · rintro ⟨changed, hrun, rfl⟩
    exact Option.map_eq_some_iff.2 ⟨_, hrun, rfl⟩

theorem step_callParty (event : Except Failure α → RelyingParty.Event)
    (talk : RelyingParty.Talk α)
    (hevent : ∀ result first last, talk.Ends first result last →
      (event result).Leads party first last)
    (hcall : callParty source event talk (before, around) = some (result, after, left)) :
    ∃ moment, after.calls = before.calls ++ [moment] ∧
      Scene.Step party before.scene moment after.scene := by
  obtain ⟨accounts, hrun, rfl⟩ := callParty_eq_some_iff.1 hcall
  exact ⟨_, rfl, .party (.call _ (hevent _ _ _ (RelyingParty.Talk.ends_of_run hrun)))⟩

theorem step_callToken {token : Token} {sensor : Token.Sensor} {ring : Nat}
    (call : Except Failure α → Token.Call) (talk : Token.Talk α)
    (hsuite : token.suite = party.suite)
    (hhappens : ∀ (moment : Token.Moment) result, moment.token = token →
      moment.call = call result → moment.Ends talk result → moment.Happens)
    (hcall : callToken token sensor ring call talk (before, around) =
      some (result, after, left)) :
    ∃ moment, after.calls = before.calls ++ [moment] ∧
      Scene.Step party before.scene moment after.scene := by
  obtain ⟨changed, hrun, rfl⟩ := callToken_eq_some_iff.1 hcall
  exact ⟨_, rfl, .token hsuite rfl (hhappens _ _ rfl rfl ⟨_, hrun⟩)⟩

end Chronicle

namespace Visitor

open Chronicle (callParty callToken step_callParty step_callToken)

/-! Each question of a client is one call. -/

theorem run_requestRegistration (account appId : String) (state : Chronicle × Surroundings) :
    (Client.Talk.requestRegistration account appId).run (visitor.answer party source) state =
      callParty source (.requestRegistration account appId)
        (RelyingParty.requestRegistration account appId) state :=
  Dialogue.bind_run_ofExcept _

theorem run_submitRegistration (response : Web.RegisterResponse) (now : UInt64)
    (state : Chronicle × Surroundings) :
    (Client.Talk.submitRegistration response now).run (visitor.answer party source) state =
      callParty source (.acceptRegistration response now)
        (party.acceptRegistration response now) state :=
  Dialogue.bind_run_ofExcept _

theorem run_requestSignatures (account appId : String) (state : Chronicle × Surroundings) :
    (Client.Talk.requestSignatures account appId).run (visitor.answer party source) state =
      callParty source (.requestSignatures account appId)
        (RelyingParty.requestSignatures account appId) state :=
  Dialogue.bind_run_ofExcept _

theorem run_submitSignature (response : Web.SignResponse) (state : Chronicle × Surroundings) :
    (Client.Talk.submitSignature response).run (visitor.answer party source) state =
      callParty source (.acceptSignature response) (party.acceptSignature response) state :=
  Dialogue.bind_run_ofExcept _

theorem run_register (request : Raw.RegistrationRequest) (state : Chronicle × Surroundings) :
    (Client.Talk.register request).run (visitor.answer party source) state =
      callToken visitor.token visitor.sensor visitor.ring (.register request)
        (visitor.token.register request) state :=
  Dialogue.bind_run_ofExcept _

/-- The answer of the token is a result that can be looked at. -/
theorem run_authenticate (request : Raw.AuthenticationRequest)
    (state : Chronicle × Surroundings) :
    (Client.Talk.authenticate request).run (visitor.answer party source) state =
      (callToken visitor.token visitor.sensor visitor.ring (.authenticate request)
        (visitor.token.authenticate request) state).map fun (given, after) => (.ok given, after) :=
  (Option.map_eq_bind ..).symm

/-- Each question of a client is one step of the scene. -/
theorem step_answer (hsuite : visitor.token.suite = party.suite) (inquiry : Client.Inquiry)
    {given : inquiry.Answer}
    (hanswer : visitor.answer party source inquiry (before, around) = some (given, after, left)) :
    ∃ moment, after.calls = before.calls ++ [moment] ∧
      Scene.Step party before.scene moment after.scene := by
  cases inquiry with
  | requestRegistration account appId =>
      exact step_callParty (.requestRegistration account appId) _ (fun _ _ _ hends => hends) hanswer
  | submitRegistration response now =>
      exact step_callParty (.acceptRegistration response now) _ (fun _ _ _ hends => hends) hanswer
  | requestSignatures account appId =>
      exact step_callParty (.requestSignatures account appId) _ (fun _ _ _ hends => hends) hanswer
  | submitSignature response =>
      exact step_callParty (.acceptSignature response) _ (fun _ _ _ hends => hends) hanswer
  | register request =>
      refine step_callToken (.register request) _ hsuite ?_ hanswer
      intro moment result htoken hcall hends
      rw [Token.Moment.Happens, hcall, htoken]
      exact hends
  | authenticate request =>
      refine step_callToken (.authenticate request) _ hsuite ?_ hanswer
      intro moment result htoken hcall hends
      rw [Token.Moment.Happens, hcall, htoken]
      exact hends

theorem run_answered (hsuite : visitor.token.suite = party.suite) {history : List Client.Said}
    {first last : Chronicle × Surroundings}
    (hrun : Run (Dialogue.Answered (visitor.answer party source)) first history last) :
    ∃ calls, last.1.calls = first.1.calls ++ calls ∧
      Run (Scene.Step party) first.1.scene calls last.1.scene := by
  induction hrun with
  | done state => exact ⟨[], (List.append_nil _).symm, .done _⟩
  | step hanswered _ ih =>
      obtain ⟨moment, hcalls, hstep⟩ := step_answer hsuite _ hanswered
      obtain ⟨calls, hlast, hrest⟩ := ih
      rw [hcalls, List.append_assoc] at hlast
      exact ⟨moment :: calls, hlast, .step hstep hrest⟩

/-- A visit adds its calls to the chronicle, and they lead from the scene it met to the scene it
left. -/
theorem run_visit (hsuite : visitor.token.suite = party.suite)
    {talk : Client.Talk Web.Enrolment} {result : Except Failure Web.Enrolment}
    (hvisit : visitor.visit party source talk (before, around) = some (result, after, left)) :
    ∃ calls, after.calls = before.calls ++ calls ∧
      Run (Scene.Step party) before.scene calls after.scene := by
  obtain ⟨history, _, hhistory⟩ := (Dialogue.run_eq_some_iff _).1 hvisit
  exact run_answered hsuite hhistory

/-! Honest visitors. -/

/-- A visitor at a page that the party allows, with a token that it trusts. Everyone computes with
the suite of the party. -/
structure Honest (party : RelyingParty) (origin : String) (visitor : Visitor) : Prop where
  client : visitor.client.suite = party.suite
  token : visitor.token.suite = party.suite
  checked : visitor.client.check origin origin = .ok ()
  allowed : party.allows origin = true
  certified : Certificate.publicKey? visitor.token.attestation.certificate =
    some visitor.token.attestation.keyPair.publicKey
  whole : Certificate.lengthAt? visitor.token.attestation.certificate =
    some visitor.token.attestation.certificate.length
  trusted : party.trusted.trusts party.suite visitor.token.attestation.certificate ∨
    party.policy = .warn

variable {origin : String}

theorem Honest.answers (honest : visitor.Honest party origin) (session : Web.Session)
    (kind : Web.ClientDataKind) :
    party.Answers (visitor.client.clientData kind session.challenge origin) kind session where
  kind := rfl
  challenge := by
    simp only [Web.ClientData.decodedChallenge, Client.clientData, Base64.decode?_encode]
  origin := honest.allowed

end Visitor

end Scene

end SecondFactor
