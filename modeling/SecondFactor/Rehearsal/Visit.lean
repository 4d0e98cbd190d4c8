import SecondFactor.Client.Agent
import SecondFactor.Rehearsal.World

/-!
A client between the relying party and a token. What it submits is kept, and the first answer it
gets may be another than the relying party's.
-/

namespace SecondFactor.Rehearsal

/-- What a client is told instead of what the relying party would say first. -/
inductive Script where
  | none
  | registerRequest (request : Web.RegisterRequest)
  | signRequests (requests : List Web.SignRequest)
  | failure (failure : Failure)

/-- What a client submits. -/
inductive Submission where
  | registration (response : Web.RegisterResponse)
  | signature (response : Web.SignResponse)
deriving DecidableEq, Repr

/-- A world with what a client has submitted in it, in order. -/
structure Visit where
  world : World
  sent : List Submission

namespace Visit

def onWorld {α : Type} (effect : Effect World α) : Effect Visit α :=
  Effect.within Visit.world (fun visit world => { visit with world }) effect

def send (submission : Submission) : Effect Visit Unit :=
  Effect.step fun visit => ((), { visit with sent := visit.sent ++ [submission] })

def requestRegistration (script : Script) (conditions : World.Conditions)
    (account appId : String) : Effect Visit (Except Failure Web.RegisterRequest) :=
  match script with
  | .registerRequest request => return .ok request
  | .failure failure => return .error failure
  | _ => onWorld <| World.withParty conditions fun _ =>
      RelyingParty.requestRegistration account appId

def requestSignatures (script : Script) (conditions : World.Conditions)
    (account appId : String) : Effect Visit (Except Failure (List Web.SignRequest)) :=
  match script with
  | .signRequests requests => return .ok requests
  | .failure failure => return .error failure
  | _ => onWorld <| World.withParty conditions fun _ =>
      RelyingParty.requestSignatures account appId

/-- The answers to a client that uses the token at an index. -/
def answer (script : Script) (conditions : World.Conditions) (index : Nat) :
    (inquiry : Client.Inquiry) → Effect Visit inquiry.Answer
  | .requestRegistration account appId => requestRegistration script conditions account appId
  | .submitRegistration response now => do
    send (.registration response)
    onWorld <| World.withParty conditions fun party => party.acceptRegistration response now
  | .requestSignatures account appId => requestSignatures script conditions account appId
  | .submitSignature response => do
    send (.signature response)
    onWorld <| World.withParty conditions fun party => party.acceptSignature response
  | .register request =>
    onWorld <| World.withToken conditions index fun token => token.register request
  | .authenticate request =>
    onWorld <| World.withToken conditions index fun token => token.authenticate request

end Visit

/-- Plays an operation of a client, and gives its result with what the client submitted. -/
def World.withClient (script : Script) (conditions : World.Conditions) (index : Nat)
    (operation : Client.Talk Web.Enrolment) :
    Effect World (Except Failure Web.Enrolment × List Submission) :=
  fun (world, around) => do
    let (result, visit, around) ←
      operation.run (Visit.answer script conditions index) (⟨world, []⟩, around)
    return ((result, visit.sent), visit.world, around)

end SecondFactor.Rehearsal
