import SecondFactor.RelyingParty.Inquiry
import SecondFactor.Surroundings
import SecondFactor.Token.Inquiry

/-!
Stores that fail on purpose. A call that is made to fail does nothing else.
-/

namespace SecondFactor.Rehearsal

/-- The calls that can be made to fail, on the store of a relying party and on that of a token. -/
inductive StoreCall where
  | storeSession
  | session
  | takeSession
  | addKey
  | keys
  | removeKey
  | raiseCounter
  | storeTokenKey
  | tokenKey
  | nextCounter
deriving DecidableEq, Repr

structure Faults where
  /-- Calls that fail, each with the reason it gives. -/
  reasons : List (StoreCall × String)
  /-- Whether a session that is taken is lost on the way. -/
  losesSession : Bool
deriving Repr

namespace Faults

def none : Faults := ⟨[], false⟩

/-- The failure of a call, if it is made to fail. -/
def failure? (faults : Faults) (call : StoreCall) : Option Failure :=
  (faults.reasons.lookup call).map .storage

/-- Answers as if a call did nothing but fail, or else as usual. -/
def guarded {σ α : Type} (faults : Faults) (call : StoreCall)
    (usual : Effect σ (Except Failure α)) : Effect σ (Except Failure α) :=
  match faults.failure? call with
  | some failure => return .error failure
  | Option.none => usual

/-- A session that is taken, or lost. -/
def taken {σ α : Type} (faults : Faults) (usual : Effect σ (Except Failure (Option α))) :
    Effect σ (Except Failure (Option α)) := do
  let result ← usual
  if faults.losesSession then return .ok Option.none else return result

/-- The answers to a relying party, with faults. -/
def answerParty {σ : Type} (faults : Faults)
    (usual : (inquiry : RelyingParty.Inquiry) → Effect σ inquiry.Answer) :
    (inquiry : RelyingParty.Inquiry) → Effect σ inquiry.Answer
  | .storeSession session => faults.guarded .storeSession (usual (.storeSession session))
  | .session id => faults.guarded .session (usual (.session id))
  | .takeSession id => faults.guarded .takeSession (faults.taken (usual (.takeSession id)))
  | .addKey account key => faults.guarded .addKey (usual (.addKey account key))
  | .keys account => faults.guarded .keys (usual (.keys account))
  | .removeKey account publicKey =>
    faults.guarded .removeKey (usual (.removeKey account publicKey))
  | .raiseCounter account publicKey counter =>
    faults.guarded .raiseCounter (usual (.raiseCounter account publicKey counter))
  | .challenge account => usual (.challenge account)
  | .warn warning => usual (.warn warning)

/-- The answers to a token, with faults. -/
def answerToken {σ : Type} (faults : Faults)
    (usual : (inquiry : Token.Inquiry) → Effect σ inquiry.Answer) :
    (inquiry : Token.Inquiry) → Effect σ inquiry.Answer
  | .presence approval application => usual (.presence approval application)
  | .newKeyPair => usual .newKeyPair
  | .keepKey handle key => faults.guarded .storeTokenKey (usual (.keepKey handle key))
  | .key handle => faults.guarded .tokenKey (usual (.key handle))
  | .nextCounter => faults.guarded .nextCounter (usual .nextCounter)
  | .warn warning => usual (.warn warning)

end Faults

end SecondFactor.Rehearsal
