import SecondFactor.RelyingParty.AccountStore
import SecondFactor.RelyingParty.Inquiry
import SecondFactor.Surroundings

/-!
The answers to a relying party whose store is in memory. Each answer is one indivisible step.
-/

namespace SecondFactor.RelyingParty

/-- Where challenges come from. -/
inductive ChallengeSource where
  | random
  /-- The challenge depends on the account and on nothing else. -/
  | fixed (challenge : String → Bytes)

/-- The number of random bytes in a challenge. -/
def challengeLength : Nat := 32

namespace Memory

def challenge (source : ChallengeSource) (account : String) (tape : Tape) :
    Option (Bytes × Tape) :=
  match source with
  | .random => (tape.draw challengeLength).map fun (block, rest) => (block.val, rest)
  | .fixed challenge => some (challenge account, tape)

/-- Draws an id, and opens a session under it. -/
def storeSession (session : Web.Session) : Effect AccountStore String := do
  let id ← Effect.draw AccountStore.drawId
  Effect.step fun store => (id, store.openSession id session)

def answer (source : ChallengeSource) :
    (inquiry : Inquiry) → Effect AccountStore inquiry.Answer
  | .storeSession session => do return .ok (← storeSession session)
  | .session id => Effect.read fun store => .ok (store.session? id)
  | .takeSession id => Effect.step fun store => (.ok (store.session? id), store.closeSession id)
  | .addKey account key => Effect.step fun store => (.ok (), store.addKey account key)
  | .keys account => Effect.read fun store => .ok (store.keys account)
  | .removeKey account publicKey => Effect.step fun store =>
      (.ok (store.hasKey account publicKey), store.removeKey account publicKey)
  | .raiseCounter account publicKey counter => Effect.step fun store =>
      store.raiseCounter account publicKey counter
  | .challenge account => Effect.draw fun _ => challenge source account
  | .warn warning => Effect.warn warning

end Memory

end SecondFactor.RelyingParty
