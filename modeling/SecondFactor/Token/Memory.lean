import SecondFactor.Token.Inquiry

/-!
The answers to a token whose store is in memory, and whose user always does the same. Each answer
is one indivisible step.
-/

namespace SecondFactor.Token

/-- The flags a user's reaction to each request sets. -/
structure Sensor where
  registration : Raw.Presence
  authentication : Raw.Presence
deriving DecidableEq, Repr

namespace Sensor

/-- No user is there. -/
def absent : Sensor := ⟨.absent, .absent⟩

def presence (sensor : Sensor) : Approval → Raw.Presence
  | .registration => sensor.registration
  | .authentication => sensor.authentication

end Sensor

namespace Memory

def ask (sensor : Sensor) (approval : Approval) (application : Digest) :
    Effect KeyRing Raw.Presence := fun (store, around) =>
  some (sensor.presence approval, store, around.ask approval application)

def answer (suite : Suite) (sensor : Sensor) :
    (inquiry : Inquiry) → Effect KeyRing inquiry.Answer
  | .presence approval application => ask sensor approval application
  | .newKeyPair => Effect.draw fun _ => Tape.drawKeyPair suite
  | .keepKey handle key => Effect.step fun store => (.ok (), store.addKey handle key)
  | .key handle => Effect.read fun store => .ok (store.key? handle)
  | .nextCounter => Effect.step KeyRing.nextCounter
  | .warn warning => Effect.warn warning

end Memory

end SecondFactor.Token
