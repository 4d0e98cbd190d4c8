import SecondFactor.Proofs.PublicKey
import SecondFactor.Proofs.Token.Outcome
import SecondFactor.Proofs.Token.Requests

/-!
What an application can tell about the keys of others: nothing. Two rings with the same keys for one
application, and the same counter, let a token give the same answers to all requests for that
application, and still have the same keys for it afterwards (`served_alike`).
-/

namespace SecondFactor

/-- The rings have the same keys for the application, and the same counter. -/
structure KeyRing.Agree (application : Digest) (ring other : KeyRing) : Prop where
  keys : ∀ handle, ring.keyFor? application handle = other.keyFor? application handle
  counter : ring.counter = other.counter

namespace KeyRing

variable {application : Digest} {ring other : KeyRing}

/-- A key for the application comes into both, whatever each of them had under its handle. -/
theorem Agree.addKey (hagree : Agree application ring other) (handle : Bytes) (key : TokenKey) :
    Agree application (ring.addKey handle key) (other.addKey handle key) := by
  constructor
  · intro given
    rw [keyFor?, keyFor?, key?_addKey, key?_addKey]
    split
    · rfl
    · exact hagree.keys given
  · exact hagree.counter

theorem Agree.nextCounter (hagree : Agree application ring other) :
    ring.nextCounter.1 = other.nextCounter.1 ∧
      Agree application ring.nextCounter.2 other.nextCounter.2 := by
  by_cases hcounter : ring.counter.toNat + 1 < UInt32.size
  · rw [nextCounter_of_lt hcounter, nextCounter_of_lt (hagree.counter ▸ hcounter)]
    have hraised : ring.counter + 1 = other.counter + 1 := congrArg (· + 1) hagree.counter
    exact ⟨congrArg Except.ok hraised, hagree.keys, hraised⟩
  · rw [nextCounter_of_not_lt hcounter, nextCounter_of_not_lt (hagree.counter ▸ hcounter)]
    exact ⟨rfl, hagree⟩

end KeyRing

namespace Token

/-- Whatever the talk asks of a ring, it makes no difference to it whether there is a key of another
application than the one, or none. -/
inductive Discreet (application : Digest) {α : Type} : Talk α → Prop
  | done (value : α) : Discreet application (.done value)
  | fail (failure : Failure) : Discreet application (.fail failure)
  | presence {approval : Approval} {asked : Digest} {next : Raw.Presence → Talk α} :
      (∀ given, Discreet application (next given)) →
        Discreet application (.ask (.presence approval asked) next)
  | newKeyPair {next : KeyPair → Talk α} : (∀ given, Discreet application (next given)) →
      Discreet application (.ask .newKeyPair next)
  | keepKey {handle : Bytes} {key : TokenKey} {next : Except Failure Unit → Talk α} :
      (∀ given, Discreet application (next given)) →
        Discreet application (.ask (.keepKey handle key) next)
  | key {handle : Bytes} {next : Except Failure (Option TokenKey) → Talk α} :
      (∀ found : Option TokenKey,
        next (.ok found) = next (.ok (found.filter fun key => key.application = application))) →
        (∀ given, Discreet application (next given)) →
          Discreet application (.ask (.key handle) next)
  | nextCounter {next : Except Failure UInt32 → Talk α} :
      (∀ given, Discreet application (next given)) → Discreet application (.ask .nextCounter next)
  | warn {warning : Warning} {next : Unit → Talk α} : (∀ given, Discreet application (next given)) →
      Discreet application (.ask (.warn warning) next)

namespace Discreet

variable {application : Digest} {α β : Type}

theorem ofExcept (result : Except Failure α) :
    Discreet application (.ofExcept result : Talk α) := by
  cases result with
  | error failure => exact .fail failure
  | ok value => exact .done value

theorem bind {first : Talk α} {rest : α → Talk β} (hfirst : Discreet application first)
    (hrest : ∀ value, Discreet application (rest value)) :
    Discreet application (first >>= rest) := by
  induction hfirst with
  | done value => exact hrest value
  | fail failure => exact .fail failure
  | presence _ ih => exact .presence ih
  | newKeyPair _ ih => exact .newKeyPair ih
  | keepKey _ ih => exact .keepKey ih
  | key hblind _ ih => exact .key (fun found => congrArg (· >>= rest) (hblind found)) ih
  | nextCounter _ ih => exact .nextCounter ih
  | warn _ ih => exact .warn ih

theorem map (change : α → β) {talk : Talk α} (htalk : Discreet application talk) :
    Discreet application (change <$> talk) :=
  htalk.bind fun value => .done (change value)

theorem attempt {talk : Talk α} (htalk : Discreet application talk) :
    Discreet application talk.attempt := by
  induction htalk with
  | done value => exact .done (Except.ok value)
  | fail failure => exact .done (Except.error failure)
  | presence _ ih => exact .presence ih
  | newKeyPair _ ih => exact .newKeyPair ih
  | keepKey _ ih => exact .keepKey ih
  | key hblind _ ih => exact .key (fun found => congrArg Dialogue.attempt (hblind found)) ih
  | nextCounter _ ih => exact .nextCounter ih
  | warn _ ih => exact .warn ih

end Discreet

/-! The operations of a token are discreet. -/

variable {application : Digest} {token : Token}

theorem discreet_register (application : Digest) (token : Token)
    (request : Raw.RegistrationRequest) : Discreet application (token.register request) := by
  unfold register
  apply Discreet.bind (.presence fun presence => .done presence)
  intro presence
  split
  · exact .fail _
  apply Discreet.bind (.newKeyPair fun keyPair => .done keyPair)
  intro keyPair
  apply Discreet.bind (.keepKey .ofExcept)
  intro kept
  exact .done _

/-- The key of another application is dropped as soon as it is found. -/
theorem discreet_findKey (application : Digest) (handle : Bytes) :
    Discreet application (findKey application handle) := by
  rw [findKey_eq]
  apply Discreet.key
  · intro found
    change ownKey application handle found =
      ownKey application handle (found.filter fun key => key.application = application)
    simp only [ownKey, Option.filter_filter, Bool.and_self]
  · intro given
    apply (Discreet.ofExcept given).bind
    intro found
    unfold ownKey
    split
    · exact .done _
    · exact .warn fun _ => .fail _

theorem discreet_authenticate (token : Token) (request : Raw.AuthenticationRequest) :
    Discreet request.application (token.authenticate request) := by
  unfold authenticate
  apply (discreet_findKey request.application request.keyHandle).bind
  intro key
  split
  · exact .fail _
  apply Discreet.bind (.nextCounter .ofExcept)
  intro counter
  apply Discreet.bind (.presence fun presence => .done presence)
  intro presence
  split
  · exact .fail _
  · exact .done _

/-- If there is a challenge in it, it is one for the application. -/
def Request.Within (application : Digest) (request : Request) : Prop :=
  ∀ challenge, request.payload? = some (.authenticate challenge) →
    challenge.application = application

theorem discreet_perform (token : Token) {payload : Raw.Payload}
    (hwithin : ∀ challenge, payload = .authenticate challenge →
      challenge.application = application) : Discreet application (token.perform payload) := by
  cases payload with
  | register request =>
      apply (discreet_register application token request).bind
      intro response
      cases response.encode with
      | error fault => exact .fail _
      | ok bytes => exact .done _
  | authenticate request =>
      obtain rfl := hwithin request rfl
      apply (discreet_authenticate token request).bind
      intro response
      exact .done _
  | version => exact .done _

theorem discreet_talk (token : Token) {request : Request} (hwithin : request.Within application) :
    Discreet application (request.talk token) := by
  cases request with
  | register request => exact (discreet_register application token request).attempt.map _
  | authenticate request =>
      obtain rfl := hwithin request rfl
      exact (discreet_authenticate token request).attempt.map _
  | respond command =>
      apply Discreet.map
      apply Discreet.attempt
      unfold respond
      cases hdecode : Raw.Command.decode command with
      | error status => exact .warn fun _ => .done _
      | ok decoded =>
          apply Discreet.map
          apply Discreet.attempt
          apply discreet_perform
          intro challenge hpayload
          apply hwithin challenge
          rw [Request.payload?, hdecode, ← hpayload]
          rfl

/-! Two runs side by side. -/

/-- The outcomes have the same value and the same surroundings, and rings that agree, or there is
neither. -/
def Alike {α : Type} (application : Digest) (outcome other : Option (α × KeyRing × Surroundings)) :
    Prop :=
  (outcome = none ∧ other = none) ∨ ∃ value ring ring' left, outcome = some (value, ring, left) ∧
    other = some (value, ring', left) ∧ KeyRing.Agree application ring ring'

namespace Alike

variable {α β : Type} {ring other : KeyRing}
  {outcome outcome' : Option (α × KeyRing × Surroundings)}

theorem of_agree (hagree : KeyRing.Agree application ring other) (value : α)
    (left : Surroundings) :
    Alike application (some (value, ring, left)) (some (value, other, left)) :=
  Or.inr ⟨value, ring, other, left, rfl, rfl, hagree⟩

theorem bind {next : α × KeyRing × Surroundings → Option (β × KeyRing × Surroundings)}
    (halike : Alike application outcome outcome')
    (hnext : ∀ value ring ring' left, KeyRing.Agree application ring ring' →
      Alike application (next (value, ring, left)) (next (value, ring', left))) :
    Alike application (outcome.bind next) (outcome'.bind next) := by
  rcases halike with ⟨rfl, rfl⟩ | ⟨value, ring, ring', left, rfl, rfl, hagree⟩
  · exact Or.inl ⟨rfl, rfl⟩
  · exact hnext value ring ring' left hagree

end Alike

theorem alike_newKeyPair {ring other : KeyRing} (suite : Suite) (sensor : Sensor)
    (hagree : KeyRing.Agree application ring other) (around : Surroundings) :
    Alike application (Memory.answer suite sensor .newKeyPair (ring, around))
      (Memory.answer suite sensor .newKeyPair (other, around)) := by
  change Alike application ((Tape.drawKeyPair suite around.tape).bind _)
    ((Tape.drawKeyPair suite around.tape).bind _)
  cases Tape.drawKeyPair suite around.tape with
  | none => exact Or.inl ⟨rfl, rfl⟩
  | some drawn => exact .of_agree hagree _ _

/-- Over rings that agree, a discreet talk says the same, and leaves rings that agree. -/
theorem Discreet.run_alike {α : Type} {talk : Talk α} {ring other : KeyRing}
    (htalk : Discreet application talk) (suite : Suite) (sensor : Sensor)
    (hagree : KeyRing.Agree application ring other) (around : Surroundings) :
    Alike application (talk.run (Memory.answer suite sensor) (ring, around))
      (talk.run (Memory.answer suite sensor) (other, around)) := by
  induction htalk generalizing ring other around with
  | done value => exact .of_agree hagree _ around
  | fail failure => exact .of_agree hagree _ around
  | presence _ ih => exact ih _ hagree _
  | newKeyPair _ ih =>
      apply (alike_newKeyPair suite sensor hagree around).bind
      intro keyPair ring ring' left hleft
      exact ih keyPair hleft left
  | keepKey _ ih => exact ih _ (hagree.addKey _ _) _
  | @key handle next hblind _ ih =>
      change Alike application
        ((next (.ok (ring.key? handle))).run (Memory.answer suite sensor) (ring, around))
        ((next (.ok (other.key? handle))).run (Memory.answer suite sensor) (other, around))
      rw [hblind (ring.key? handle), hblind (other.key? handle), ← KeyRing.keyFor?,
        ← KeyRing.keyFor?, hagree.keys handle]
      exact ih _ hagree around
  | @nextCounter next _ ih =>
      obtain ⟨hvalue, hleft⟩ := hagree.nextCounter
      change Alike application
        ((next ring.nextCounter.1).run (Memory.answer suite sensor)
          (ring.nextCounter.2, around))
        ((next other.nextCounter.1).run (Memory.answer suite sensor)
          (other.nextCounter.2, around))
      rw [← hvalue]
      exact ih _ hleft around
  | warn _ ih => exact ih _ hagree _

/-- Serves requests one after the other, each with what its user does, from one tape. -/
def serve (token : Token) : List (Sensor × Request) → Effect KeyRing (List (Except Failure Call))
  | [] => pure []
  | (sensor, request) :: rest => do
    let answer ← (request.talk token).run (Memory.answer token.suite sensor)
    let answers ← serve token rest
    return answer :: answers

/-- Requests for one application are answered alike, whatever keys there are for others: with the
same answers, in the same surroundings, and with rings that agree again at the end. -/
theorem served_alike {requests : List (Sensor × Request)} {ring other : KeyRing}
    (hwithin : ∀ served ∈ requests, served.2.Within application)
    (hagree : KeyRing.Agree application ring other) (around : Surroundings) :
    Alike application (serve token requests (ring, around))
      (serve token requests (other, around)) := by
  induction requests generalizing ring other around with
  | nil => exact .of_agree hagree [] around
  | cons served rest ih =>
      obtain ⟨sensor, request⟩ := served
      obtain ⟨hfirst, hrest⟩ := List.forall_mem_cons.1 hwithin
      have htalk := (discreet_talk token hfirst).run_alike token.suite sensor hagree around
      apply htalk.bind
      intro answer ring ring' left hleft
      apply (ih hrest hleft left).bind
      intro answers ring ring' left hleft
      exact .of_agree hleft (answer :: answers) left

/-! A ring with a key of another application, and one without. -/

def plainToken : Token := ⟨.standard, ⟨[], KeyPair.base⟩, blockOfNat 32 0⟩

def foreignRing : KeyRing := (KeyRing.ofCounter 7).addKey [0x01] ⟨blockOfNat 32 1, KeyPair.base⟩

/-- A check of the handle, a challenge for it, and a new key. -/
def probes : List (Sensor × Request) :=
  [(.absent, .authenticate ⟨.checkOnly, blockOfNat 32 0, blockOfNat 32 0, [0x01]⟩),
    (.absent, .authenticate ⟨.withoutPresence, blockOfNat 32 0, blockOfNat 32 0, [0x01]⟩),
    (⟨.confirmed, .absent⟩, .register ⟨blockOfNat 32 0, blockOfNat 32 0⟩)]

theorem within_probes : ∀ served ∈ probes, served.2.Within (blockOfNat 32 0) := by
  intro served hserved challenge hpayload
  simp only [probes, List.mem_cons, List.not_mem_nil, or_false] at hserved
  rcases hserved with rfl | rfl | rfl <;> cases hpayload <;> rfl

theorem agree_foreignRing : KeyRing.Agree (blockOfNat 32 0) foreignRing (.ofCounter 7) := by
  have hforeign : blockOfNat 32 1 ≠ blockOfNat 32 0 := by decide
  constructor
  · intro handle
    rw [KeyRing.keyFor?, foreignRing, KeyRing.key?_addKey]
    split
    · rw [Option.filter_some, if_neg (by simpa using hforeign)]
      rfl
    · rfl
  · rfl

theorem served_alike_probes : ∃ answers ring ring' left,
    serve plainToken probes (foreignRing, .ofTape (bytesOfNat 32 1)) = some (answers, ring, left) ∧
      serve plainToken probes (.ofCounter 7, .ofTape (bytesOfNat 32 1)) =
        some (answers, ring', left) ∧
      KeyRing.Agree (blockOfNat 32 0) ring ring' := by
  have hserved : (serve plainToken probes (foreignRing, .ofTape (bytesOfNat 32 1))).isSome := by
    decide +kernel
  have halike : Alike (blockOfNat 32 0)
      (serve plainToken probes (foreignRing, .ofTape (bytesOfNat 32 1)))
      (serve plainToken probes (.ofCounter 7, .ofTape (bytesOfNat 32 1))) :=
    served_alike within_probes agree_foreignRing _
  rcases halike with ⟨hnone, _⟩ | hsome
  · rw [hnone] at hserved
    contradiction
  · exact hsome

end Token

end SecondFactor
