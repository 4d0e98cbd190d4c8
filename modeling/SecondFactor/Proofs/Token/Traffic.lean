import SecondFactor.Proofs.Token.Outcome
import SecondFactor.Proofs.Token.Requests
import SecondFactor.Proofs.Traffic

/-!
Calls of tokens under way at once over one ring in memory, and what each answer does to the ring.
-/

namespace SecondFactor.Token

/-- What a ring in memory lets a token be answered, and what becomes of the ring. -/
inductive Memory.Replies (ring : KeyRing) : (inquiry : Inquiry) → inquiry.Answer → KeyRing → Prop
  | presence (approval : Approval) (application : Digest) (presence : Raw.Presence) :
      Replies ring (.presence approval application) presence ring
  | newKeyPair (keyPair : KeyPair) : Replies ring .newKeyPair keyPair ring
  | keepKey (handle : Bytes) (key : TokenKey) :
      Replies ring (.keepKey handle key) (.ok ()) (ring.addKey handle key)
  | key (handle : Bytes) : Replies ring (.key handle) (.ok (ring.key? handle)) ring
  | raised : ring.counter.toNat + 1 < UInt32.size →
      Replies ring .nextCounter (.ok (ring.counter + 1))
        { ring with counter := ring.counter + 1 }
  | exhausted : ¬ ring.counter.toNat + 1 < UInt32.size →
      Replies ring .nextCounter (.error (.storage "counter exhausted")) ring
  | warn (warning : Warning) : Replies ring (.warn warning) () ring

theorem Memory.replies_of_answer {suite : Suite} {sensor : Sensor} {inquiry : Inquiry}
    {ring after : KeyRing} {around left : Surroundings} {given : inquiry.Answer}
    (hanswer : answer suite sensor inquiry (ring, around) = some (given, after, left)) :
    Replies ring inquiry given after := by
  cases inquiry with
  | presence approval application =>
      cases hanswer
      exact .presence approval application _
  | newKeyPair =>
      obtain ⟨⟨keyPair, tape⟩, _, hdrawn⟩ := Option.bind_eq_some_iff.1 hanswer
      cases hdrawn
      exact .newKeyPair _
  | keepKey handle key =>
      cases hanswer
      exact .keepKey handle key
  | key handle =>
      cases hanswer
      exact .key handle
  | nextCounter =>
      change some (ring.nextCounter.1, ring.nextCounter.2, around) = _ at hanswer
      by_cases hcounter : ring.counter.toNat + 1 < UInt32.size
      · rw [KeyRing.nextCounter_of_lt hcounter] at hanswer
        cases hanswer
        exact .raised hcounter
      · rw [KeyRing.nextCounter_of_not_lt hcounter] at hanswer
        cases hanswer
        exact .exhausted hcounter
  | warn warning =>
      cases hanswer
      exact .warn warning

/-- What was said to the token of one of `n` callers. -/
abbrev Access (n : Nat) := SecondFactor.Access Inquiry Inquiry.Answer n

/-- Calls under way, and the ring that their tokens share. -/
abbrev Traffic (n : Nat) := SecondFactor.Traffic Inquiry Inquiry.Answer KeyRing Call n

namespace Traffic

variable {n : Nat}

/-- Calls of which none has asked anything yet. The callers may have one token or several. -/
def ofRequests (tokens : Fin n → Token) (requests : Fin n → Request) (ring : KeyRing) :
    Traffic n :=
  ⟨ring, fun caller => (requests caller).talk (tokens caller)⟩

/-- Any one of the calls has its next question answered by the ring. Its user may do anything. -/
abbrev Step (tokens : Fin n → Token) : Traffic n → Access n → Traffic n → Prop :=
  SecondFactor.Traffic.Step fun caller sensor => Memory.answer (tokens caller).suite sensor

end Traffic

variable {n : Nat} {tokens : Fin n → Token} {first last before after : Traffic n}
  {accesses : List (Access n)} {access : Access n} {caller : Fin n}

theorem Traffic.Step.replies (hstep : Step tokens before access after) :
    Memory.Replies before.state access.exchange.question access.exchange.answer after.state := by
  obtain ⟨sensor, around, left, hanswer⟩ := hstep.answered
  exact Memory.replies_of_answer hanswer

end SecondFactor.Token
