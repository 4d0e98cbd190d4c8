import SecondFactor.Proofs.Exchange
import SecondFactor.Proofs.Raw.SignedBytes
import SecondFactor.Proofs.Token.Calls

/-!
What callers have tokens do, directly or by command, as dialogues that end in the finished call.
From what such a call returns, even from the bytes that answer a command, the counter of a signature
can be read, and whether the user was missed.
-/

namespace SecondFactor

namespace Dialogue

variable {Question : Type} {Answer : Question → Type} {α β : Type}

theorem attempt_map (change : α → β) (dialogue : Dialogue Question Answer α) :
    (change <$> dialogue).attempt = Except.map change <$> dialogue.attempt := by
  induction dialogue with
  | done value => rfl
  | fail failure => rfl
  | ask question next ih => exact congrArg (ask question) (funext ih)

theorem attempt_map_attempt (change : Except Failure α → β)
    (dialogue : Dialogue Question Answer α) :
    (change <$> dialogue.attempt).attempt =
      (fun result => .ok (change result)) <$> dialogue.attempt := by
  induction dialogue with
  | done value => rfl
  | fail failure => rfl
  | ask question next ih => exact congrArg (ask question) (funext ih)

end Dialogue

namespace Raw

theorem AuthenticationResponse.counter_eq_of_encode_eq {response other : AuthenticationResponse}
    (h : response.encode = other.encode) : response.counter = other.counter := by
  have hrest := List.tail_eq_of_cons_eq h
  have hlength : (counterBytes response.counter).length = (counterBytes other.counter).length := by
    rw [length_counterBytes, length_counterBytes]
  exact counterBytes_injective (List.append_inj hrest hlength).1

/-- Only for want of a user is a command answered that a condition is not satisfied. -/
theorem StatusWord.eq_of_ofFailure_eq_conditions {failure : Failure}
    (h : ofFailure failure = .conditionsNotSatisfied) :
    failure = .presenceDenied ∨ failure = .presenceTestRequired := by
  unfold ofFailure at h
  split at h
  · exact Or.inl rfl
  · exact Or.inr rfl
  all_goals contradiction

end Raw

namespace Token

/-- What was said to a token, and what it had asked. -/
abbrev Said := Exchange Inquiry Inquiry.Answer

/-- What an operation goes on with when it has looked for a key. -/
def ownKey (application : Digest) (handle : Bytes) (found : Option TokenKey) : Talk TokenKey :=
  match found.filter fun key => key.application = application with
  | some key => return key
  | none => do
    Talk.warn (.unknownKeyHandle handle)
    Dialogue.fail .unknownKeyHandle

theorem findKey_eq (application : Digest) (handle : Bytes) :
    findKey application handle = Talk.key? handle >>= ownKey application handle :=
  rfl

/-- A call that has not begun. -/
inductive Request where
  | register (request : Raw.RegistrationRequest)
  | authenticate (request : Raw.AuthenticationRequest)
  | respond (command : Bytes)

/-- What a request has the token do, unless it is a command that means nothing. -/
def Request.payload? : Request → Option Raw.Payload
  | .register request => some (.register request)
  | .authenticate request => some (.authenticate request)
  | .respond command => (Raw.Command.decode command).toOption.map Raw.Command.payload

/-- The call up to its end. It does not fail, but reports a failure. -/
def Request.talk (token : Token) : Request → Talk Call
  | .register request => Call.register request <$> (token.register request).attempt
  | .authenticate request => Call.authenticate request <$> (token.authenticate request).attempt
  | .respond command => Call.respond command <$> (token.respond command).attempt

/-- The call returns the result of an authentication, as it is or as the answer to a command. -/
def Call.Returns (result : Except Failure Raw.AuthenticationResponse) : Call → Prop
  | .register .. => False
  | .authenticate _ given => given = result
  | .respond _ given => given = .ok (answerBytes (result.map Raw.AuthenticationResponse.encode))

variable {call : Call} {result : Except Failure Raw.AuthenticationResponse}

/-- A call with a challenge to sign is the authentication, and returns its result. -/
theorem Request.exists_talk_eq (token : Token) {request : Request}
    {challenge : Raw.AuthenticationRequest}
    (hpayload : request.payload? = some (.authenticate challenge)) :
    ∃ finish : Except Failure Raw.AuthenticationResponse → Call,
      request.talk token = finish <$> (token.authenticate challenge).attempt ∧
        ∀ result, (finish result).Returns result := by
  cases request with
  | register request => simp [payload?] at hpayload
  | authenticate request =>
      cases hpayload
      exact ⟨Call.authenticate challenge, rfl, fun _ => rfl⟩
  | respond command =>
      obtain ⟨decoded, hdecoded, hauthenticate⟩ := Option.map_eq_some_iff.1 hpayload
      have hperform : token.perform decoded.payload =
          Raw.AuthenticationResponse.encode <$> token.authenticate challenge := by
        rw [hauthenticate]
        rfl
      refine ⟨fun result => .respond command
        (.ok (answerBytes (result.map Raw.AuthenticationResponse.encode))), ?_, fun _ => rfl⟩
      rw [talk, Token.respond, eq_ok_of_toOption_eq_some hdecoded]
      dsimp only
      rw [hperform, Dialogue.attempt_map Raw.AuthenticationResponse.encode, ← comp_map,
        Dialogue.attempt_map_attempt, ← comp_map]
      rfl

namespace Call.Returns

/-- No status is as long as a response. -/
theorem answerBytes_encode_ne (response : Raw.AuthenticationResponse) (failure : Failure) :
    answerBytes (.ok response.encode) ≠ answerBytes (.error failure) := by
  intro hbytes
  have hfailure : (answerBytes (.error failure)).length = 2 := length_bytesOfNat 2 _
  have hresponse : 5 ≤ (answerBytes (.ok response.encode)).length := by
    simp only [answerBytes, Raw.AuthenticationResponse.encode, List.length_append,
      List.length_cons, Raw.length_counterBytes]
    omega
  rw [hbytes, hfailure] at hresponse
  contradiction

/-- A response that can be read from what was returned has the counter of the result. -/
theorem exists_eq_ok {response : Raw.AuthenticationResponse} (hresult : call.Returns result)
    (hresponse : call.Returns (.ok response)) :
    ∃ given, result = .ok given ∧ given.counter = response.counter := by
  cases call with
  | register request given => contradiction
  | authenticate request given => exact ⟨response, hresult.symm.trans hresponse, rfl⟩
  | respond command given =>
      have hbytes := Except.ok.inj (hresult.symm.trans hresponse)
      cases result with
      | error failure =>
          exact absurd hbytes.symm (answerBytes_encode_ne response failure)
      | ok given =>
          have hencode := List.append_cancel_right hbytes
          exact ⟨given, rfl, Raw.AuthenticationResponse.counter_eq_of_encode_eq hencode⟩

/-- Want of a user is returned only where one was asked for, or is to be. -/
theorem eq_error (hresult : call.Returns result)
    (hdenied : call.Returns (.error .presenceDenied)) :
    result = .error .presenceDenied ∨ result = .error .presenceTestRequired := by
  cases call with
  | register request given => contradiction
  | authenticate request given => exact Or.inl (hresult.symm.trans hdenied)
  | respond command given =>
      have hbytes := Except.ok.inj (hresult.symm.trans hdenied)
      cases result with
      | error failure =>
          have hstatus := Raw.StatusWord.eq_of_ofFailure_eq_conditions
            (Raw.StatusWord.bytes_injective hbytes)
          exact hstatus.imp (congrArg _) (congrArg _)
      | ok given => exact absurd hbytes (answerBytes_encode_ne given .presenceDenied)

end Call.Returns

end Token

end SecondFactor
