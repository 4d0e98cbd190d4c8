import SecondFactor.Proofs.Raw.Commands
import SecondFactor.Proofs.Token.Counting
import SecondFactor.Proofs.Token.ReadBack

/-!
What commands are answered. A command comes to what the operation that it carries comes to, in the
same state, and its answer is the response and the word for success, or the word for the failure and
nothing else, `commands_answered`. So no new key is kept behind an answer that reports a failure.
-/

namespace SecondFactor.Token

variable {σ : Type} {answer : (inquiry : Inquiry) → Effect σ inquiry.Answer} {token : Token}
  {before : σ × Surroundings}

/-- A command reports what comes of an operation, and leaves what the operation leaves. A response
is written with the word for success behind it, and of a failure there is its word alone. -/
inductive Reported {Response : Type} (write : Response → Except FormatFault Bytes) :
    Option (Except Failure Response × σ × Surroundings) →
      Option (Except Failure Bytes × σ × Surroundings) → Prop
  | endless : Reported write none none
  | refused (failure : Failure) (after : σ × Surroundings) :
      Reported write (some (.error failure, after))
        (some (.ok (Raw.StatusWord.ofFailure failure).bytes, after))
  | answered {response : Response} {bytes : Bytes} (after : σ × Surroundings) :
      write response = .ok bytes →
        Reported write (some (.ok response, after))
          (some (.ok (bytes ++ Raw.StatusWord.noError.bytes), after))

/-- The outcome is that of the operation with the payload, reported. The version costs nothing. -/
def CarriesOut (token : Token) (answer : (inquiry : Inquiry) → Effect σ inquiry.Answer)
    (before : σ × Surroundings) (payload : Raw.Payload)
    (outcome : Option (Except Failure Bytes × σ × Surroundings)) : Prop :=
  match payload with
  | .register request =>
    Reported Raw.RegistrationResponse.encode ((token.register request).run answer before) outcome
  | .authenticate request =>
    Reported (fun response => .ok response.encode) ((token.authenticate request).run answer before)
      outcome
  | .version => outcome = some (.ok Raw.versionAnswer, before)

/-- An answer to a command, from what comes of its payload. -/
def reportOf (outcome : Option (Except Failure Bytes × σ × Surroundings)) :
    Option (Except Failure Bytes × σ × Surroundings) :=
  outcome.map fun (result, after) => (.ok (answerBytes result), after)

/-- An operation that goes on to write its response, which it always can, is reported. -/
theorem reported_bind {Response : Type} {write : Response → Except FormatFault Bytes}
    {talk : Talk Response} {finish : Response → Talk Bytes}
    (hfinish : ∀ response after, talk.run answer before = some (.ok response, after) →
      ∃ bytes, write response = .ok bytes ∧ finish response = .done bytes) :
    Reported write (talk.run answer before) (reportOf ((talk >>= finish).run answer before)) := by
  rw [Dialogue.run_bind]
  cases hrun : talk.run answer before with
  | none => exact .endless
  | some outcome =>
      obtain ⟨result, after⟩ := outcome
      cases result with
      | error failure => exact .refused failure after
      | ok response =>
          obtain ⟨bytes, hwrite, hdone⟩ := hfinish response after hrun
          change Reported write _ (reportOf ((finish response).run answer after))
          rw [hdone]
          exact .answered after hwrite

theorem carriesOut_respond {command : Bytes} {decoded : Raw.Command}
    (hdecode : Raw.Command.decode command = .ok decoded) :
    token.CarriesOut answer before decoded.payload ((token.respond command).run answer before) := by
  rw [run_respond hdecode]
  cases decoded.payload with
  | register request =>
      apply reported_bind
      intro response after hrun
      obtain ⟨keyPair, rfl⟩ := exists_keyPair_of_run_register hrun
      obtain ⟨bytes, hencode⟩ := exists_encode_registrationOf token request keyPair
      refine ⟨bytes, hencode, ?_⟩
      rw [hencode]
      rfl
  | authenticate request =>
      apply reported_bind
      intro response after _
      exact ⟨response.encode, rfl, rfl⟩
  | version => rfl

/-! What is kept. -/

/-- Somewhere in what was said a new key was handed over, and kept. -/
def Keeps (history : List Said) : Prop :=
  ∃ handle key, ⟨.keepKey handle key, .ok ()⟩ ∈ history

/-- A question about something else keeps nothing. -/
theorem keeps_cons_iff {said : Said} {history : List Said}
    (hother : ∀ handle key, said.question ≠ .keepKey handle key) :
    Keeps (said :: history) ↔ Keeps history := by
  constructor
  · rintro ⟨handle, key, hmem⟩
    rcases List.mem_cons.1 hmem with rfl | hmem
    · exact absurd rfl (hother handle key)
    · exact ⟨handle, key, hmem⟩
  · rintro ⟨handle, key, hmem⟩
    exact ⟨handle, key, List.mem_cons_of_mem said hmem⟩

theorem not_keeps_nil : ¬ Keeps [] := by
  rintro ⟨_, _, hmem⟩
  cases hmem

/-- An authentication makes no key. -/
theorem not_keeps_of_authenticate {request : Raw.AuthenticationRequest} {history : List Said}
    {rest : Talk Raw.AuthenticationResponse}
    (hafter : (token.authenticate request).After history rest) : ¬ Keeps history := by
  rintro ⟨handle, key, hmem⟩
  have hkept := List.filterMap_eq_nil_iff.1 (stage_of_after hafter).not_kept _ hmem
  cases hkept

/-- Once the key of a registration is kept, nothing is left that could fail. -/
theorem exists_bytes_of_keeps_register {request : Raw.RegistrationRequest} {history : List Said}
    {result : Except Failure Bytes}
    (hafter : (token.perform (.register request)).After history (.ofExcept result))
    (hkeeps : Keeps history) : ∃ bytes, result = .ok bytes := by
  obtain ⟨front, back, given, rfl, hregister, hwritten⟩ := Dialogue.exists_end_of_bind hafter
  cases registrationEnds_of_after hregister with
  | denied _ =>
      obtain ⟨rfl, _⟩ := Dialogue.after_end (.error .presenceDenied) hwritten
      exact absurd ((keeps_cons_iff (by simp)).1 hkeeps) not_keeps_nil
  | unkept keyPair failure _ =>
      obtain ⟨rfl, _⟩ := Dialogue.after_end (.error failure) hwritten
      rw [List.append_nil, keeps_cons_iff (by simp), keeps_cons_iff (by simp)] at hkeeps
      obtain ⟨_, _, hmem⟩ := hkeeps
      cases List.mem_singleton.1 hmem
  | kept keyPair _ =>
      obtain ⟨bytes, hencode⟩ := exists_encode_registrationOf token request keyPair
      change Dialogue.After (.ofFormat (token.registrationOf request keyPair).encode) _ _
        at hwritten
      rw [hencode] at hwritten
      exact ⟨bytes, (Dialogue.after_end (.ok bytes) hwritten).2⟩

theorem exists_bytes_of_keeps {command : Bytes} {history : List Said}
    {result : Except Failure Bytes}
    (hafter : (token.respond command).After history (.ofExcept result)) (hkeeps : Keeps history) :
    ∃ bytes, result = .ok (bytes ++ Raw.StatusWord.noError.bytes) := by
  unfold respond at hafter
  cases hdecode : Raw.Command.decode command with
  | error status =>
      rw [hdecode] at hafter
      obtain ⟨_, _, rfl, hwarned⟩ := Dialogue.exists_answer_of_after hafter
      obtain ⟨rfl, _⟩ := Dialogue.after_done_iff.1 hwarned
      rw [keeps_cons_iff (by simp)] at hkeeps
      exact absurd hkeeps not_keeps_nil
  | ok decoded =>
      rw [hdecode] at hafter
      obtain ⟨rest, hperform, hend⟩ := Dialogue.after_map_attempt hafter
      obtain ⟨performed, rfl, rfl⟩ := Dialogue.ofExcept_eq_map_attempt hend
      suffices hbytes : ∃ bytes, performed = .ok bytes by
        obtain ⟨bytes, rfl⟩ := hbytes
        exact ⟨bytes, rfl⟩
      cases hpayload : decoded.payload with
      | register request =>
          rw [hpayload] at hperform
          exact exists_bytes_of_keeps_register hperform hkeeps
      | authenticate request =>
          rw [hpayload] at hperform
          obtain ⟨front, back, given, rfl, hauthenticate, hwritten⟩ :=
            Dialogue.exists_end_of_bind hperform
          have hback : back = [] := by
            cases given with
            | error failure => exact (Dialogue.after_end (.error failure) hwritten).1
            | ok response => exact (Dialogue.after_end (.ok response.encode) hwritten).1
          rw [hback, List.append_nil] at hkeeps
          exact absurd hkeeps (not_keeps_of_authenticate hauthenticate)
      | version =>
          rw [hpayload] at hperform
          obtain ⟨rfl, _⟩ := Dialogue.after_done_iff.1 hperform
          exact absurd hkeeps not_keeps_nil

/-- The answer to any command ends in a word, with nothing before it unless that is success. Bytes
that are no command are answered by the word for what is wrong with them, and leave everything as it
was; a command does what the operation does that it carries, and reports it. So does what is written
for an operation. Once a new key was kept, the answer says success. -/
theorem commands_answered (hwarn : ∀ warning, answer (.warn warning) = Effect.warn warning)
    (token : Token) (command : Bytes) (before : σ × Surroundings) :
    (∀ result after, (token.respond command).run answer before = some (result, after) →
      ∃ front status, result = .ok (front ++ Raw.StatusWord.bytes status) ∧
        (front ≠ [] → status = .noError)) ∧
    (∀ status, Raw.Command.decode command = .error status →
      (token.respond command).run answer before =
        some (.ok status.bytes, before.1, before.2.warn (.malformedCommand command))) ∧
    (∀ decoded, Raw.Command.decode command = .ok decoded →
      token.CarriesOut answer before decoded.payload ((token.respond command).run answer before)) ∧
    (∀ given : Raw.Command, given.classByte = 0x00 → given.instruction = given.payload.instruction →
      given.encode = .ok command →
        token.CarriesOut answer before given.payload ((token.respond command).run answer before)) ∧
    ∀ history result, (token.respond command).After history (.ofExcept result) → Keeps history →
      ∃ bytes, result = .ok (bytes ++ Raw.StatusWord.noError.bytes) := by
  have hmalformed : ∀ status, Raw.Command.decode command = .error status →
      (token.respond command).run answer before =
        some (.ok status.bytes, before.1, before.2.warn (.malformedCommand command)) := by
    intro status hdecode
    unfold respond
    rw [hdecode]
    change (answer (.warn (.malformedCommand command)) before).bind _ = _
    rw [hwarn]
    rfl
  refine ⟨?_, hmalformed, fun decoded hdecode => carriesOut_respond hdecode, ?_,
    fun history result hafter hkeeps => exists_bytes_of_keeps hafter hkeeps⟩
  · intro result after hrun
    cases hdecode : Raw.Command.decode command with
    | error status =>
        rw [hmalformed status hdecode] at hrun
        cases hrun
        exact ⟨[], status, rfl, fun hfront => absurd rfl hfront⟩
    | ok decoded =>
        rw [run_respond hdecode] at hrun
        obtain ⟨⟨performed, _⟩, _, hreport⟩ := Option.map_eq_some_iff.1 hrun
        cases hreport
        cases performed with
        | error failure =>
            exact ⟨[], .ofFailure failure, rfl, fun hfront => absurd rfl hfront⟩
        | ok bytes => exact ⟨bytes, .noError, rfl, fun _ => rfl⟩
  · intro given hclass hinstruction hencode
    have hdecode := Raw.Command.decode_of_encode hclass hinstruction hencode
    have hcarried : token.CarriesOut answer before given.payload.command.payload
        ((token.respond command).run answer before) := carriesOut_respond hdecode
    exact hcarried

/-! The batch token is commanded to make the key whose secret is one. -/

open Scene (batchToken enrolmentRequest enrolmentMade enrolmentAnswer)

def enrolmentCommand : Raw.Command := (Raw.Payload.register enrolmentRequest).command

theorem commands_answered_enrolment : ∃ command bytes left,
    enrolmentCommand.encode = .ok command ∧ enrolmentAnswer.encode = .ok bytes ∧
      (batchToken.respond command).run (Memory.answer .standard enrolmentMade.sensor)
        (enrolmentMade.before, enrolmentMade.around) =
          some (.ok (bytes ++ Raw.StatusWord.noError.bytes), enrolmentMade.after, left) := by
  obtain ⟨command, hcommand⟩ : ∃ command, enrolmentCommand.encode = .ok command := ⟨_, rfl⟩
  obtain ⟨left, hrun⟩ : ∃ left,
      (batchToken.register enrolmentRequest).run (Memory.answer .standard enrolmentMade.sensor)
        (enrolmentMade.before, enrolmentMade.around) =
          some (.ok enrolmentAnswer, enrolmentMade.after, left) := Scene.ends_enrolmentMade
  obtain ⟨_, _, _, hcarries, _⟩ :=
    @commands_answered KeyRing (Memory.answer .standard enrolmentMade.sensor) (fun _ => rfl)
      batchToken command (enrolmentMade.before, enrolmentMade.around)
  have hreported : Reported Raw.RegistrationResponse.encode
      ((batchToken.register enrolmentRequest).run (Memory.answer .standard enrolmentMade.sensor)
        (enrolmentMade.before, enrolmentMade.around)) _ :=
    hcarries enrolmentCommand rfl rfl hcommand
  rw [hrun] at hreported
  obtain ⟨outcome, hrespond⟩ : ∃ outcome,
      (batchToken.respond command).run (Memory.answer .standard enrolmentMade.sensor)
        (enrolmentMade.before, enrolmentMade.around) = outcome := ⟨_, rfl⟩
  rw [hrespond] at hreported
  cases hreported with
  | answered after hencode => exact ⟨command, _, left, hcommand, hencode, hrespond⟩

end SecondFactor.Token
