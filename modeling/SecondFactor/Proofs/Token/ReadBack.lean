import SecondFactor.Proofs.Exchange
import SecondFactor.Proofs.Scene.Registration

/-!
Whether those who get a token's registration can read it. The certificate of the token stands before
the signature, and nothing but the certificate itself says where it ends, so bytes that follow a
certificate in the token are read as the start of the signature, `answer_read_back_iff`.
-/

namespace SecondFactor

/-- The attestation was made from a certificate and its key pair, or the bytes of its secret. -/
inductive Attestation.Accepted (suite : Suite) (attestation : Attestation) : Prop
  | ofKeyPair {certificate : Bytes} {keyPair : KeyPair} :
      Attestation.ofKeyPair certificate keyPair = .ok attestation → Accepted suite attestation
  | ofBytes {certificate secret : Bytes} :
      Attestation.ofBytes suite certificate secret = .ok attestation → Accepted suite attestation

namespace Attestation

variable {suite : Suite} {attestation : Attestation}

theorem publicKey?_of_ofKeyPair {certificate : Bytes} {keyPair : KeyPair}
    (h : ofKeyPair certificate keyPair = .ok attestation) :
    Certificate.publicKey? attestation.certificate = some attestation.keyPair.publicKey := by
  unfold ofKeyPair at h
  split at h
  · cases h
  · rename_i certified hcertified
    split at h
    · rename_i hsame
      cases h
      rw [hcertified, hsame]
    · cases h

/-- What is accepted begins with a certificate for the key of the pair. -/
theorem Accepted.publicKey? (haccepted : attestation.Accepted suite) :
    Certificate.publicKey? attestation.certificate = some attestation.keyPair.publicKey := by
  cases haccepted with
  | ofKeyPair h => exact publicKey?_of_ofKeyPair h
  | ofBytes h =>
      unfold Attestation.ofBytes at h
      split at h
      · cases h
      · exact publicKey?_of_ofKeyPair h

/-- It may go on behind that certificate. -/
theorem Accepted.exists_front (haccepted : attestation.Accepted suite) :
    ∃ front extra, attestation.certificate = front ++ extra ∧
      ∀ other, Certificate.lengthAt? (front ++ other) = some front.length := by
  obtain ⟨⟨certificate, rest⟩, hparse, _⟩ := Option.bind_eq_some_iff.1 haccepted.publicKey?
  have hlength : Certificate.lengthAt? attestation.certificate =
      some (attestation.certificate.length - rest.length) := by
    rw [Certificate.lengthAt?, hparse]
    rfl
  obtain ⟨front, extra, hsplit, _, hfront⟩ := Certificate.exists_front_of_lengthAt? hlength
  exact ⟨front, extra, hsplit, hfront⟩

end Attestation

namespace Raw.RegistrationResponse

/-- Of a certificate that goes on behind its end, what is too much becomes a part of the
signature. -/
theorem decode_of_extra {response : RegistrationResponse} {bytes front extra : Bytes}
    (hencode : response.encode = .ok bytes) (hsplit : response.certificate = front ++ extra)
    (hfront : Certificate.lengthAt? front = some front.length) :
    decode bytes = (restAsSignature (extra ++ response.signature)).map fun signature =>
      { response with certificate := front, signature } := by
  obtain ⟨handle, hhandle, rfl⟩ := encode_eq_ok_iff.1 hencode
  have hkey := scanPublicKey_eq_ok_iff.2 (Eq.refl (response.publicKey.bytes ++
    (handle ++ (front ++ (extra ++ response.signature)))))
  have hcounted := counted_countedBytes (front ++ (extra ++ response.signature)) hhandle
  have hcertificate := scanCertificate_eq_ok_iff.2
    ⟨hfront, Eq.refl (front ++ (extra ++ response.signature))⟩
  have hreserved : scanReserved (0x05 :: (response.publicKey.bytes ++ (handle ++
      (front ++ (extra ++ response.signature))))) = .ok ((), _) := scanReserved_eq_ok_iff.2 rfl
  rw [hsplit, List.append_assoc, List.append_assoc, List.append_assoc]
  unfold decode
  rw [hreserved]
  change (scanPublicKey _ >>= _) = _
  rw [hkey]
  change (Scan.counted _ >>= _) = _
  rw [hcounted]
  change (scanCertificate _ >>= _) = _
  rw [hcertificate]
  change (restAsSignature (extra ++ response.signature) >>= _) = _
  cases restAsSignature (extra ++ response.signature) <;> rfl

end Raw.RegistrationResponse

namespace Token

variable {σ : Type} {answer : (inquiry : Inquiry) → Effect σ inquiry.Answer} {token : Token}
  {request : Raw.RegistrationRequest} {response : Raw.RegistrationResponse}
  {before after : σ × Surroundings}

/-- The ends that a registration can come to, with all that was said before. -/
inductive RegistrationEnds (token : Token) (request : Raw.RegistrationRequest) :
    List (Exchange Inquiry Inquiry.Answer) → Except Failure Raw.RegistrationResponse → Prop
  | denied {presence : Raw.Presence} : presence.userPresent = false →
      RegistrationEnds token request [⟨.presence .registration request.application, presence⟩]
        (.error .presenceDenied)
  | unkept {presence : Raw.Presence} (keyPair : KeyPair) (failure : Failure) :
      presence.userPresent = true →
        RegistrationEnds token request
          [⟨.presence .registration request.application, presence⟩, ⟨.newKeyPair, keyPair⟩,
            ⟨.keepKey (token.keyHandle request.application keyPair.publicKey.toRaw)
              ⟨request.application, keyPair⟩, .error failure⟩]
          (.error failure)
  | kept {presence : Raw.Presence} (keyPair : KeyPair) : presence.userPresent = true →
      RegistrationEnds token request
        [⟨.presence .registration request.application, presence⟩, ⟨.newKeyPair, keyPair⟩,
          ⟨.keepKey (token.keyHandle request.application keyPair.publicKey.toRaw)
            ⟨request.application, keyPair⟩, .ok ()⟩]
        (.ok (token.registrationOf request keyPair))

/-- One question after the other is answered, or the registration has not come to its end. -/
theorem registrationEnds_of_after {history : List (Exchange Inquiry Inquiry.Answer)}
    {result : Except Failure Raw.RegistrationResponse}
    (hafter : (token.register request).After history (.ofExcept result)) :
    token.RegistrationEnds request history result := by
  obtain ⟨presence, asked, rfl, hpresent⟩ := Dialogue.exists_answer_of_after hafter
  change Dialogue.After (if !(presence : Raw.Presence).userPresent then _ else _) _ _ at hpresent
  cases hconfirmed : presence.userPresent with
  | false =>
      simp only [hconfirmed, Bool.not_false, if_true] at hpresent
      obtain ⟨rfl, rfl⟩ := Dialogue.after_end (.error .presenceDenied) hpresent
      exact .denied hconfirmed
  | true =>
      simp only [hconfirmed, Bool.not_true, Bool.false_eq_true, if_false] at hpresent
      obtain ⟨keyPair, drawn, rfl, hpair⟩ := Dialogue.exists_answer_of_after hpresent
      obtain ⟨kept, rest, rfl, hkept⟩ := Dialogue.exists_answer_of_after hpair
      cases kept with
      | error failure =>
          obtain ⟨rfl, rfl⟩ := Dialogue.after_end (.error failure) hkept
          exact .unkept keyPair failure hconfirmed
      | ok =>
          obtain ⟨rfl, rfl⟩ := Dialogue.after_end (.ok (token.registrationOf request keyPair)) hkept
          exact .kept keyPair hconfirmed

/-- Whoever answers the token, a registration that succeeds answers for a key pair. -/
theorem exists_keyPair_of_run_register
    (hrun : (token.register request).run answer before = some (.ok response, after)) :
    ∃ keyPair, response = token.registrationOf request keyPair := by
  obtain ⟨history, hafter, _⟩ := (Dialogue.run_eq_some_iff answer).1 hrun
  cases registrationEnds_of_after hafter with
  | kept keyPair _ => exact ⟨keyPair, rfl⟩

/-- The answer to a registration can always be written, and is read back just where nothing follows
the certificate of the token. -/
theorem answer_read_back_iff (haccepted : token.attestation.Accepted token.suite)
    (hrun : (token.register request).run answer before = some (.ok response, after))
    (hframed : Raw.IsSequence response.signature) :
    ∃ bytes front extra, response.encode = .ok bytes ∧
      token.attestation.certificate = front ++ extra ∧
      Certificate.lengthAt? token.attestation.certificate = some front.length ∧
      Raw.RegistrationResponse.decode bytes =
        (Raw.restAsSignature (extra ++ response.signature)).map (fun signature =>
          { response with certificate := front, signature }) ∧
      (Raw.RegistrationResponse.decode bytes = .ok response ↔ extra = []) := by
  obtain ⟨keyPair, rfl⟩ := exists_keyPair_of_run_register hrun
  obtain ⟨bytes, hencode⟩ := exists_encode_registrationOf token request keyPair
  obtain ⟨front, extra, hsplit, hfront⟩ := haccepted.exists_front
  have hwhole : Certificate.lengthAt? front = some front.length := by
    simpa using hfront []
  have hdecode := Raw.RegistrationResponse.decode_of_extra hencode hsplit hwhole
  refine ⟨bytes, front, extra, hencode, hsplit, hsplit ▸ hfront extra, hdecode, ?_⟩
  constructor
  · intro hread
    have hformed := (Raw.RegistrationResponse.decode_eq_ok_iff.1 hread).1
    have hlength := hformed.certificate.symm.trans (hsplit ▸ hfront extra)
    have hsame : (front ++ extra).length = front.length := by
      rw [← hsplit]
      exact Option.some.inj hlength
    simpa using hsame
  · rintro rfl
    rw [hdecode, List.nil_append, Raw.restAsSignature_eq_ok_iff.2 ⟨hframed, rfl⟩]
    rw [List.append_nil] at hsplit
    exact congrArg Except.ok (by rw [← hsplit]; rfl)

/-! The token that enrols the key whose secret is one, as it is, and with a byte after its
certificate. -/

open RelyingParty (attestationSignature)
open Scene (batchToken enrolmentRequest enrolmentMade enrolmentAnswer)
open TrustAnchors (batchCertificate)

theorem accepted_batchToken : batchToken.attestation.Accepted batchToken.suite := by
  have hpaired : Attestation.ofKeyPair batchCertificate KeyPair.base =
      .ok batchToken.attestation :=
    eq_ok_of_toOption_eq_some (by decide +kernel)
  exact .ofKeyPair hpaired

theorem signature_enrolmentAnswer : enrolmentAnswer.signature = attestationSignature := by
  decide +kernel

theorem isSequence_attestationSignature : Raw.IsSequence attestationSignature :=
  Raw.isSequence_of_toOption (by decide +kernel)

theorem answer_read_back_enrolment : ∃ bytes, enrolmentAnswer.encode = .ok bytes ∧
    Raw.RegistrationResponse.decode bytes = .ok enrolmentAnswer := by
  obtain ⟨left, hrun⟩ := Scene.ends_enrolmentMade
  have hframed : Raw.IsSequence enrolmentAnswer.signature :=
    signature_enrolmentAnswer ▸ isSequence_attestationSignature
  obtain ⟨bytes, front, extra, hencode, hsplit, hlength, _, hread⟩ :=
    answer_read_back_iff accepted_batchToken hrun hframed
  have hwhole : Certificate.lengthAt? batchCertificate = some batchCertificate.length := by
    decide +kernel
  have hfront : batchCertificate.length = front.length :=
    Option.some.inj (hwhole.symm.trans hlength)
  have hextra : extra = [] := by
    have hcount : batchCertificate.length = (front ++ extra).length := congrArg _ hsplit
    simpa [hfront] using hcount
  exact ⟨bytes, hencode, hread.2 hextra⟩

def paddedToken : Token :=
  { batchToken with attestation := ⟨batchCertificate ++ [0x00], KeyPair.base⟩ }

theorem accepted_paddedToken : paddedToken.attestation.Accepted paddedToken.suite := by
  have hpaired : Attestation.ofKeyPair (batchCertificate ++ [0x00]) KeyPair.base =
      .ok paddedToken.attestation :=
    eq_ok_of_toOption_eq_some (by decide +kernel)
  exact .ofKeyPair hpaired

theorem run_register_paddedToken : ∃ left,
    (paddedToken.register enrolmentRequest).run (Memory.answer .standard enrolmentMade.sensor)
        (enrolmentMade.before, enrolmentMade.around) =
      some (.ok (paddedToken.registrationOf enrolmentRequest KeyPair.base), left) := by
  have hpresent : enrolmentMade.sensor.registration.userPresent = true := by
    decide
  have hdraw : Tape.drawKeyPair .standard enrolmentMade.around.tape = some (KeyPair.base, []) :=
    Tape.drawKeyPair_base
  obtain ⟨left, hrun⟩ := run_register_of_present hpresent hdraw
  exact ⟨_, hrun⟩

/-- A token whose certificate is followed by a byte is accepted, and answers in bytes that are no
answer. -/
theorem answer_of_paddedToken_not_read_back : ∃ response after bytes,
    paddedToken.attestation.Accepted paddedToken.suite ∧
      (paddedToken.register enrolmentRequest).run (Memory.answer .standard enrolmentMade.sensor)
        (enrolmentMade.before, enrolmentMade.around) = some (.ok response, after) ∧
      Raw.IsSequence response.signature ∧
      response.encode = .ok bytes ∧
      Raw.RegistrationResponse.decode bytes = .error .signature := by
  obtain ⟨left, hrun⟩ := run_register_paddedToken
  obtain ⟨bytes, hencode⟩ :=
    exists_encode_registrationOf paddedToken enrolmentRequest KeyPair.base
  have hsignature : (paddedToken.registrationOf enrolmentRequest KeyPair.base).signature =
      attestationSignature :=
    signature_enrolmentAnswer
  refine ⟨_, left, bytes, accepted_paddedToken, hrun, ?_, hencode, ?_⟩
  · rw [hsignature]
    exact isSequence_attestationSignature
  · have hwhole : Certificate.lengthAt? batchCertificate = some batchCertificate.length := by
      decide +kernel
    rw [Raw.RegistrationResponse.decode_of_extra hencode rfl hwhole, hsignature]
    rfl

end Token

end SecondFactor
