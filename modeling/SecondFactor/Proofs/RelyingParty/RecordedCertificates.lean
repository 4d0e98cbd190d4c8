import SecondFactor.Proofs.Raw.Framing
import SecondFactor.Proofs.RelyingParty.KeyLog

/-!
The certificates of enrolled keys. A certificate is read once in front of a signature, and kept
without it; alone it is the same certificate, so whatever was recorded can be trusted later,
`recorded_certificates_trustable`.
-/

namespace SecondFactor

theorem Certificate.publicKey?_append {certificate : Bytes}
    (hwhole : lengthAt? certificate = some certificate.length) (rest : Bytes) :
    publicKey? (certificate ++ rest) = publicKey? certificate := by
  obtain ⟨parsed, hparse⟩ := exists_parse?_append hwhole
  have halone := hparse []
  rw [List.append_nil] at halone
  rw [publicKey?, publicKey?, hparse rest, halone]
  rfl

/-- Whatever is trusted already, the certificate can be added, and is trusted then. -/
def Trustable (certificate : Bytes) : Prop :=
  ∀ anchors : TrustAnchors, ∃ extended, anchors.offer certificate = (.ok (), extended) ∧
    ∀ suite, extended.trusts suite certificate = true

theorem trustable_of_whole {certificate : Bytes}
    (hwhole : Certificate.lengthAt? certificate = some certificate.length) :
    Trustable certificate := by
  intro anchors
  obtain ⟨extended, htaken, hmem⟩ := anchors.exists_offer_of_whole hwhole
  exact ⟨extended, htaken, fun suite => TrustAnchors.trusts_iff.2 (.inl hmem)⟩

namespace Raw.RegistrationResponse

/-- The certificate that was read from some data is one without what stands behind it there. -/
structure StandsAlone (data : Bytes) (registration : RegistrationResponse) : Prop where
  /-- It was read from where it begins to the end, and the signature was left. -/
  behind : data.drop registration.certificateStart =
    registration.certificate ++ registration.signature
  whole : Certificate.lengthAt? registration.certificate = some registration.certificate.length
  parsed : ∃ certificate,
    Certificate.parse? registration.certificate = some (certificate, []) ∧
      Certificate.parse? (data.drop registration.certificateStart) =
        some (certificate, registration.signature)
  publicKey : Certificate.publicKey? registration.certificate =
    Certificate.publicKey? (data.drop registration.certificateStart)
  trustable : Trustable registration.certificate

variable {data : Bytes} {registration : RegistrationResponse}

theorem drop_certificateStart (hencode : registration.encode = .ok data) :
    data.drop registration.certificateStart =
      registration.certificate ++ registration.signature := by
  obtain ⟨handle, hhandle, rfl⟩ := encode_eq_ok_iff.1 hencode
  obtain ⟨_, rfl⟩ := countedBytes_eq_ok_iff.1 hhandle
  rw [List.append_assoc _ registration.certificate, ← List.cons_append]
  refine List.drop_left' ?_
  simp only [certificateStart, List.length_cons, List.length_append, PublicKey.length_bytes]
  omega

theorem standsAlone_of_decode (hdecode : decode data = .ok registration) :
    StandsAlone data registration := by
  obtain ⟨hformed, hencode⟩ := decode_eq_ok_iff.1 hdecode
  have hbehind := drop_certificateStart hencode
  obtain ⟨certificate, hparse⟩ := Certificate.exists_parse?_append hformed.certificate
  have halone := hparse []
  rw [List.append_nil] at halone
  exact {
    behind := hbehind
    whole := hformed.certificate
    parsed := ⟨certificate, halone, hbehind ▸ hparse registration.signature⟩
    publicKey := by rw [hbehind, Certificate.publicKey?_append hformed.certificate]
    trustable := trustable_of_whole hformed.certificate }

end Raw.RegistrationResponse

namespace RelyingParty

theorem trustable_of_leads {party : RelyingParty} {before after : AccountStore}
    {response : Web.RegisterResponse} {now : UInt64} {record : Web.Enrolment}
    (hleads : (Event.acceptRegistration response now (.ok record)).Leads party before after) :
    Trustable record.certificate := by
  obtain ⟨_, registration, _, _, _, hattested, rfl⟩ := leads_acceptRegistration_ok hleads
  exact (Raw.RegistrationResponse.standsAlone_of_decode hattested.decoded).trustable

/-- A certificate that was read stands alone. The one that an enrolment records can be trusted from
then on, and so can all that are recorded after any run. -/
theorem recorded_certificates_trustable (party : RelyingParty) :
    (∀ data registration, Raw.RegistrationResponse.decode data = .ok registration →
      Raw.RegistrationResponse.StandsAlone data registration) ∧
    (∀ before after response now record,
      (Event.acceptRegistration response now (.ok record)).Leads party before after →
        Trustable record.certificate) ∧
    ∀ history last, Run party.Step .empty history last →
      ∀ account, ∀ record ∈ last.keys account, Trustable record.certificate :=
  ⟨fun _ _ hdecode => Raw.RegistrationResponse.standsAlone_of_decode hdecode,
    fun _ _ _ _ _ hleads => trustable_of_leads hleads,
    -- A counter may have been raised since, but the certificate is as it was.
    fun _ _ hrun => forall_keys_of_run (fun _ _ htrustable => htrustable)
      (fun _ _ _ _ _ hleads => trustable_of_leads hleads) hrun⟩

theorem recorded_certificates_trustable_batch :
    (∃ registration,
      Raw.RegistrationResponse.decode enrolmentResponse.registrationData = .ok registration ∧
        Raw.RegistrationResponse.StandsAlone enrolmentResponse.registrationData registration) ∧
    Run batchParty.Step .empty [enrolmentAsked, enrolmentTaken] enrolmentTaken.after ∧
    enrolmentTaken.after.keys "ann" = [enrolmentRecord] ∧
    Trustable enrolmentRecord.certificate := by
  obtain ⟨hdecoded, henrolled, hrecorded⟩ := recorded_certificates_trustable batchParty
  obtain ⟨registration, _, _, hattested, _⟩ :=
    registrationVerdict_eq_ok registrationVerdict_enrolment
  have hrun : Run batchParty.Step .empty [enrolmentAsked, enrolmentTaken] enrolmentTaken.after :=
    .step (.call _ leads_enrolmentAsked) (.step (.call _ leads_enrolmentTaken) (.done _))
  have hkeys : enrolmentTaken.after.keys "ann" = [enrolmentRecord] := by decide +kernel
  refine ⟨⟨registration, hattested.decoded, hdecoded _ _ hattested.decoded⟩, hrun, hkeys, ?_⟩
  exact hrecorded _ _ hrun "ann" enrolmentRecord (by rw [hkeys]; exact List.mem_singleton_self _)

end RelyingParty

end SecondFactor
