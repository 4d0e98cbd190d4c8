import SecondFactor.Proofs.Web.Field
import SecondFactor.Web.Account
import SecondFactor.Web.Message

/-!
The messages of a relying party and the records it keeps are read back from their JSON text, all of
them, whatever their texts, bytes and numbers are (`texts_read_back`). No two client data have one
text, so neither have they one digest but by a collision.
-/

namespace SecondFactor.Web

open Json (fields?_record wellFormed_record wellFormed_string wellFormed_binary wellFormed_word
  wellFormed_longWord)

/-! Messages. -/

theorem RegisterRequest.ofJson?_toJson (request : RegisterRequest) :
    ofJson? request.toJson = some request := by
  have hfields : request.toJson.fields? ["version", "challenge", "appId", "sessionId"] = some _ :=
    fields?_record rfl (by decide)
  rw [ofJson?, hfields]
  simp

theorem RegisterRequest.wellFormed_toJson (request : RegisterRequest) :
    request.toJson.WellFormed :=
  wellFormed_record (by simp [wellFormed_string, wellFormed_binary])

theorem RegisterResponse.ofJson?_toJson (response : RegisterResponse) :
    ofJson? response.toJson = some response := by
  have hfields : response.toJson.fields? ["registrationData", "clientData", "sessionId"] =
      some _ :=
    fields?_record rfl (by decide)
  rw [ofJson?, hfields]
  simp

theorem RegisterResponse.wellFormed_toJson (response : RegisterResponse) :
    response.toJson.WellFormed :=
  wellFormed_record (by simp [wellFormed_string, wellFormed_binary])

theorem SignRequest.ofJson?_toJson (request : SignRequest) :
    ofJson? request.toJson = some request := by
  have hfields : request.toJson.fields?
      ["version", "challenge", "appId", "keyHandle", "sessionId"] = some _ :=
    fields?_record rfl (by decide)
  rw [ofJson?, hfields]
  simp

theorem SignRequest.wellFormed_toJson (request : SignRequest) : request.toJson.WellFormed :=
  wellFormed_record (by simp [wellFormed_string, wellFormed_binary])

theorem SignResponse.ofJson?_toJson (response : SignResponse) :
    ofJson? response.toJson = some response := by
  have hfields : response.toJson.fields?
      ["keyHandle", "signatureData", "clientData", "sessionId"] = some _ :=
    fields?_record rfl (by decide)
  rw [ofJson?, hfields]
  simp

theorem SignResponse.wellFormed_toJson (response : SignResponse) : response.toJson.WellFormed :=
  wellFormed_record (by simp [wellFormed_string, wellFormed_binary])

/-! Records. -/

theorem Enrolment.ofJson?_toJson (key : Enrolment) : ofJson? key.toJson = some key := by
  have hfields : key.toJson.fields?
      ["keyHandle", "publicKey", "attestationCertificate", "counter", "enrollmentTime"] =
        some _ :=
    fields?_record rfl (by decide)
  rw [ofJson?, hfields]
  simp

theorem Enrolment.wellFormed_toJson (key : Enrolment) : key.toJson.WellFormed :=
  wellFormed_record (by simp [wellFormed_binary, wellFormed_word, wellFormed_longWord])

/-- A purpose holds texts only, within one object. -/
theorem Purpose.isBounded_toJson (purpose : Purpose) :
    purpose.toJson.isBounded maxDepth = true := by
  cases purpose <;> rfl

theorem Purpose.ofJson?_toJson (purpose : Purpose) : ofJson? purpose.toJson = some purpose := by
  have hbounded := purpose.isBounded_toJson
  cases purpose with
  | enrol => rfl
  | sign publicKey =>
      simp only [toJson, Json.record, List.map_cons, List.map_nil] at hbounded ⊢
      rw [ofJson?, if_pos hbounded]
      simp [Json.atMostOnce, Json.named, ofMembers?]

theorem Purpose.wellFormed_toJson (purpose : Purpose) : purpose.toJson.WellFormed := by
  cases purpose with
  | enrol => exact wellFormed_record (by simp [wellFormed_string])
  | sign publicKey => exact wellFormed_record (by simp [wellFormed_string, wellFormed_binary])

theorem Session.ofJson?_toJson (session : Session) : ofJson? session.toJson = some session := by
  have hfields : session.toJson.fields? ["accountName", "appId", "challenge", "kind"] = some _ :=
    fields?_record rfl (by decide)
  rw [ofJson?, hfields]
  simp [Purpose.ofJson?_toJson]

theorem Session.wellFormed_toJson (session : Session) : session.toJson.WellFormed :=
  wellFormed_record (by simp [wellFormed_string, wellFormed_binary, Purpose.wellFormed_toJson])

/-! Texts. -/

/-- Every value is read back from the text it is written as. -/
def ReadBack {α : Type} (toJson : α → Json) (ofJson? : Json → Option α) : Prop :=
  ∀ value, (Json.parse? (Utf8.bytes (toJson value).render)).bind ofJson? = some value

/-- A value whose JSON is well formed, and which its JSON gives back, is read back. -/
theorem ReadBack.of_json {α : Type} {toJson : α → Json} {ofJson? : Json → Option α}
    (hwell : ∀ value, (toJson value).WellFormed)
    (hread : ∀ value, ofJson? (toJson value) = some value) : ReadBack toJson ofJson? := by
  intro value
  rw [Json.bytes_render, Json.parse?_bytes (hwell value), Option.bind_some, hread]

theorem ReadBack.injective {α : Type} {toJson : α → Json} {ofJson? : Json → Option α}
    (h : ReadBack toJson ofJson?) : Function.Injective fun value => (toJson value).render := by
  intro value other hsame
  have hvalue := h value
  simp only at hsame
  rw [hsame, h other] at hvalue
  exact (Option.some.inj hvalue).symm

theorem ClientData.readBack : ReadBack ClientData.toJson ClientData.ofJson? :=
  .of_json ClientData.wellFormed_toJson ClientData.ofJson?_toJson

theorem texts_read_back :
    ReadBack Json.binary Json.binary?
      ∧ ReadBack ChannelId.toJson ChannelId.ofJson?
      ∧ ReadBack ClientDataKind.toJson ClientDataKind.ofJson?
      ∧ ReadBack RegisterRequest.toJson RegisterRequest.ofJson?
      ∧ ReadBack RegisterResponse.toJson RegisterResponse.ofJson?
      ∧ ReadBack SignRequest.toJson SignRequest.ofJson?
      ∧ ReadBack SignResponse.toJson SignResponse.ofJson?
      ∧ ReadBack Enrolment.toJson Enrolment.ofJson?
      ∧ ReadBack Session.toJson Session.ofJson?
      ∧ ReadBack ClientData.toJson ClientData.ofJson?
      ∧ (∀ data : ClientData, ClientData.parse (Utf8.bytes data.toJson.render) = .ok data)
      ∧ Function.Injective fun data : ClientData => data.toJson.render := by
  refine ⟨.of_json Json.wellFormed_binary Json.binary?_binary,
    .of_json ChannelId.wellFormed_toJson ChannelId.ofJson?_toJson,
    .of_json (fun kind => wellFormed_string kind.name) ClientDataKind.ofJson?_toJson,
    .of_json RegisterRequest.wellFormed_toJson RegisterRequest.ofJson?_toJson,
    .of_json RegisterResponse.wellFormed_toJson RegisterResponse.ofJson?_toJson,
    .of_json SignRequest.wellFormed_toJson SignRequest.ofJson?_toJson,
    .of_json SignResponse.wellFormed_toJson SignResponse.ofJson?_toJson,
    .of_json Enrolment.wellFormed_toJson Enrolment.ofJson?_toJson,
    .of_json Session.wellFormed_toJson Session.ofJson?_toJson,
    ClientData.readBack, ?_, ClientData.readBack.injective⟩
  intro data
  rw [Json.bytes_render]
  exact data.parse_bytes

end SecondFactor.Web
