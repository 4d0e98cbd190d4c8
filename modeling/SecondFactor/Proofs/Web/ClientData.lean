import SecondFactor.Web.ClientData
import SecondFactor.Proofs.Json.RoundTrip

/-!
Client data is read back from its bytes (`ClientData.parse_bytes`), whatever texts its origin and
its challenge are.
-/

namespace SecondFactor

namespace Json

theorem wellFormed_string (value : String) : (Json.string value).WellFormed := by
  rw [Json.string, WellFormed]
  trivial

theorem wellFormed_record {members : List (String × Json)}
    (h : ∀ member ∈ members, member.2.WellFormed) : (Json.record members).WellFormed := by
  rw [Json.record, WellFormed]
  induction members with
  | nil =>
      rw [List.map_nil, MembersWellFormed]
      trivial
  | cons member members ih =>
      rw [List.map_cons, MembersWellFormed]
      exact ⟨h member List.mem_cons_self, ih fun other hother => h other (List.mem_cons_of_mem _ hother)⟩

end Json

namespace Web

open Json (wellFormed_string wellFormed_record)

theorem ChannelId.ofJson?_toJson (channelId : ChannelId) :
    ofJson? channelId.toJson = some channelId := by
  simp [ofJson?, toJson, Json.record, Json.fields?, Json.atMostOnce, Json.named, Json.text?,
    Json.string]

theorem ChannelId.wellFormed_toJson (channelId : ChannelId) : channelId.toJson.WellFormed := by
  refine wellFormed_record ?_
  simp [wellFormed_string]

theorem ClientDataKind.ofJson?_toJson (kind : ClientDataKind) : ofJson? kind.toJson = some kind :=
  ofName?_name kind

namespace ClientData

theorem ofJson?_toJson (data : ClientData) : ofJson? data.toJson = some data := by
  obtain ⟨kind, challenge, _ | channelId, origin⟩ := data
  · simp [ofJson?, toJson, Json.record, Json.fields?, Json.atMostOnce, Json.named, Json.text?,
      Json.string, ClientDataKind.ofJson?_toJson, channelIdOfJson?]
  · have hchannel : channelIdOfJson? (some channelId.toJson) = some (some channelId) := by
      have hread := ChannelId.ofJson?_toJson channelId
      simp [ChannelId.toJson, Json.record, channelIdOfJson?] at hread ⊢
      exact hread
    simp [ofJson?, toJson, Json.record, Json.fields?, Json.atMostOnce, Json.named, Json.text?,
      Json.string, ClientDataKind.ofJson?_toJson, hchannel]

theorem wellFormed_toJson (data : ClientData) : data.toJson.WellFormed := by
  obtain ⟨kind, challenge, _ | channelId, origin⟩ := data <;> refine wellFormed_record ?_ <;>
    simp [ClientDataKind.toJson, wellFormed_string, ChannelId.wellFormed_toJson]

theorem parse_bytes (data : ClientData) : parse data.bytes = .ok data := by
  have hread : Json.parse? data.bytes = some data.toJson :=
    Json.parse?_bytes (wellFormed_toJson data)
  rw [parse, hread, Option.bind_eq_bind, Option.bind_some, ofJson?_toJson]

end ClientData

end Web

end SecondFactor
