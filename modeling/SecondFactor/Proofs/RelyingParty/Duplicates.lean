import SecondFactor.Proofs.RelyingParty.KeyLog

/-!
Records of one key. An enrolment adds a record without a look at those that are there, so an account
can hold several of one key: as many as enrolments since the key was last revoked,
`publicKeys_nodup_iff`. One response is enough for two of them, where two sessions have one
challenge, `exists_two_records_of_one_key`.
-/

namespace SecondFactor.RelyingParty

variable {party : RelyingParty} {last : AccountStore} {history : List Moment}

/-- The records of an account are of different keys just where no key was enrolled twice since it
was last revoked. -/
theorem publicKeys_nodup_iff (hrun : Run party.Step .empty history last) (account : String) :
    ((last.keys account).map Web.Enrolment.publicKey).Nodup ↔
      ∀ publicKey, (sinceRevoked publicKey (keyLog account history)).countP
        (KeyEntry.enrols publicKey) ≤ 1 := by
  have hkeys : last.keys account = replay [] (keyLog account history) :=
    keys_eq_replay hrun account
  rw [List.nodup_iff_count_le_one, hkeys]
  exact forall_congr' fun publicKey => by rw [count_publicKeys_replay]

/-! One response, taken in two sessions. -/

/-- What becomes of a response does not depend on the session it names. -/
theorem registrationVerdict_of_sessionId (party : RelyingParty) (session : Web.Session)
    (response : Web.RegisterResponse) (now : UInt64) (id : String) :
    party.registrationVerdict session { response with sessionId := id } now =
      party.registrationVerdict session response now :=
  rfl

def repeatedResponse : Web.RegisterResponse :=
  { enrolmentResponse with sessionId := "AQEBAQEBAQEBAQEBAQEBAQ" }

/-- Two sessions with one challenge, which is empty. -/
def twiceAskedStore : AccountStore :=
  askedStore.openSession repeatedResponse.sessionId enrolmentSession

def onceTakenStore : AccountStore :=
  (twiceAskedStore.closeSession enrolmentResponse.sessionId).addKey "ann" enrolmentRecord

def twiceTakenStore : AccountStore :=
  (onceTakenStore.closeSession repeatedResponse.sessionId).addKey "ann" enrolmentRecord

def repeatedEnrolment : List Moment := [
  enrolmentAsked,
  ⟨askedStore, .requestRegistration "ann" "https://a.b"
    (.ok ⟨Raw.protocolVersion, [], "https://a.b", repeatedResponse.sessionId⟩), twiceAskedStore⟩,
  ⟨twiceAskedStore, .acceptRegistration enrolmentResponse 0 (.ok enrolmentRecord), onceTakenStore⟩,
  ⟨onceTakenStore, .acceptRegistration repeatedResponse 0 (.ok enrolmentRecord), twiceTakenStore⟩]

theorem run_repeatedEnrolment :
    Run batchParty.Step .empty repeatedEnrolment twiceTakenStore := by
  have hasked : (Event.requestRegistration "ann" "https://a.b"
      (.ok ⟨Raw.protocolVersion, [], "https://a.b", repeatedResponse.sessionId⟩)).Leads batchParty
        askedStore twiceAskedStore :=
    ⟨.fixed fun _ => [], .ofTape (List.replicate 16 1), rfl⟩
  have htaken : (Event.acceptRegistration enrolmentResponse 0 (.ok enrolmentRecord)).Leads
      batchParty twiceAskedStore onceTakenStore :=
    leads_acceptRegistration_of_ok (by decide +kernel) registrationVerdict_enrolment
  have hagain : (Event.acceptRegistration repeatedResponse 0 (.ok enrolmentRecord)).Leads
      batchParty onceTakenStore twiceTakenStore :=
    leads_acceptRegistration_of_ok (by decide +kernel)
      ((registrationVerdict_of_sessionId _ _ enrolmentResponse 0 _).trans
        registrationVerdict_enrolment)
  exact .step (.call _ leads_enrolmentAsked) <| .step (.call _ hasked) <|
    .step (.call _ htaken) <| .step (.call _ hagain) (.done _)

theorem not_nodup_twiceTakenStore :
    ¬ ((twiceTakenStore.keys "ann").map Web.Enrolment.publicKey).Nodup := by
  decide +kernel

theorem publicKeys_nodup_iff_repeatedEnrolment :
    ¬ ((twiceTakenStore.keys "ann").map Web.Enrolment.publicKey).Nodup ∧
      ¬ ∀ publicKey, (sinceRevoked publicKey (keyLog "ann" repeatedEnrolment)).countP
        (KeyEntry.enrols publicKey) ≤ 1 := by
  exact ⟨not_nodup_twiceTakenStore, fun hcount =>
    not_nodup_twiceTakenStore ((publicKeys_nodup_iff run_repeatedEnrolment "ann").2 hcount)⟩

/-- Not every run leaves one record for each key of an account. -/
theorem exists_two_records_of_one_key :
    ¬ ∀ (party : RelyingParty) (history : List Moment) (last : AccountStore),
      Run party.Step .empty history last →
        ∀ account, ((last.keys account).map Web.Enrolment.publicKey).Nodup := by
  intro hone
  have hnodup := hone batchParty repeatedEnrolment twiceTakenStore run_repeatedEnrolment "ann"
  exact not_nodup_twiceTakenStore hnodup

end SecondFactor.RelyingParty
