import SecondFactor.Proofs.PublicKey
import SecondFactor.Proofs.RelyingParty.Keys

/-!
Signatures are taken once. While a key is not revoked, the counter that its signatures are checked
against never falls, and each signature that is taken raises it.
-/

namespace SecondFactor.RelyingParty

/-- A signature is taken for a key of an account, whose record then has the signed counter. -/
def Moment.Accepts (moment : Moment) (account : String) (response : Web.SignResponse)
    (record : Web.Enrolment) : Prop :=
  moment.event = .acceptSignature response (.ok record) ∧
    ∃ session, moment.before.session? response.sessionId = some session ∧
      session.account = account

/-- A call revokes a key of an account. -/
def Event.Revokes (event : Event) (account : String) (publicKey : Bytes) : Prop :=
  ∃ result, event = .removeKey account publicKey result

/-- A key that the first store checks signatures against is in the second, with a counter that is
no less. -/
def CounterKept (account : String) (publicKey : Bytes) (before after : AccountStore) : Prop :=
  ∀ key, before.firstKey? account publicKey = some key →
    ∃ kept, after.firstKey? account publicKey = some kept ∧ key.counter ≤ kept.counter

variable {party : RelyingParty} {before after : AccountStore} {moment : Moment}
  {account : String} {publicKey : Bytes}

theorem CounterKept.trans {between : AccountStore}
    (hearlier : CounterKept account publicKey before between)
    (hlater : CounterKept account publicKey between after) :
    CounterKept account publicKey before after := by
  intro key hkey
  obtain ⟨middle, hmiddle, hle⟩ := hearlier key hkey
  obtain ⟨kept, hkept, hle'⟩ := hlater middle hmiddle
  exact ⟨kept, hkept, UInt32.le_trans hle hle'⟩

/-- A call that does not revoke a key leaves its counter as it is, or raises it. -/
theorem Step.counterKept (hstep : Step party before moment after)
    (hkept : ¬ moment.event.Revokes account publicKey) :
    CounterKept account publicKey before after := by
  intro key hkey
  have hstands : Stands (after.keys account) publicKey False fun kept =>
      key.counter ≤ kept.counter := by
    refine hstep.stands ?_ (fun hremoves => hkept ⟨_, hremoves⟩) False.elim ?_
    · exact fun kept counter hlt hle => UInt32.le_trans hle (UInt32.le_of_lt hlt)
    · rw [Stands, ← AccountStore.firstKey?, hkey]
      exact UInt32.le_refl _
  rw [Stands, ← AccountStore.firstKey?] at hstands
  cases hkeptKey : after.firstKey? account publicKey with
  | none =>
      rw [hkeptKey] at hstands
      exact hstands.elim
  | some kept =>
      rw [hkeptKey] at hstands
      exact ⟨kept, rfl, hstands⟩

theorem Step.checked (hstep : Step party before moment after) {response : Web.SignResponse}
    {record : Web.Enrolment} (haccepts : moment.Accepts account response record) :
    ∃ session key authentication, session.account = account ∧
      Checked party before after response record session key authentication := by
  obtain ⟨hevent, session, hsession, haccount⟩ := haccepts
  have hleads := hstep.leads
  rw [hevent] at hleads
  obtain ⟨waiting, key, authentication, hchecked⟩ := leads_acceptSignature_ok hleads
  refine ⟨waiting, key, authentication, ?_, hchecked⟩
  rw [hstep.met, (AccountStore.waiting?_eq_some_iff.1 hchecked.waiting).1] at hsession
  cases hsession
  exact haccount

/-! Runs. -/

variable {first last : AccountStore} {history : List Moment}

/-- The counter does not fall between any two stores of a run that does not revoke the key. -/
theorem pairwise_counterKept (hrun : Run party.Step first history last)
    (hkept : ∀ moment ∈ history, ¬ moment.event.Revokes account publicKey) :
    (first :: history.map Moment.after).Pairwise (CounterKept account publicKey) := by
  induction hrun with
  | done => simp
  | @step first between last moment rest hmoment hrest ih =>
      have hone := hmoment.counterKept (hkept _ List.mem_cons_self)
      have hlater := ih fun moment hmem => hkept moment (List.mem_cons_of_mem _ hmem)
      rw [List.map_cons, hmoment.left, List.pairwise_cons]
      refine ⟨?_, hlater⟩
      intro store hmem
      rcases List.mem_cons.1 hmem with rfl | hmem
      · exact hone
      · exact hone.trans (List.rel_of_pairwise_cons hlater hmem)

/-- Of two signatures that are taken for one key, the later has the greater counter, unless the key
is removed and enrolled again in between. -/
theorem counter_lt_of_accepts {earlier between later : List Moment} {call other : Moment}
    {response response' : Web.SignResponse} {record record' : Web.Enrolment}
    (hrun : Run party.Step first (earlier ++ call :: between ++ other :: later) last)
    (hcall : call.Accepts account response record)
    (hother : other.Accepts account response' record')
    (hkey : record'.publicKey = record.publicKey)
    (hapart : ∀ remover ∈ between, ∀ enroller ∈ between,
      remover.event.Removes account record.publicKey →
        ¬ enroller.event.Enrols enroller.before account record.publicKey) :
    record.counter < record'.counter := by
  obtain ⟨store, _, hupto, hotherStep, _⟩ := hrun.cut_at
  obtain ⟨_, middle, _, hcallStep, hbetween⟩ := hupto.cut_at
  obtain ⟨session, key, authentication, rfl, hfirst⟩ := hcallStep.checked hcall
  obtain ⟨session', key', authentication', haccount, hsecond⟩ := hotherStep.checked hother
  let Kept (store : AccountStore) : Prop := Stands (store.keys session.account) record.publicKey
    (∃ remover ∈ between, remover.event.Removes session.account record.publicKey)
    (fun kept => record.counter ≤ kept.counter)
  have hstands : Kept store := by
    refine hbetween.invariant Kept ?_ ?_
    · intro moment hmem before after hstep hstands
      refine hstep.stands ?_ (fun hremoves => ⟨moment, hmem, hremoves⟩) ?_ hstands
      · exact fun kept counter hlt hle => UInt32.le_trans hle (UInt32.le_of_lt hlt)
      · rintro ⟨remover, hremover, hremoves⟩
        rw [← hstep.met]
        exact hapart remover hremover moment hmem hremoves
    · unfold Kept Stands
      rw [← AccountStore.firstKey?, hfirst.left]
      exact UInt32.le_refl _
  have hfound := hsecond.found
  rw [haccount, hkey] at hfound
  unfold Kept Stands at hstands
  rw [← AccountStore.firstKey?, hfound] at hstands
  rw [hsecond.record_eq]
  exact UInt32.lt_of_le_of_lt hstands hsecond.risen

/-- Of two signatures that are taken for one key, the later has the greater counter, so it is not
the same again. In between, the counter they are checked against does not fall. -/
theorem counters_rise {earlier between later : List Moment} {call other : Moment}
    {response response' : Web.SignResponse} {record record' : Web.Enrolment}
    (hrun : Run party.Step first (earlier ++ call :: between ++ other :: later) last)
    (hcall : call.Accepts account response record)
    (hother : other.Accepts account response' record')
    (hkey : record'.publicKey = record.publicKey)
    (hkept : ∀ moment ∈ between, ¬ moment.event.Revokes account record.publicKey) :
    record.counter < record'.counter ∧
      (∃ key, call.before.firstKey? account record.publicKey = some key) ∧
      (call.before :: call.after :: between.map Moment.after).Pairwise
        (CounterKept account record.publicKey) ∧
      response.signatureData ≠ response'.signatureData := by
  obtain ⟨store, _, hupto, hotherStep, _⟩ := hrun.cut_at
  obtain ⟨_, middle, _, hcallStep, hbetween⟩ := hupto.cut_at
  obtain ⟨session, key, authentication, rfl, hfirst⟩ := hcallStep.checked hcall
  obtain ⟨session', key', authentication', haccount, hsecond⟩ := hotherStep.checked hother
  have hone : CounterKept session.account record.publicKey call.before call.after := by
    rw [hcallStep.met, hcallStep.left]
    refine hcallStep.counterKept ?_
    rintro ⟨_, hevent⟩
    rw [hcall.1] at hevent
    cases hevent
  have hpairs := pairwise_counterKept hbetween hkept
  have hlt : record.counter < record'.counter := by
    refine counter_lt_of_accepts hrun hcall hother hkey ?_
    intro remover hremover _ _ hremoves
    exact absurd ⟨_, hremoves⟩ (hkept remover hremover)
  refine ⟨hlt, ⟨key, ?_⟩, ?_, ?_⟩
  · rw [hcallStep.met]
    exact hfirst.found
  · rw [← hcallStep.left] at hpairs
    rw [List.pairwise_cons]
    refine ⟨?_, hpairs⟩
    intro after hmem
    rcases List.mem_cons.1 hmem with rfl | hmem
    · exact hone
    · exact hone.trans (List.rel_of_pairwise_cons hpairs hmem)
  · intro hsame
    obtain ⟨_, _, hsigned⟩ := readAuthentication_eq_ok_iff.1 hfirst.read
    obtain ⟨_, _, hsigned'⟩ := readAuthentication_eq_ok_iff.1 hsecond.read
    have hdecode := hsigned.decoded
    rw [hsame, hsigned'.decoded] at hdecode
    cases hdecode
    rw [hfirst.record_eq, hsecond.record_eq] at hlt
    exact UInt32.lt_irrefl _ hlt

/-! Two signatures by the key whose secret is one, over client data without a challenge. -/

def sampleHandle : Bytes :=
  [0xc4, 0xcf, 0xa6, 0x34, 0xd5, 0x1a, 0x5c, 0x26, 0x65, 0x5d, 0xe8, 0xbe, 0x6b, 0x74, 0x67,
   0xd6, 0xb1, 0x09, 0xc3, 0x6c, 0x9b, 0xca, 0x3b, 0xe0, 0xcb, 0x44, 0x12, 0x66, 0x11, 0x2d,
   0xde, 0x15]

def sampleParty : RelyingParty := ⟨.standard, ["https://a.b"], .empty, .refuse⟩

def sampleKey (counter : UInt32) : Web.Enrolment :=
  ⟨sampleHandle, KeyPair.base.publicKey.bytes, [], counter, 0⟩

def sampleSession : Web.Session := ⟨"ann", "https://a.b", [], .sign KeyPair.base.publicKey.bytes⟩

def sampleStore : AccountStore :=
  ((AccountStore.empty.addKey "ann" (sampleKey 0)).openSession "first" sampleSession).openSession
    "second" sampleSession

def raisedStore : AccountStore :=
  (sampleStore.closeSession "first").setKeys "ann" [sampleKey 1]

def sampleResponse (id : String) (signatureData : Bytes) : Web.SignResponse where
  keyHandle := sampleHandle
  signatureData := signatureData
  clientData := Utf8.bytes ("\x7b\"typ\":\"navigator.id.getAssertion\",\"challenge\":\"\"," ++
    "\"origin\":\"https://a.b\"\x7d")
  sessionId := id

def firstResponse : Web.SignResponse := sampleResponse "first"
  [0x01, 0x00, 0x00, 0x00, 0x01, 0x30, 0x44, 0x02, 0x20, 0x4b, 0x0c, 0x08, 0xcd, 0xfc, 0x7c,
   0xf3, 0x1c, 0xea, 0x8a, 0x10, 0xf5, 0x83, 0x5b, 0x6f, 0x82, 0x33, 0xff, 0x68, 0x2e, 0x04,
   0xee, 0xe5, 0xc7, 0x23, 0x82, 0x9b, 0xdd, 0x0e, 0xb3, 0xb1, 0xb5, 0x02, 0x20, 0x20, 0x6b,
   0x8a, 0x03, 0xb1, 0x4c, 0x81, 0xae, 0x7d, 0xc1, 0x2c, 0x08, 0x97, 0x65, 0x0f, 0x5a, 0x91,
   0x40, 0xd0, 0xf9, 0x19, 0x47, 0xc2, 0xe9, 0xd7, 0x8c, 0x53, 0x80, 0x82, 0x8f, 0x5a, 0xc8]

def secondResponse : Web.SignResponse := sampleResponse "second"
  [0x01, 0x00, 0x00, 0x00, 0x02, 0x30, 0x45, 0x02, 0x21, 0x00, 0xb1, 0x86, 0xc8, 0x3a, 0x44,
   0x4c, 0x7c, 0x21, 0x59, 0xb5, 0x9d, 0xe8, 0x83, 0x81, 0xd8, 0x00, 0x04, 0x76, 0x67, 0x31,
   0x5f, 0x59, 0xa6, 0x77, 0xdf, 0x47, 0xe4, 0x8e, 0xb4, 0x6b, 0x33, 0xba, 0x02, 0x20, 0x02,
   0xff, 0x4d, 0xa1, 0x65, 0xc1, 0xc8, 0xc0, 0xc7, 0xc0, 0x22, 0x3d, 0x4f, 0xef, 0xdd, 0xef,
   0xe6, 0x27, 0x1e, 0x9d, 0x51, 0xcc, 0x66, 0x02, 0x52, 0x0f, 0xc7, 0xde, 0xa6, 0xf4, 0xf4,
   0x11]

theorem leads_firstResponse :
    (Event.acceptSignature firstResponse (.ok (sampleKey 1))).Leads sampleParty sampleStore
      raisedStore := by
  have hverdict : sampleParty.signatureVerdict sampleSession firstResponse
      (sampleStore.keys "ann") = .ok (sampleKey 1, [sampleKey 1]) :=
    eq_ok_of_toOption_eq_some (by decide +kernel)
  exact leads_acceptSignature_of_ok (by decide +kernel) hverdict

theorem counters_rise_for_two_signatures :
    ∃ (call other : Moment) (last : AccountStore),
      Run sampleParty.Step sampleStore [call, other] last ∧
        call.Accepts "ann" firstResponse (sampleKey 1) ∧
        other.Accepts "ann" secondResponse (sampleKey 2) ∧
        (sampleKey 1).counter < (sampleKey 2).counter ∧
        firstResponse.signatureData ≠ secondResponse.signatureData := by
  have hsecond : sampleParty.signatureVerdict sampleSession secondResponse
      (raisedStore.keys "ann") = .ok (sampleKey 2, [sampleKey 2]) :=
    eq_ok_of_toOption_eq_some (by decide +kernel)
  have hotherLeads : (Event.acceptSignature secondResponse (.ok (sampleKey 2))).Leads
      sampleParty raisedStore ((raisedStore.closeSession "second").setKeys "ann" [sampleKey 2]) :=
    leads_acceptSignature_of_ok (by decide +kernel) hsecond
  have hcall : Moment.Accepts
      ⟨sampleStore, .acceptSignature firstResponse (.ok (sampleKey 1)), raisedStore⟩
      "ann" firstResponse (sampleKey 1) :=
    ⟨rfl, sampleSession, by decide +kernel, rfl⟩
  have hother : Moment.Accepts
      ⟨raisedStore, .acceptSignature secondResponse (.ok (sampleKey 2)),
        (raisedStore.closeSession "second").setKeys "ann" [sampleKey 2]⟩
      "ann" secondResponse (sampleKey 2) :=
    ⟨rfl, sampleSession, by decide +kernel, rfl⟩
  have hrun : Run sampleParty.Step sampleStore ([] ++ _ :: [] ++ _ :: []) _ :=
    .step (.call _ leads_firstResponse) (.step (.call _ hotherLeads) (.done _))
  obtain ⟨hlt, _, _, hne⟩ := counters_rise hrun hcall hother rfl (by simp)
  exact ⟨_, _, _, hrun, hcall, hother, hlt, hne⟩

end SecondFactor.RelyingParty
