import Mathlib.Data.Fin.VecNotation
import SecondFactor.Proofs.RelyingParty.Progress
import SecondFactor.Proofs.RelyingParty.Serial
import SecondFactor.Proofs.Splits

/-!
However calls interleave, they end as if they had been made one after the other,
`calls_serialized`. Responses that found no session come last in that order, wherever they ran.
-/

namespace SecondFactor.RelyingParty

variable {n : Nat} {party : RelyingParty} {store : AccountStore} {events : Fin n → Event}
  {initial serial : AccountStore} {stages : Fin n → Stage} {order : List (Fin n)}
  {caller : Fin n} {first last : Traffic n} {accesses : List (Access n)}

/-- The event is one of the call, with some result. -/
def Call.Reports : Call → Event → Prop
  | .respond response, event => ∃ result, event = response.event result
  | .removeKey account publicKey, event => ∃ result, event = .removeKey account publicKey result

/-- A response holds a signature with a counter. Whose key it is by says its session. -/
def Carries (store : AccountStore) (response : Web.SignResponse) (account : String)
    (publicKey : Bytes) (counter : UInt32) : Prop :=
  ∃ session authentication, store.session? response.sessionId = some session ∧
    session.account = account ∧ session.publicKey? = some publicKey ∧
    Raw.AuthenticationResponse.decode response.signatureData = .ok authentication ∧
    authentication.counter = counter

/-- What is true of calls that were under way at once, from the store they began with to the one
they left. -/
structure Serialized (party : RelyingParty) (calls : Fin n → Call) (store : AccountStore)
    (events : Fin n → Event) (accesses : List (Access n)) (last : AccountStore) : Prop where
  called : ∀ caller, (calls caller).Reports (events caller)
  /-- Made one after the other in some order, the calls have the same results, and leave the same
  sessions and the same keys. -/
  inOrder : ∃ (order : List (Fin n)) (history : List Moment) (final : AccountStore),
    order.Perm (List.finRange n) ∧ Run party.Step store history final ∧
    history.map Moment.event = order.map events ∧
    (∀ id, final.session? id = last.session? id) ∧ ∀ account, final.keys account = last.keys account
  /-- One call at most gets past the check of a session. -/
  taken : accesses.Pairwise fun access other => ∀ id, access.Takes id → ¬ other.Takes id
  refused : ∀ caller other, caller ≠ other → ∀ kind kind' id,
    (events caller).answered? = some (kind, id) → (events other).answered? = some (kind', id) →
      (events caller).answer? = some (.error .unknownSession) ∨
        (events other).answer? = some (.error .unknownSession)
  /-- One of the signatures of a key with one counter is taken at most. -/
  counted : ∀ caller other, caller ≠ other → ∀ response response' record record',
    events caller = .acceptSignature response (.ok record) →
      events other = .acceptSignature response' (.ok record') → ∀ account publicKey counter,
        Carries store response account publicKey counter →
          ¬ Carries store response' account publicKey counter

/-! Each call ends in an event of its own. -/

/-- What is reported of an operation is one of its results, whatever went on beside it. -/
theorem exists_result_of_report {α : Type} {talk : Talk α} {event : Except Failure α → Event}
    {reported : Event} (hrun : Run Traffic.Step first accesses last)
    (hfirst : first.talks caller = talk.report event)
    (hdone : last.talks caller = .done reported) : ∃ result, reported = event result := by
  have hafter := after_of_run hrun caller
  rw [hfirst, hdone] at hafter
  obtain ⟨rest, _, hrest⟩ := Dialogue.after_map_attempt hafter
  obtain ⟨result, _, hresult⟩ := Dialogue.map_attempt_eq_done hrest.symm
  exact ⟨result, hresult⟩

theorem reports_of_run {calls : Fin n → Call}
    (hrun : Run Traffic.Step (.ofCalls party store calls) accesses last) {event : Event}
    (hdone : last.talks caller = .done event) : (calls caller).Reports event := by
  have htalk : (Traffic.ofCalls party store calls).talks caller = (calls caller).talk party := rfl
  cases hcall : calls caller with
  | respond response =>
      rw [hcall] at htalk
      exact exists_result_of_report hrun htalk hdone
  | removeKey account publicKey =>
      rw [hcall] at htalk
      exact exists_result_of_report hrun htalk hdone

/-! The order. -/

/-- What a call has ended in is its result. -/
theorem result_of_ended (hrun : Run Traffic.Step first accesses last)
    (hfollows : ∀ caller, Follows party (first.talks caller) (stages caller))
    (hdone : ∀ caller, last.talks caller = .done (events caller)) {event : Event}
    (hended : stages caller = .ended event) : events caller = event := by
  induction hrun generalizing stages with
  | done =>
      have hcaller := hfollows caller
      rw [hdone, hended] at hcaller
      rcases hcaller.of_done with hsame | ⟨response, hsame, _⟩
      · cases hsame
        rfl
      · cases hsame
  | @step first between last access rest hstep _ ih =>
      rcases hstep.follows hfollows with ⟨hafter, _⟩ | ⟨hafter, _⟩
      · exact ih hafter hdone hended
      · refine ih hafter hdone ?_
        by_cases hcaller : caller = access.caller
        · rw [← hcaller, Function.update_self, hended]
          rfl
        · rw [Function.update_of_ne hcaller, hended]

theorem exists_serializes (hrun : Run Traffic.Step first accesses last)
    (hfollows : ∀ caller, Follows party (first.talks caller) (stages caller))
    (hserial : Serializes party events initial first.state stages order serial)
    (hapart : Apart initial events) (hdone : ∀ caller, last.talks caller = .done (events caller)) :
    ∃ stages order serial, (∀ caller, Follows party (last.talks caller) (stages caller)) ∧
      Serializes party events initial last.state stages order serial := by
  induction hrun generalizing stages order serial with
  | done => exact ⟨stages, order, serial, hfollows, hserial⟩
  | @step first between last access rest hstep hrest ih =>
      rcases hstep.follows hfollows with ⟨hafter, hstore⟩ | ⟨hafter, hstore⟩
      · exact ih hafter (hstore ▸ hserial) hdone
      · obtain ⟨order, serial, hserial⟩ := hserial.step hapart fun event hnext =>
          result_of_ended hrest hafter hdone (by rw [Function.update_self, hnext])
        exact ih hafter (hstore ▸ hserial) hdone

theorem serializes_of_start (party : RelyingParty) (events : Fin n → Event)
    (store : AccountStore) (calls : Fin n → Call) :
    Serializes party events store store (fun caller => .start (calls caller)) [] store where
  ran := ⟨[], .done store, rfl, by simp⟩
  nodup := List.nodup_nil
  mem_order caller := by simp
  keys _ := rfl
  shares := ⟨by simp [Stage.held?], by simp [Stage.held?], by simp [Stage.held?]⟩
  fits _ := trivial

theorem run_of_refused {callers : List (Fin n)}
    (hrefused : ∀ caller ∈ callers, (events caller).Leads party serial serial) :
    Run party.Step serial (callers.map fun caller => ⟨serial, events caller, serial⟩) serial := by
  induction callers with
  | nil => exact .done serial
  | cons caller rest ih =>
      refine .step (.call _ (hrefused caller List.mem_cons_self)) (ih fun other hmem => ?_)
      exact hrefused other (List.mem_cons_of_mem _ hmem)

theorem append_filter_perm_finRange (hnodup : order.Nodup) :
    (order ++ (List.finRange n).filter fun caller => caller ∉ order).Perm (List.finRange n) := by
  refine (List.perm_ext_iff_of_nodup ?_ (List.nodup_finRange n)).2 fun caller => ?_
  · refine hnodup.append ((List.nodup_finRange n).filter _) fun caller hmem hrest => ?_
    have hout : caller ∉ order := by simpa using hrest
    exact hout hmem
  · simp [em]

/-- Once no call is under way any more, those that were refused can be made last. -/
theorem Serializes.complete (hserial : Serializes party events initial store stages order serial)
    (hdone : ∀ caller, Follows party (.done (events caller)) (stages caller)) :
    ∃ (order : List (Fin n)) (history : List Moment), order.Perm (List.finRange n) ∧
      Run party.Step initial history serial ∧ history.map Moment.event = order.map events ∧
      (∀ moment ∈ history, moment.issued = []) ∧
      ∀ id, serial.session? id = store.session? id := by
  have hsessions : ∀ id, serial.session? id = store.session? id := by
    intro id
    refine Option.ext fun session => ?_
    rw [hserial.shares.session?_iff, or_iff_left]
    rintro ⟨caller, hheld⟩
    rw [Function.comp_apply] at hheld
    rcases (hdone caller).of_done with hstage | ⟨response, hstage, _⟩ <;>
      simp [hstage, Stage.held?] at hheld
  obtain ⟨history, hrun, hevents, hquiet⟩ := hserial.ran
  have hrefused : ∀ caller ∉ order, ∃ response : Response,
      events caller = response.event (.error .unknownSession) ∧
        (events caller).Leads party serial serial := by
    intro caller hcaller
    rcases (hdone caller).of_done with hstage | ⟨response, hstage, hevent⟩
    · exact absurd ((hserial.mem_order caller).2 ⟨_, hstage⟩) hcaller
    · have hfits := hserial.fits caller
      rw [hstage] at hfits
      refine ⟨response, hevent, ?_⟩
      rw [hevent]
      refine response.leads_of_none ?_
      rw [AccountStore.waiting?, hsessions]
      exact hfits
  let rest := (List.finRange n).filter fun caller => caller ∉ order
  have hrest : ∀ caller ∈ rest, caller ∉ order := by simp [rest]
  have hlast : Run party.Step serial (rest.map fun caller => ⟨serial, events caller, serial⟩)
      serial := by
    refine run_of_refused fun caller hmem => ?_
    obtain ⟨_, _, hleads⟩ := hrefused caller (hrest caller hmem)
    exact hleads
  refine ⟨order ++ rest, _, ?_, hrun.append hlast, ?_, ?_, hsessions⟩
  · exact append_filter_perm_finRange hserial.nodup
  · rw [List.map_append, List.map_append, hevents, List.map_map]
    rfl
  · intro moment hmem
    rcases List.mem_append.1 hmem with hmem | hmem
    · exact hquiet moment hmem
    · obtain ⟨caller, hcaller, rfl⟩ := List.mem_map.1 hmem
      obtain ⟨response, hevent, _⟩ := hrefused caller (hrest caller hcaller)
      rw [hevent]
      cases response <;> rfl

/-! What the order says of two of the calls. -/

variable {history : List Moment} {final : AccountStore}

/-- Of two calls in an order, one is made before the other. -/
theorem exists_moments (hevents : history.map Moment.event = order.map events)
    (hperm : order.Perm (List.finRange n)) {other : Fin n} (hne : caller ≠ other) :
    ∃ earlier call between call' later, history = earlier ++ call :: between ++ call' :: later ∧
      (call.event = events caller ∧ call'.event = events other ∨
        call.event = events other ∧ call'.event = events caller) := by
  have hmem : ∀ caller, caller ∈ order := fun caller => hperm.mem_iff.2 (List.mem_finRange caller)
  have hcut : ∀ {earlier between later : List (Fin n)} {first second : Fin n},
      order = earlier ++ first :: between ++ second :: later →
        ∃ earlier call between call' later, history = earlier ++ call :: between ++ call' :: later ∧
          call.event = events first ∧ call'.event = events second := by
    intro earlier between later first second horder
    rw [horder, List.map_append, List.map_append, List.map_cons, List.map_cons] at hevents
    obtain ⟨upto, rest, rfl, hupto, hrest⟩ := List.map_eq_append_iff.1 hevents
    obtain ⟨before, middle, rfl, _, hmiddle⟩ := List.map_eq_append_iff.1 hupto
    obtain ⟨call, inner, rfl, hcall, _⟩ := List.map_eq_cons_iff.1 hmiddle
    obtain ⟨call', after, rfl, hcall', _⟩ := List.map_eq_cons_iff.1 hrest
    exact ⟨before, call, inner, call', after, rfl, hcall, hcall'⟩
  obtain ⟨earlier, between, later, horder | horder⟩ := exists_between (hmem caller) (hmem other) hne
  · obtain ⟨before, call, middle, call', after, hhistory, hcall⟩ := hcut horder
    exact ⟨before, call, middle, call', after, hhistory, Or.inl hcall⟩
  · obtain ⟨before, call, middle, call', after, hhistory, hcall⟩ := hcut horder
    exact ⟨before, call, middle, call', after, hhistory, Or.inr hcall⟩

theorem Step.consumes {before after : AccountStore} {moment : Moment}
    (hstep : Step party before moment after) {kind : Web.ClientDataKind} {id : String}
    (hanswered : moment.event.answered? = some (kind, id))
    (hanswer : moment.event.answer? ≠ some (.error .unknownSession)) : moment.Consumes id := by
  rcases hstep.answer hanswered with ⟨_, hrefused, _⟩ | ⟨session, hwaiting, _⟩
  · exact absurd hrefused hanswer
  · exact ⟨kind, session, hanswered, by rw [hstep.met]; exact hwaiting⟩

/-- Of two calls one after the other with one session id, one is refused. -/
theorem refused_of_answered {earlier between later : List Moment} {call call' : Moment}
    (hrun : Run party.Step initial (earlier ++ call :: between ++ call' :: later) final)
    (hquiet : ∀ moment ∈ between, moment.issued = []) {kind kind' : Web.ClientDataKind}
    {id : String} (hcall : call.event.answered? = some (kind, id))
    (hcall' : call'.event.answered? = some (kind', id)) :
    call.event.answer? = some (.error .unknownSession) ∨
      call'.event.answer? = some (.error .unknownSession) := by
  by_contra hboth
  rw [not_or] at hboth
  obtain ⟨_, _, hupto, hstep', _⟩ := hrun.cut_at
  obtain ⟨_, _, _, hstep, _⟩ := hupto.cut_at
  obtain ⟨moment, hmem, hissued⟩ := issued_between_of_consumes hrun
    (Step.consumes hstep hcall hboth.1) (Step.consumes hstep' hcall' hboth.2)
  rw [hquiet moment hmem] at hissued
  cases hissued

/-- What a taken signature carries is for the record that it leaves. -/
theorem Step.carried {before after : AccountStore} {moment : Moment}
    (hstep : Step party before moment after) {response : Web.SignResponse}
    {record : Web.Enrolment} (hevent : moment.event = .acceptSignature response (.ok record))
    (hinitial : ∀ id session, before.session? id = some session → store.session? id = some session)
    {account : String} {publicKey : Bytes} {counter : UInt32}
    (hcarries : Carries store response account publicKey counter) :
    moment.Accepts account response record ∧ record.publicKey = publicKey ∧
      record.counter = counter := by
  obtain ⟨session, authentication, hsession, haccount, hkey, hdecoded, rfl⟩ := hcarries
  have hmet := hstep.met
  obtain ⟨event, hleads⟩ := hstep
  simp only at hevent
  subst hevent
  obtain ⟨waiting, key, found, hchecked⟩ := leads_acceptSignature_ok hleads
  have hwaiting := (AccountStore.waiting?_eq_some_iff.1 hchecked.waiting).1
  have hsame := hinitial _ _ hwaiting
  rw [hsession] at hsame
  cases hsame
  obtain ⟨_, _, hsigned⟩ := readAuthentication_eq_ok_iff.1 hchecked.read
  have hfound := hsigned.decoded
  rw [hdecoded] at hfound
  cases hfound
  refine ⟨⟨rfl, session, hwaiting, haccount⟩, ?_, ?_⟩
  · have hrecord := hchecked.publicKey
    rw [hkey] at hrecord
    exact (Option.some.inj hrecord).symm
  · rw [hchecked.record_eq]

/-- Of two calls one after the other, one takes a signature of a key with a counter at most. -/
theorem not_carries_of_carries {earlier between later : List Moment} {call call' : Moment}
    (hrun : Run party.Step initial (earlier ++ call :: between ++ call' :: later) final)
    (hquiet : ∀ moment ∈ earlier ++ call :: between ++ call' :: later, moment.issued = [])
    (hevents : ∀ moment ∈ between, ∃ caller, moment.event = events caller)
    (hapart : Apart initial events) {response response' : Web.SignResponse}
    {record record' : Web.Enrolment} (hcall : call.event = .acceptSignature response (.ok record))
    (hcall' : call'.event = .acceptSignature response' (.ok record')) {account : String}
    {publicKey : Bytes} {counter : UInt32}
    (hcarries : Carries initial response account publicKey counter) :
    ¬ Carries initial response' account publicKey counter := by
  intro hcarries'
  obtain ⟨_, _, hupto, hstep', _⟩ := hrun.cut_at
  obtain ⟨_, _, _, hstep, _⟩ := hupto.cut_at
  have hinitial : ∀ moment ∈ earlier ++ call :: between ++ call' :: later, ∀ id session,
      moment.before.session? id = some session → initial.session? id = some session :=
    fun moment hmem _ _ => session?_of_mem hrun hquiet hmem
  obtain ⟨haccepts, rfl, rfl⟩ := Step.carried hstep hcall
    (hstep.met ▸ hinitial call (by simp)) hcarries
  obtain ⟨haccepts', hkey, hcounter⟩ := Step.carried hstep' hcall'
    (hstep'.met ▸ hinitial call' (by simp)) hcarries'
  refine UInt32.lt_irrefl record.counter ?_
  have hlt : record.counter < record'.counter := by
    refine counter_lt_of_accepts hrun haccepts haccepts' hkey ?_
    intro remover hremover enroller henroller hremoves henrols
    obtain ⟨caller, hcaller⟩ := hevents remover hremover
    obtain ⟨other, hother⟩ := hevents enroller henroller
    obtain ⟨enrolled, now, key, session, hevent, hsession, haccount, hsame⟩ := henrols
    refine hapart caller other _ _ (hcaller ▸ hremoves)
      ⟨enrolled, now, key, session, hother ▸ hevent, ?_, haccount, hsame⟩
    exact hinitial enroller (by simp [henroller]) _ _ hsession
  rwa [hcounter] at hlt

/-! The check of a session. -/

theorem Traffic.Step.takes {before after : Traffic n} {access : Access n}
    (hstep : Traffic.Step before access after) {id : String} (htakes : access.Takes id) :
    (∃ session, before.state.session? id = some session) ∧ after.state.session? id = none := by
  obtain ⟨caller, session, rfl⟩ := htakes
  cases hstep with
  | answer hasks hanswer =>
      obtain ⟨hgiven, hrest⟩ := Prod.mk.inj (Option.some.inj hanswer)
      obtain ⟨rfl, _⟩ := Prod.mk.inj hrest
      refine ⟨⟨session, Except.ok.inj hgiven⟩, ?_⟩
      rw [AccountStore.session?_closeSession, if_pos rfl]

theorem Traffic.Step.session?_eq_none {before after : Traffic n} {access : Access n}
    (hstep : Traffic.Step before access after)
    (hfollows : ∀ caller, Follows party (before.talks caller) (stages caller)) {id : String}
    (hnone : before.state.session? id = none) : after.state.session? id = none := by
  rcases hstep.follows hfollows with ⟨_, hstore⟩ | ⟨_, hstore⟩
  · rw [hstore, hnone]
  · rw [hstore, Option.eq_none_iff_forall_ne_some]
    intro session hsession
    rw [Stage.session?_of_effect hsession] at hnone
    cases hnone

theorem not_takes_of_none (hrun : Run Traffic.Step first accesses last)
    (hfollows : ∀ caller, Follows party (first.talks caller) (stages caller)) {id : String}
    (hnone : first.state.session? id = none) : ∀ access ∈ accesses, ¬ access.Takes id := by
  induction hrun generalizing stages with
  | done => simp
  | @step first between last access rest hstep _ ih =>
      intro other hmem
      rcases List.mem_cons.1 hmem with rfl | hmem
      · intro htakes
        obtain ⟨⟨session, hsession⟩, _⟩ := hstep.takes htakes
        rw [hnone] at hsession
        cases hsession
      · obtain ⟨_, hafter⟩ := hstep.exists_follows hfollows
        exact ih hafter (hstep.session?_eq_none hfollows hnone) other hmem

/-- A session is taken once. -/
theorem pairwise_takes (hrun : Run Traffic.Step first accesses last)
    (hfollows : ∀ caller, Follows party (first.talks caller) (stages caller)) :
    accesses.Pairwise fun access other => ∀ id, access.Takes id → ¬ other.Takes id := by
  induction hrun generalizing stages with
  | done => exact .nil
  | @step first between last access rest hstep hrest ih =>
      obtain ⟨_, hafter⟩ := hstep.exists_follows hfollows
      refine List.pairwise_cons.2 ⟨fun other hmem id htakes => ?_, ih hafter⟩
      exact not_takes_of_none hrest hafter (hstep.takes htakes).2 other hmem

theorem calls_serialized {calls : Fin n → Call}
    (hrun : Run Traffic.Step (.ofCalls party store calls) accesses last)
    (hdone : ∀ caller, last.talks caller = .done (events caller)) (hapart : Apart store events) :
    Serialized party calls store events accesses last.state := by
  have hstart : ∀ caller, Follows party ((Traffic.ofCalls party store calls).talks caller)
      (.start (calls caller)) := fun caller => follows_start (calls caller)
  obtain ⟨stages, order, final, hlast, hserial⟩ :=
    exists_serializes hrun hstart (serializes_of_start party events store calls) hapart hdone
  obtain ⟨order, history, hperm, hhistory, hevents, hquiet, hsessions⟩ :=
    hserial.complete fun caller => hdone caller ▸ hlast caller
  refine ⟨fun caller => reports_of_run hrun (hdone caller), ?_, pairwise_takes hrun hstart, ?_, ?_⟩
  · exact ⟨order, history, final, hperm, hhistory, hevents, hsessions,
      fun account => (hserial.keys account).symm⟩
  · intro caller other hne kind kind' id hanswered hanswered'
    obtain ⟨earlier, call, between, call', later, rfl, ⟨hcall, hcall'⟩ | ⟨hcall, hcall'⟩⟩ :=
      exists_moments hevents hperm hne
    · rw [← hcall] at hanswered ⊢
      rw [← hcall'] at hanswered' ⊢
      exact refused_of_answered hhistory (fun moment hmem => hquiet moment (by simp [hmem]))
        hanswered hanswered'
    · rw [← hcall'] at hanswered ⊢
      rw [← hcall] at hanswered' ⊢
      exact (refused_of_answered hhistory (fun moment hmem => hquiet moment (by simp [hmem]))
        hanswered' hanswered).symm
  · intro caller other hne response response' record record' hevent hevent' account publicKey
      counter hcarries hcarries'
    have hmem : ∀ moment ∈ history, ∃ caller, moment.event = events caller := by
      intro moment hmem
      have hmap := List.mem_map_of_mem (f := Moment.event) hmem
      rw [hevents] at hmap
      obtain ⟨caller, _, hcaller⟩ := List.mem_map.1 hmap
      exact ⟨caller, hcaller.symm⟩
    obtain ⟨earlier, call, between, call', later, rfl, ⟨hcall, hcall'⟩ | ⟨hcall, hcall'⟩⟩ :=
      exists_moments hevents hperm hne
    · exact not_carries_of_carries hhistory hquiet (fun moment hin => hmem moment (by simp [hin]))
        hapart (hcall.trans hevent) (hcall'.trans hevent') hcarries hcarries'
    · exact not_carries_of_carries hhistory hquiet (fun moment hin => hmem moment (by simp [hin]))
        hapart (hcall.trans hevent') (hcall'.trans hevent) hcarries' hcarries

/-! Two signatures of one key, which are both checked before either counter is raised. -/

def raceCalls : Fin 2 → Call :=
  ![.respond (.signature firstResponse), .respond (.signature secondResponse)]

/-- The store once both sessions are taken. -/
def raceStore : AccountStore :=
  (sampleStore.closeSession "first").closeSession "second"

theorem update_left (left right stage : Stage) :
    Function.update ![left, right] 0 stage = ![stage, right] :=
  funext (Fin.forall_fin_two.2 ⟨rfl, rfl⟩)

theorem update_right (left right stage : Stage) :
    Function.update ![left, right] 1 stage = ![left, stage] :=
  funext (Fin.forall_fin_two.2 ⟨rfl, rfl⟩)

theorem checked_sampleResponse {id : String} {signatureData : Bytes} {counter : UInt32}
    (hread : (sampleParty.readAuthentication sampleSession (sampleKey 0)
      (sampleResponse id signatureData)).toOption.map Raw.AuthenticationResponse.counter =
        some counter) :
    sampleParty.checked sampleSession (sampleResponse id signatureData)
        KeyPair.base.publicKey.bytes [sampleKey 0] =
      .working sampleSession (.raise (sampleResponse id signatureData) (sampleKey 0) counter) := by
  obtain ⟨authentication, hsome, rfl⟩ := Option.map_eq_some_iff.1 hread
  have hfound : ([sampleKey 0].find? fun key =>
      key.publicKey = KeyPair.base.publicKey.bytes).filter (fun key =>
        key.keyHandle = (sampleResponse id signatureData).keyHandle) = some (sampleKey 0) := by
    simp [sampleKey, sampleResponse]
  rw [checked, hfound]
  simp only [eq_ok_of_toOption_eq_some hsome]

theorem reaches_raceStore :
    Reaches sampleParty (.ofCalls sampleParty sampleStore raceCalls) raceStore ![
      .working sampleSession (.read firstResponse KeyPair.base.publicKey.bytes),
      .working sampleSession (.read secondResponse KeyPair.base.publicKey.bytes)] := by
  have hfirst : sampleStore.waiting? .authentication firstResponse.sessionId =
      some sampleSession := by decide +kernel
  have hsecond : sampleStore.waiting? .authentication secondResponse.sessionId =
      some sampleSession := by decide +kernel
  have hleft : (sampleStore.closeSession firstResponse.sessionId).waiting? .authentication
      secondResponse.sessionId = some sampleSession := by decide +kernel
  have hstart : Reaches sampleParty (.ofCalls sampleParty sampleStore raceCalls) sampleStore ![
      .start (.respond (.signature firstResponse)),
      .start (.respond (.signature secondResponse))] := by
    convert reaches_start sampleParty sampleStore raceCalls using 1
    exact funext (Fin.forall_fin_two.2 ⟨rfl, rfl⟩)
  have hseen : Reaches sampleParty (.ofCalls sampleParty sampleStore raceCalls) sampleStore ![
      .seen (.signature firstResponse), .seen (.signature secondResponse)] := by
    simpa [update_left, update_right, Stage.next, Stage.effect, Response.kind,
      Response.sessionId, hfirst, hsecond] using (hstart.next 0).next 1
  have htaken := (hseen.next 0).next 1
  simp only [update_left, update_right, Stage.next, Stage.effect, Response.kind,
    Response.sessionId, hfirst, hleft, Matrix.cons_val_zero, Matrix.cons_val_one] at htaken
  exact htaken

theorem reaches_race : ∃ store,
    Reaches sampleParty (.ofCalls sampleParty sampleStore raceCalls) store ![
      .ended (.acceptSignature firstResponse (.error (.counterRegression 2 1))),
      .ended (.acceptSignature secondResponse (.ok (sampleKey 2)))] := by
  have hkeys : raceStore.keys sampleSession.account = [sampleKey 0] := rfl
  have hfirst : sampleParty.checked sampleSession firstResponse KeyPair.base.publicKey.bytes
      [sampleKey 0] = .working sampleSession (.raise firstResponse (sampleKey 0) 1) :=
    checked_sampleResponse (by decide +kernel)
  have hsecond : sampleParty.checked sampleSession secondResponse KeyPair.base.publicKey.bytes
      [sampleKey 0] = .working sampleSession (.raise secondResponse (sampleKey 0) 2) :=
    checked_sampleResponse (by decide +kernel)
  have hchecked : Reaches sampleParty (.ofCalls sampleParty sampleStore raceCalls) raceStore ![
      .working sampleSession (.raise firstResponse (sampleKey 0) 1),
      .working sampleSession (.raise secondResponse (sampleKey 0) 2)] := by
    simpa [update_left, update_right, Stage.next, Stage.effect, Work.next, Work.effect, hkeys,
      hfirst, hsecond] using (reaches_raceStore.next 0).next 1
  have hraised : raceStore.raiseCounter sampleSession.account (sampleKey 0).publicKey 2 =
      (.ok (sampleKey 2), raceStore.setKeys "ann" [sampleKey 2]) := rfl
  have hregressed : (raceStore.setKeys "ann" [sampleKey 2]).raiseCounter sampleSession.account
      (sampleKey 0).publicKey 1 =
        (.error (.counterRegression 2 1), raceStore.setKeys "ann" [sampleKey 2]) := rfl
  refine ⟨raceStore.setKeys "ann" [sampleKey 2], ?_⟩
  simpa [update_left, update_right, Stage.next, Stage.effect, Work.next, Work.effect, hraised,
    hregressed] using (hchecked.next 1).next 0

theorem calls_serialized_race : ∃ accesses last events,
    Run Traffic.Step (.ofCalls sampleParty sampleStore raceCalls) accesses last ∧
      events 0 = .acceptSignature firstResponse (.error (.counterRegression 2 1)) ∧
      events 1 = .acceptSignature secondResponse (.ok (sampleKey 2)) ∧
      Serialized sampleParty raceCalls sampleStore events accesses last.state := by
  obtain ⟨_, accesses, between, hrun, _, hfollows⟩ := reaches_race
  obtain ⟨accesses', last, events, hrest, hdone⟩ := calls_complete hrun
  have hfirst : events 0 = .acceptSignature firstResponse (.error (.counterRegression 2 1)) :=
    result_of_ended hrest hfollows hdone rfl
  have hsecond : events 1 = .acceptSignature secondResponse (.ok (sampleKey 2)) :=
    result_of_ended hrest hfollows hdone rfl
  have hapart : Apart sampleStore events := by
    intro remover enroller account publicKey hremoves
    have hnone : ∀ caller, ¬ (events caller).Removes account publicKey :=
      Fin.forall_fin_two.2 ⟨by simp [hfirst, Event.Removes], by simp [hsecond, Event.Removes]⟩
    exact absurd hremoves (hnone remover)
  exact ⟨_, last, events, hrun.append hrest, hfirst, hsecond,
    calls_serialized (hrun.append hrest) hdone hapart⟩

end SecondFactor.RelyingParty
