import Mathlib.Data.List.Induction
import SecondFactor.Proofs.RelyingParty.History
import SecondFactor.Proofs.Table

/-!
The account of sessions. The sessions of a store are those that were issued and not answered since,
every one is used up by one call at most, and a call for no session that waits changes nothing.
-/

namespace SecondFactor.RelyingParty

/-- The kind and the id of the session that a call answers. -/
def Event.answered? : Event → Option (Web.ClientDataKind × String)
  | .acceptRegistration response _ _ => some (.registration, response.sessionId)
  | .acceptSignature response _ => some (.authentication, response.sessionId)
  | _ => none

/-- The result of a call that answers a session. -/
def Event.answer? : Event → Option (Except Failure Web.Enrolment)
  | .acceptRegistration _ _ result => some result
  | .acceptSignature _ result => some result
  | _ => none

def Event.succeeds (event : Event) : Bool :=
  match event.answer? with
  | some (.ok _) => true
  | _ => false

/-- The sessions that a call opens, each under the id it gives out. -/
def Moment.issued (moment : Moment) : List (String × Web.Session) :=
  match moment.event with
  | .requestRegistration account appId (.ok request) =>
    [(request.sessionId, registrationSession account appId request)]
  | .requestSignatures account appId (.ok requests) =>
    signatureSessions account appId (moment.before.keys account) requests
  | _ => []

/-- A session was issued under an id, and no response of its kind came for that id since. -/
def Pending (history : List Moment) (id : String) (session : Web.Session) : Prop :=
  ∃ earlier moment later, history = earlier ++ moment :: later ∧ (id, session) ∈ moment.issued ∧
    ∀ other ∈ later, other.event.answered? ≠ some (session.awaits, id)

/-- A call answers a session that waits for it. -/
def Moment.Consumes (moment : Moment) (id : String) : Prop :=
  ∃ kind session, moment.event.answered? = some (kind, id) ∧
    moment.before.waiting? kind id = some session

variable {party : RelyingParty} {before after : AccountStore} {moment : Moment}

/-- A session is issued for a new key, or for a signature by a key of the account. -/
theorem Moment.issued_cases {id : String} {session : Web.Session}
    (hissued : (id, session) ∈ moment.issued) :
    (∃ account appId request, moment.event = .requestRegistration account appId (.ok request) ∧
        id = request.sessionId ∧ session = registrationSession account appId request) ∨
      ∃ account appId requests, moment.event = .requestSignatures account appId (.ok requests) ∧
        ∃ request ∈ requests, ∃ key ∈ moment.before.keys account, id = request.sessionId ∧
          session = ⟨account, appId, request.challenge, .sign key.publicKey⟩ := by
  unfold Moment.issued at hissued
  split at hissued
  · rename_i account appId request hevent
    obtain ⟨rfl, rfl⟩ := Prod.mk.inj (List.mem_singleton.1 hissued)
    exact .inl ⟨account, appId, request, hevent, rfl, rfl⟩
  · rename_i account appId requests hevent
    obtain ⟨index, _, hentry⟩ := List.getElem_of_mem hissued
    simp only [signatureSessions, List.getElem_zipWith] at hentry
    cases hentry
    exact .inr ⟨account, appId, requests, hevent, _, List.getElem_mem _, _, List.getElem_mem _,
      rfl, rfl⟩
  · cases hissued

theorem map_fst_signatureSessions (account appId : String) {challenge : Bytes}
    {keys : List Web.Enrolment} {requests : List Web.SignRequest}
    (hrequests : List.Forall₂ (RequestsKey appId challenge) keys requests) :
    (signatureSessions account appId keys requests).map Prod.fst =
      requests.map Web.SignRequest.sessionId := by
  induction hrequests with
  | nil => rfl
  | cons _ _ ih =>
      simp only [signatureSessions, List.zipWith_cons_cons, List.map_cons]
      rw [← ih]
      rfl

/-- A call opens its sessions under ids that no session has, and opens nothing else. -/
theorem Step.fresh_issued (hstep : Step party before moment after) :
    before.Fresh (moment.issued.map Prod.fst) := by
  obtain ⟨event, hleads⟩ := hstep
  have hnothing : before.Fresh [] := ⟨List.nodup_nil, by simp⟩
  cases event with
  | requestRegistration account appId result =>
      obtain ⟨request, rfl, _, _, hfresh, _⟩ := ends_requestRegistration hleads
      exact ⟨by simp [Moment.issued], by simpa [Moment.issued] using hfresh⟩
  | requestSignatures account appId result =>
      rcases ends_requestSignatures hleads with
        ⟨_, rfl, _⟩ | ⟨challenge, requests, _, rfl, hall, hfresh, _⟩
      · exact hnothing
      · simp only [Moment.issued]
        rw [map_fst_signatureSessions account appId hall]
        exact hfresh
  | acceptRegistration => exact hnothing
  | acceptSignature => exact hnothing
  | keys => exact hnothing
  | removeKey => exact hnothing

theorem Step.answer (hstep : Step party before moment after) {kind : Web.ClientDataKind}
    {id : String} (hanswered : moment.event.answered? = some (kind, id)) :
    (before.waiting? kind id = none ∧ moment.event.answer? = some (.error .unknownSession) ∧
        after = before) ∨
      ∃ session, before.waiting? kind id = some session ∧
        after.sessions = (before.closeSession id).sessions := by
  obtain ⟨event, hleads⟩ := hstep
  cases event with
  | acceptRegistration response now given =>
      cases hanswered
      rcases leads_acceptRegistration hleads with
        ⟨hnone, rfl, rfl⟩ | ⟨session, hwaiting, ⟨_, _, _, rfl⟩ | ⟨_, _, _, rfl⟩⟩
      · exact Or.inl ⟨hnone, rfl, rfl⟩
      · exact Or.inr ⟨session, hwaiting, rfl⟩
      · exact Or.inr ⟨session, hwaiting, rfl⟩
  | acceptSignature response given =>
      cases hanswered
      rcases leads_acceptSignature hleads with
        ⟨hnone, rfl, rfl⟩ | ⟨session, hwaiting, ⟨_, _, _, rfl⟩ | ⟨_, _, _, _, rfl⟩⟩
      · exact Or.inl ⟨hnone, rfl, rfl⟩
      · exact Or.inr ⟨session, hwaiting, rfl⟩
      · exact Or.inr ⟨session, hwaiting, rfl⟩
  | requestRegistration => cases hanswered
  | requestSignatures => cases hanswered
  | keys => cases hanswered
  | removeKey => cases hanswered

theorem session?_eq_of_sessions_eq {store other : AccountStore} (id : String)
    (hsessions : store.sessions = other.sessions) : store.session? id = other.session? id := by
  rw [AccountStore.session?, AccountStore.session?, hsessions]

/-- What an answer does to the sessions: it removes the one it names, if that waits for it. -/
theorem Step.session?_iff_of_answered (hstep : Step party before moment after)
    {kind : Web.ClientDataKind} {answered : String}
    (hanswered : moment.event.answered? = some (kind, answered)) (id : String)
    (session : Web.Session) :
    after.session? id = some session ↔
      before.session? id = some session ∧
        moment.event.answered? ≠ some (session.awaits, id) := by
  rw [hanswered]
  rcases hstep.answer hanswered with ⟨hnone, _, rfl⟩ | ⟨waiting, hwaiting, hsessions⟩
  · constructor
    · intro hsession
      refine ⟨hsession, ?_⟩
      rintro ⟨rfl, rfl⟩
      exact AccountStore.waiting?_eq_none_iff.1 hnone session hsession rfl
    · exact fun hsession => hsession.1
  · rw [session?_eq_of_sessions_eq id hsessions, AccountStore.session?_closeSession]
    obtain ⟨hwaits, hkind⟩ := AccountStore.waiting?_eq_some_iff.1 hwaiting
    by_cases hid : id = answered
    · subst hid
      simp only [if_true, reduceCtorEq, false_iff, not_and, not_not]
      intro hsession
      rw [hwaits] at hsession
      cases hsession
      rw [hkind]
    · have hother : answered ≠ id := Ne.symm hid
      simp [hid, hother]

/-- What a call does to the sessions: it opens those it issues, and closes the one it answers. -/
theorem Step.session?_iff (hstep : Step party before moment after) (id : String)
    (session : Web.Session) :
    after.session? id = some session ↔
      (id, session) ∈ moment.issued ∨ before.session? id = some session ∧
        moment.event.answered? ≠ some (session.awaits, id) := by
  have hfresh := hstep.fresh_issued
  obtain ⟨event, hleads⟩ := hstep
  cases event with
  | requestRegistration account appId result =>
      obtain ⟨request, rfl, _, _, hnone, rfl⟩ := ends_requestRegistration hleads
      rw [AccountStore.session?_openSession]
      by_cases hid : id = request.sessionId
      · subst hid
        simp [Moment.issued, Event.answered?, hnone, eq_comm]
      · simp [Moment.issued, Event.answered?, hid]
  | requestSignatures account appId result =>
      rcases ends_requestSignatures hleads with
        ⟨_, rfl, rfl⟩ | ⟨challenge, requests, _, rfl, hall, _, rfl⟩
      · simp [Moment.issued, Event.answered?]
      · refine (AccountStore.session?_openAll hfresh.1 id session).trans (or_congr_right ?_)
        constructor
        · exact fun hold => ⟨hold.2, by simp [Event.answered?]⟩
        · intro hold
          refine ⟨fun hmem => ?_, hold.1⟩
          have hnone := hfresh.2 id hmem
          rw [hold.1] at hnone
          cases hnone
  | acceptRegistration response now result =>
      rw [Step.session?_iff_of_answered ⟨_, hleads⟩ rfl]
      simp [Moment.issued]
  | acceptSignature response result =>
      rw [Step.session?_iff_of_answered ⟨_, hleads⟩ rfl]
      simp [Moment.issued]
  | keys account result =>
      obtain ⟨_, rfl⟩ := leads_keys hleads
      simp [Moment.issued, Event.answered?]
  | removeKey account publicKey result =>
      obtain ⟨_, rfl⟩ := leads_removeKey hleads
      simp [Moment.issued, Event.answered?, AccountStore.session?]

/-! Whole histories. -/

variable {first last : AccountStore} {history : List Moment}

theorem pending_append_singleton {id : String} {session : Web.Session} :
    Pending (history ++ [moment]) id session ↔
      (id, session) ∈ moment.issued ∨ Pending history id session ∧
        moment.event.answered? ≠ some (session.awaits, id) := by
  constructor
  · rintro ⟨earlier, issue, later, hsplit, hissued, hlater⟩
    rcases List.eq_nil_or_concat later with rfl | ⟨rest, final, rfl⟩
    · obtain ⟨rfl, hmoment⟩ := List.append_inj' hsplit rfl
      cases hmoment
      exact Or.inl hissued
    · rw [List.concat_eq_append, ← List.cons_append, ← List.append_assoc] at hsplit
      obtain ⟨rfl, hmoment⟩ := List.append_inj' hsplit rfl
      cases hmoment
      refine Or.inr ⟨⟨earlier, issue, rest, rfl, hissued, ?_⟩, hlater _ (by simp)⟩
      exact fun other hmem => hlater other (by simp [hmem])
  · rintro (hissued | ⟨⟨earlier, issue, later, rfl, hissued, hlater⟩, hanswered⟩)
    · exact ⟨history, moment, [], rfl, hissued, by simp⟩
    · refine ⟨earlier, issue, later ++ [moment], by simp, hissued, ?_⟩
      intro other hmem
      rcases List.mem_append.1 hmem with hmem | hmem
      · exact hlater other hmem
      · rw [List.mem_singleton.1 hmem]
        exact hanswered

/-- The sessions of a store that had none are those its history left pending. -/
theorem session?_iff_pending (hfirst : ∀ id, first.session? id = none)
    (hrun : Run party.Step first history last) (id : String) (session : Web.Session) :
    last.session? id = some session ↔ Pending history id session := by
  induction history using List.reverseRecOn generalizing last with
  | nil =>
      cases hrun
      simp [Pending, hfirst]
  | append_singleton history moment ih =>
      obtain ⟨before, hearlier, hstep⟩ := hrun.cut_last
      rw [hstep.session?_iff, ih hearlier, pending_append_singleton]

theorem Step.session?_eq_none (hstep : Step party before moment after) {id : String}
    (hnone : before.session? id = none) (hissued : id ∉ moment.issued.map Prod.fst) :
    after.session? id = none := by
  rw [Option.eq_none_iff_forall_ne_some]
  intro session hsession
  rcases (hstep.session?_iff id session).1 hsession with hmem | ⟨hold, _⟩
  · exact hissued (List.mem_map.2 ⟨_, hmem, rfl⟩)
  · rw [hnone] at hold
    cases hold

theorem Step.session?_eq_none_of_consumes (hstep : Step party before moment after) {id : String}
    (hconsumes : moment.Consumes id) : after.session? id = none := by
  obtain ⟨kind, session, hanswered, hwaiting⟩ := hconsumes
  rcases hstep.answer hanswered with ⟨hnone, _⟩ | ⟨_, _, hsessions⟩
  · rw [← hstep.met, hwaiting] at hnone
    cases hnone
  · rw [session?_eq_of_sessions_eq id hsessions, AccountStore.session?_closeSession, if_pos rfl]

/-- Between two calls that consume a session under one id, the id is issued again. -/
theorem issued_between_of_consumes {earlier between later : List Moment} {call other : Moment}
    (hrun : Run party.Step first (earlier ++ call :: between ++ other :: later) last)
    {id : String} (hcall : call.Consumes id) (hother : other.Consumes id) :
    ∃ moment ∈ between, id ∈ moment.issued.map Prod.fst := by
  by_contra hissued
  obtain ⟨store, final, hupto, hlast, _⟩ := hrun.cut_at
  obtain ⟨_, middle, _, hcallStep, hbetween⟩ := hupto.cut_at
  have hnone : store.session? id = none := by
    refine hbetween.invariant (fun store => store.session? id = none) ?_
      (hcallStep.session?_eq_none_of_consumes hcall)
    intro moment hmem before after hstep hnone
    exact hstep.session?_eq_none hnone fun hid => hissued ⟨moment, hmem, hid⟩
  obtain ⟨kind, session, _, hwaiting⟩ := hother
  rw [hlast.met] at hwaiting
  rw [(AccountStore.waiting?_eq_some_iff.1 hwaiting).1] at hnone
  cases hnone

/-- Where no session is opened, those that are left were there. -/
theorem session?_of_run (hrun : Run party.Step first history last)
    (hquiet : ∀ moment ∈ history, moment.issued = []) {id : String} {session : Web.Session}
    (hsession : last.session? id = some session) : first.session? id = some session := by
  induction hrun with
  | done => exact hsession
  | @step first between last moment rest hmoment _ ih =>
      have hbetween := ih (fun moment hmem => hquiet moment (List.mem_cons_of_mem _ hmem)) hsession
      rcases (hmoment.session?_iff id session).1 hbetween with hissued | ⟨hfirst, _⟩
      · rw [hquiet moment List.mem_cons_self] at hissued
        cases hissued
      · exact hfirst

theorem session?_of_mem (hrun : Run party.Step first history last)
    (hquiet : ∀ moment ∈ history, moment.issued = []) (hmem : moment ∈ history) {id : String}
    {session : Web.Session} (hsession : moment.before.session? id = some session) :
    first.session? id = some session := by
  obtain ⟨earlier, later, rfl⟩ := List.append_of_mem hmem
  obtain ⟨store, _, hearlier, hmoment, _⟩ := hrun.cut_at
  rw [hmoment.met] at hsession
  exact session?_of_run hearlier (fun other hother => hquiet other (by simp [hother])) hsession

/-! The number of sessions. -/

theorem pending_openSession {store : AccountStore} {id : String}
    (hnone : store.session? id = none) (session : Web.Session) :
    (store.openSession id session).pending = store.pending + 1 :=
  store.sessions.size_insert_of_get?_eq_none session hnone

theorem pending_closeSession {store : AccountStore} {id : String} {session : Web.Session}
    (hsession : store.session? id = some session) :
    (store.closeSession id).pending + 1 = store.pending :=
  store.sessions.size_erase_of_get?_eq_some hsession

theorem pending_openAll {store : AccountStore} {issued : List (String × Web.Session)}
    (hfresh : store.Fresh (issued.map Prod.fst)) :
    (store.openAll issued).pending = store.pending + issued.length := by
  induction issued generalizing store with
  | nil => rfl
  | cons issue rest ih =>
      obtain ⟨hnodup, hnone⟩ := hfresh
      rw [List.map_cons, List.nodup_cons] at hnodup
      have hrest : (store.openSession issue.1 issue.2).Fresh (rest.map Prod.fst) := by
        refine ⟨hnodup.2, fun id hmem => ?_⟩
        have hne : id ≠ issue.1 := by
          rintro rfl
          exact hnodup.1 hmem
        rw [AccountStore.session?_openSession, if_neg hne]
        exact hnone id (List.mem_cons_of_mem _ hmem)
      rw [AccountStore.openAll, ih hrest, pending_openSession (hnone _ List.mem_cons_self),
        List.length_cons]
      omega

theorem Step.pending_of_answered (hstep : Step party before moment after)
    {kind : Web.ClientDataKind} {id : String}
    (hanswered : moment.event.answered? = some (kind, id)) :
    (if moment.event.succeeds then 1 else 0) + after.pending ≤ before.pending := by
  rcases hstep.answer hanswered with ⟨_, hanswer, rfl⟩ | ⟨session, hwaiting, hsessions⟩
  · simp [Event.succeeds, hanswer]
  · have hclosed := pending_closeSession (AccountStore.waiting?_eq_some_iff.1 hwaiting).1
    rw [AccountStore.pending, hsessions, ← AccountStore.pending]
    split <;> omega

/-- Every success takes a session away, and nothing but an issue adds one. -/
theorem Step.pending_le (hstep : Step party before moment after) :
    (if moment.event.succeeds then 1 else 0) + after.pending ≤
      before.pending + moment.issued.length := by
  have hfresh := hstep.fresh_issued
  obtain ⟨event, hleads⟩ := hstep
  cases event with
  | requestRegistration account appId result =>
      obtain ⟨request, rfl, _, _, hnone, rfl⟩ := ends_requestRegistration hleads
      rw [pending_openSession hnone]
      simp [Event.succeeds, Event.answer?, Moment.issued]
  | requestSignatures account appId result =>
      rcases ends_requestSignatures hleads with
        ⟨_, rfl, rfl⟩ | ⟨challenge, requests, _, rfl, _, _, rfl⟩
      · simp [Event.succeeds, Event.answer?]
      · have hopened := pending_openAll hfresh
        simp only [Moment.issued] at hopened
        simp [Event.succeeds, Event.answer?, Moment.issued, hopened]
  | acceptRegistration response now result =>
      exact Step.pending_of_answered ⟨_, hleads⟩ rfl
  | acceptSignature response result =>
      exact Step.pending_of_answered ⟨_, hleads⟩ rfl
  | keys account result =>
      obtain ⟨_, rfl⟩ := leads_keys hleads
      simp [Event.succeeds, Event.answer?]
  | removeKey account publicKey result =>
      obtain ⟨_, rfl⟩ := leads_removeKey hleads
      simp [Event.succeeds, Event.answer?, Moment.issued, AccountStore.pending]

theorem pending_le_issued (hrun : Run party.Step first history last) :
    history.countP (fun moment => moment.event.succeeds) + last.pending ≤
      first.pending + (history.flatMap Moment.issued).length := by
  induction hrun with
  | done => simp
  | step hmoment _ ih =>
      have hone := hmoment.pending_le
      rw [List.countP_cons, List.flatMap_cons, List.length_append]
      omega

/-- What a history that began with an empty store says of its sessions. -/
structure Accounted (history : List Moment) (last : AccountStore) : Prop where
  /-- The sessions that a call meets are those that the calls before it left pending. -/
  met : ∀ earlier moment later, history = earlier ++ moment :: later → ∀ id session,
    moment.before.session? id = some session ↔ Pending earlier id session
  left : ∀ id session, last.session? id = some session ↔ Pending history id session
  /-- No id is given out while a session has it. -/
  minted : ∀ moment ∈ history, moment.before.Fresh (moment.issued.map Prod.fst)
  /-- A session is gone once a call consumed it, whatever the result of that call. -/
  consumed : ∀ moment ∈ history, ∀ id, moment.Consumes id → moment.after.session? id = none
  /-- No two calls consume the same session. -/
  once : ∀ earlier call between other later id,
    history = earlier ++ call :: between ++ other :: later → call.Consumes id →
      other.Consumes id → ∃ moment ∈ between, id ∈ moment.issued.map Prod.fst
  /-- A response to no session, or to one of the other kind, changes nothing. -/
  refused : ∀ moment ∈ history, ∀ kind id, moment.event.answered? = some (kind, id) →
    moment.before.waiting? kind id = none →
      moment.event.answer? = some (.error .unknownSession) ∧ moment.after = moment.before
  /-- There never were more successes than sessions. -/
  succeeded : ∀ earlier later, history = earlier ++ later →
    earlier.countP (fun moment => moment.event.succeeds) ≤
      (earlier.flatMap Moment.issued).length

theorem Step.refused (hstep : Step party before moment after) {kind : Web.ClientDataKind}
    {id : String} (hanswered : moment.event.answered? = some (kind, id))
    (hwaiting : moment.before.waiting? kind id = none) :
    moment.event.answer? = some (.error .unknownSession) ∧ moment.after = moment.before := by
  rw [hstep.met] at hwaiting ⊢
  rw [hstep.left]
  rcases hstep.answer hanswered with ⟨_, hanswer, hafter⟩ | ⟨session, hsession, _⟩
  · exact ⟨hanswer, hafter⟩
  · rw [hwaiting] at hsession
    cases hsession

theorem sessions_accounted (hrun : Run party.Step .empty history last) :
    Accounted history last where
  met := by
    rintro earlier moment later rfl id session
    obtain ⟨before, _, hearlier, hmoment, _⟩ := hrun.cut_at
    rw [hmoment.met]
    exact session?_iff_pending (fun _ => rfl) hearlier id session
  left := session?_iff_pending (fun _ => rfl) hrun
  minted := by
    refine hrun.forall_mem _ fun before moment after hstep => ?_
    rw [hstep.met]
    exact hstep.fresh_issued
  consumed := by
    refine hrun.forall_mem _ fun before moment after hstep => ?_
    rw [hstep.left]
    exact fun id hconsumes => hstep.session?_eq_none_of_consumes hconsumes
  once := by
    rintro earlier call between other later id rfl hcall hother
    exact issued_between_of_consumes hrun hcall hother
  refused := hrun.forall_mem _ fun before moment after hstep kind id => hstep.refused
  succeeded := by
    rintro earlier later rfl
    obtain ⟨store, hearlier, _⟩ := hrun.cut
    have hcount := pending_le_issued hearlier
    rw [show AccountStore.empty.pending = 0 from rfl] at hcount
    omega

/-- A party that takes nothing. -/
def strictParty : RelyingParty := ⟨.standard, [], .empty, .refuse⟩

theorem sessions_accounted_wrong_kind_then_garbled :
    ∃ history last, Run strictParty.Step .empty history last ∧ Accounted history last ∧
      history.map (fun moment => (moment.event.answer?, moment.after.pending)) =
        [(none, 1), (some (.error .unknownSession), 1),
          (some (.error (.format .clientData)), 0)] := by
  obtain ⟨history, last, hrun, hanswers⟩ : ∃ history last,
      Run strictParty.Step .empty history last ∧
        history.map (fun moment => (moment.event.answer?, moment.after.pending)) =
          [(none, 1), (some (.error .unknownSession), 1),
            (some (.error (.format .clientData)), 0)] :=
    ⟨_, _,
      .step (.call (.requestRegistration "ann" "https://a.b" _)
        ⟨.fixed fun _ => [], .ofTape (List.replicate 16 0), rfl⟩) <|
      .step (.call (.acceptSignature ⟨[], [], [], "AAAAAAAAAAAAAAAAAAAAAA"⟩ _)
        ⟨.random, .ofTape [], rfl⟩) <|
      .step (.call (.acceptRegistration ⟨[], [], "AAAAAAAAAAAAAAAAAAAAAA"⟩ 0 _)
        ⟨.random, .ofTape [], rfl⟩) (.done _), rfl⟩
  exact ⟨history, last, hrun, sessions_accounted hrun, hanswers⟩

end SecondFactor.RelyingParty
