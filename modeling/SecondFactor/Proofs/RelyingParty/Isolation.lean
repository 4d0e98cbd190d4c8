import SecondFactor.Proofs.RelyingParty.Duplicates
import SecondFactor.Proofs.RelyingParty.Sessions

/-!
Accounts apart. A call is one of an account if it names the account, or answers a session that was
issued for it. What those calls come to, and what they leave of the account, depends on no other
call, whatever is asked for other accounts in between, `accounts_isolated`.
-/

namespace SecondFactor

/-- Two stores hold the same for an account: its keys, and the sessions that were opened for it. -/
structure AccountStore.Agree (account : String) (store other : AccountStore) : Prop where
  keys : store.keys account = other.keys account
  sessions : ∀ id session, session.account = account →
    (store.session? id = some session ↔ other.session? id = some session)

/-- Of the sessions of a store, those under the ids are the account's. -/
def AccountStore.Marks (store : AccountStore) (account : String) (ids : List String) : Prop :=
  ∀ id session, store.session? id = some session → (session.account = account ↔ id ∈ ids)

namespace AccountStore.Agree

variable {account : String} {store other third : AccountStore}

theorem refl (account : String) (store : AccountStore) : store.Agree account store :=
  ⟨rfl, fun _ _ _ => Iff.rfl⟩

theorem symm (hagree : store.Agree account other) : other.Agree account store :=
  ⟨hagree.keys.symm, fun id session haccount => (hagree.sessions id session haccount).symm⟩

theorem trans (hagree : store.Agree account other) (hthird : other.Agree account third) :
    store.Agree account third :=
  ⟨hagree.keys.trans hthird.keys, fun id session haccount =>
    (hagree.sessions id session haccount).trans (hthird.sessions id session haccount)⟩

theorem openSession (hagree : store.Agree account other) (id : String) (session : Web.Session) :
    (store.openSession id session).Agree account (other.openSession id session) := by
  refine ⟨hagree.keys, fun found waiting haccount => ?_⟩
  rw [session?_openSession, session?_openSession]
  split
  · exact Iff.rfl
  · exact hagree.sessions found waiting haccount

theorem openAll (hagree : store.Agree account other) (issued : List (String × Web.Session)) :
    (store.openAll issued).Agree account (other.openAll issued) := by
  induction issued generalizing store other with
  | nil => exact hagree
  | cons issue rest ih => exact ih (hagree.openSession issue.1 issue.2)

theorem closeSession (hagree : store.Agree account other) (id : String) :
    (store.closeSession id).Agree account (other.closeSession id) := by
  refine ⟨hagree.keys, fun found waiting haccount => ?_⟩
  rw [session?_closeSession, session?_closeSession]
  split
  · exact Iff.rfl
  · exact hagree.sessions found waiting haccount

theorem setKeys (hagree : store.Agree account other) (keys : List Web.Enrolment) :
    (store.setKeys account keys).Agree account (other.setKeys account keys) :=
  ⟨by rw [keys_setKeys, keys_setKeys, if_pos rfl, if_pos rfl], hagree.sessions⟩

theorem addKey (hagree : store.Agree account other) (key : Web.Enrolment) :
    (store.addKey account key).Agree account (other.addKey account key) := by
  rw [AccountStore.addKey, AccountStore.addKey, hagree.keys]
  exact hagree.setKeys _

theorem removeKey (hagree : store.Agree account other) (publicKey : Bytes) :
    (store.removeKey account publicKey).Agree account (other.removeKey account publicKey) where
  keys := by rw [keys_removeKey, keys_removeKey, if_pos rfl, if_pos rfl, hagree.keys]
  sessions := by simpa only [session?, sessions_removeKey] using hagree.sessions

/-- Under an id that both mark as the account's, the stores hold the same session or none. -/
theorem session?_eq (hagree : store.Agree account other) {ids ids' : List String}
    (hmarks : store.Marks account ids) (hmarks' : other.Marks account ids') {id : String}
    (hid : id ∈ ids) (hid' : id ∈ ids') : store.session? id = other.session? id := by
  refine Option.ext fun session => ⟨fun hsession => ?_, fun hsession => ?_⟩
  · exact (hagree.sessions id session ((hmarks id session hsession).2 hid)).1 hsession
  · exact (hagree.sessions id session ((hmarks' id session hsession).2 hid')).2 hsession

theorem waiting?_eq (hagree : store.Agree account other) {ids ids' : List String}
    (hmarks : store.Marks account ids) (hmarks' : other.Marks account ids') {id : String}
    (hid : id ∈ ids) (hid' : id ∈ ids') (kind : Web.ClientDataKind) :
    store.waiting? kind id = other.waiting? kind id := by
  rw [waiting?, waiting?, hagree.session?_eq hmarks hmarks' hid hid']

end AccountStore.Agree

namespace RelyingParty

/-! The calls of an account. -/

/-- The account that a call names. A response names none. -/
def Event.names? : Event → Option String
  | .requestRegistration account _ _ | .requestSignatures account _ _ => some account
  | .keys account _ | .removeKey account _ _ => some account
  | .acceptRegistration .. | .acceptSignature .. => none

/-- Whether a call is one of the account whose sessions have the ids. -/
def Event.isOf (account : String) (ids : List String) (event : Event) : Bool :=
  event.names? = some account || event.answered?.any fun answered => answered.2 ∈ ids

/-- The sessions that a history issued, each under its id. -/
def issuedIn (history : List Moment) : List (String × Web.Session) :=
  history.flatMap Moment.issued

/-- The ids of the sessions that were issued for an account. -/
def idsOf (account : String) (history : List Moment) : List String :=
  ((issuedIn history).filter fun issue => issue.2.account = account).map Prod.fst

/-- The calls of the account whose sessions have the ids, with their results. -/
def callsOf (account : String) (ids : List String) (history : List Moment) : List Event :=
  (history.map Moment.event).filter (Event.isOf account ids)

/-- The same operation on the same arguments, whatever its results are. -/
inductive Event.SameCall : Event → Event → Prop
  | requestRegistration {account appId : String} {result result'} :
      SameCall (.requestRegistration account appId result)
        (.requestRegistration account appId result')
  | acceptRegistration {response : Web.RegisterResponse} {now : UInt64} {result result'} :
      SameCall (.acceptRegistration response now result) (.acceptRegistration response now result')
  | requestSignatures {account appId : String} {result result'} :
      SameCall (.requestSignatures account appId result) (.requestSignatures account appId result')
  | acceptSignature {response : Web.SignResponse} {result result'} :
      SameCall (.acceptSignature response result) (.acceptSignature response result')
  | keys {account : String} {result result'} :
      SameCall (.keys account result) (.keys account result')
  | removeKey {account : String} {publicKey : Bytes} {result result'} :
      SameCall (.removeKey account publicKey result) (.removeKey account publicKey result')

/-- What a call draws: a challenge and an id for each request that it gives out. -/
def Event.drawn : Event → List (Bytes × String)
  | .requestRegistration _ _ (.ok request) => [(request.challenge, request.sessionId)]
  | .requestSignatures _ _ (.ok requests) =>
    requests.map fun request => (request.challenge, request.sessionId)
  | _ => []

/-- Two calls ask the same, and as far as both draw they draw the same. -/
structure Event.Alike (event other : Event) : Prop where
  asked : event.SameCall other
  drawn : ∀ both ∈ event.drawn.zip other.drawn, both.1 = both.2

variable {party : RelyingParty} {account : String} {ids ids' : List String}
variable {before before' after after' : AccountStore} {moment moment' : Moment}

theorem Event.isOf_of_names {event : Event} (hnames : event.names? = some account) :
    event.isOf account ids = true := by
  rw [isOf, hnames, decide_eq_true rfl, Bool.true_or]

theorem Event.isOf_of_answered {event : Event} {kind : Web.ClientDataKind} {id : String}
    (hanswered : event.answered? = some (kind, id)) (hid : id ∈ ids) :
    event.isOf account ids = true := by
  simp [isOf, hanswered, hid]

theorem Event.mem_of_isOf {event : Event} (hown : event.isOf account ids = true)
    {kind : Web.ClientDataKind} {id : String} (hnames : event.names? = none)
    (hanswered : event.answered? = some (kind, id)) : id ∈ ids := by
  simpa [isOf, hnames, hanswered] using hown

theorem Event.eq_of_isOf {event : Event} (hown : event.isOf account ids = true) {named : String}
    (hnames : event.names? = some named) (hanswered : event.answered? = none) :
    named = account := by
  simpa [isOf, hnames, hanswered] using hown

/-! A call of another account changes nothing for this one. -/

/-- Sessions are issued for the account that the call names. -/
theorem names?_of_issued {id : String} {session : Web.Session}
    (hissued : (id, session) ∈ moment.issued) :
    moment.event.names? = some session.account := by
  rcases moment.issued_cases hissued with
    ⟨_, _, _, hevent, _, rfl⟩ | ⟨_, _, _, hevent, _, _, _, _, _, rfl⟩
  · rw [hevent]
    rfl
  · rw [hevent]
    rfl

/-- What makes an entry in the log of an account is a call of the account. -/
theorem isOf_of_entry (hmarks : moment.before.Marks account ids) {entry : KeyEntry}
    (hentry : moment.entry? = some (account, entry)) : moment.event.isOf account ids = true := by
  unfold Moment.entry? at hentry
  split at hentry
  · rename_i hevent
    obtain ⟨session, hsession, hentry⟩ := Option.bind_eq_some_iff.1 hentry
    obtain ⟨registration, _, hentry⟩ := Option.bind_eq_some_iff.1 hentry
    cases hentry
    rw [hevent]
    exact Event.isOf_of_answered rfl ((hmarks _ session hsession).1 rfl)
  · rename_i hevent
    obtain ⟨session, hsession, hentry⟩ := Option.bind_eq_some_iff.1 hentry
    obtain ⟨publicKey, _, hentry⟩ := Option.bind_eq_some_iff.1 hentry
    obtain ⟨authentication, _, hentry⟩ := Option.bind_eq_some_iff.1 hentry
    cases hentry
    rw [hevent]
    exact Event.isOf_of_answered rfl ((hmarks _ session hsession).1 rfl)
  · rename_i hevent
    cases hentry
    rw [hevent]
    exact Event.isOf_of_names rfl
  · cases hentry

theorem Step.agree_of_foreign (hstep : Step party before moment after)
    (hmarks : moment.before.Marks account ids) (hforeign : moment.event.isOf account ids ≠ true) :
    before.Agree account after where
  keys := by
    refine (hstep.keys_eq_of_no_entry fun entry hentry => ?_).symm
    exact hforeign (isOf_of_entry hmarks hentry)
  sessions := by
    rintro id session rfl
    rw [hstep.session?_iff]
    constructor
    · intro hsession
      refine Or.inr ⟨hsession, fun hanswered => hforeign ?_⟩
      rw [← hstep.met] at hsession
      exact Event.isOf_of_answered hanswered ((hmarks id session hsession).1 rfl)
    · rintro (hissued | ⟨hsession, _⟩)
      · exact absurd (Event.isOf_of_names (names?_of_issued hissued)) hforeign
      · exact hsession

/-! Alike calls of the account come to the same. -/

/-- Requests for the same records that draw the same are the same. -/
theorem requests_eq_of_drawn {appId : String} {challenge challenge' : Bytes}
    {keys : List Web.Enrolment} {requests requests' : List Web.SignRequest}
    (hrequests : List.Forall₂ (RequestsKey appId challenge) keys requests)
    (hrequests' : List.Forall₂ (RequestsKey appId challenge') keys requests')
    (hdrawn : ∀ both ∈ (requests.map fun request => (request.challenge, request.sessionId)).zip
      (requests'.map fun request => (request.challenge, request.sessionId)), both.1 = both.2) :
    requests = requests' := by
  induction hrequests generalizing requests' with
  | nil =>
      cases hrequests'
      rfl
  | @cons key request keys rest hasks _ ih =>
      cases hrequests' with
      | @cons _ request' _ rest' hasks' hrest' =>
          simp only [List.map_cons, List.zip_cons_cons, List.forall_mem_cons] at hdrawn
          obtain ⟨hversion, _, happId, hhandle⟩ := hasks
          obtain ⟨hversion', _, happId', hhandle'⟩ := hasks'
          obtain ⟨hchallenge, hid⟩ := Prod.mk.inj hdrawn.1
          rw [ih hrest' hdrawn.2]
          congr 1
          cases request
          cases request'
          simp_all

theorem agree_of_requestRegistration (hagree : before.Agree account before') {appId holder : String}
    {result result' : Except Failure Web.RegisterRequest}
    (hleads : (Event.requestRegistration holder appId result).Leads party before after)
    (hleads' : (Event.requestRegistration holder appId result').Leads party before' after')
    (hdrawn : ∀ both ∈ (Event.requestRegistration holder appId result).drawn.zip
      (Event.requestRegistration holder appId result').drawn, both.1 = both.2) :
    result = result' ∧ after.Agree account after' := by
  obtain ⟨request, rfl, hversion, happId, _, rfl⟩ := ends_requestRegistration hleads
  obtain ⟨request', rfl, hversion', happId', _, rfl⟩ := ends_requestRegistration hleads'
  obtain ⟨hchallenge, hid⟩ := Prod.mk.inj (hdrawn _ List.mem_cons_self)
  obtain rfl : request = request' := by
    cases request
    cases request'
    simp_all
  exact ⟨rfl, hagree.openSession _ _⟩

theorem agree_of_requestSignatures (hagree : before.Agree account before') {appId : String}
    {result result' : Except Failure (List Web.SignRequest)}
    (hleads : (Event.requestSignatures account appId result).Leads party before after)
    (hleads' : (Event.requestSignatures account appId result').Leads party before' after')
    (hdrawn : ∀ both ∈ (Event.requestSignatures account appId result).drawn.zip
      (Event.requestSignatures account appId result').drawn, both.1 = both.2) :
    result = result' ∧ after.Agree account after' := by
  have hkeys := hagree.keys
  rcases ends_requestSignatures hleads with
    ⟨hnone, rfl, rfl⟩ | ⟨challenge, requests, hsome, rfl, hrequests, _, rfl⟩
  · rcases ends_requestSignatures hleads' with ⟨_, rfl, rfl⟩ | ⟨_, _, hsome', _⟩
    · exact ⟨rfl, hagree⟩
    · exact absurd (hkeys.symm.trans hnone) hsome'
  · rcases ends_requestSignatures hleads' with
      ⟨hnone', _⟩ | ⟨challenge', requests', _, rfl, hrequests', _, rfl⟩
    · exact absurd (hkeys.trans hnone') hsome
    · rw [← hkeys] at hrequests' ⊢
      obtain rfl : requests = requests' := requests_eq_of_drawn hrequests hrequests' hdrawn
      exact ⟨rfl, hagree.openAll _⟩

theorem agree_of_acceptRegistration (hagree : before.Agree account before')
    (hmarks : before.Marks account ids) (hmarks' : before'.Marks account ids')
    {response : Web.RegisterResponse} {now : UInt64} {result result' : Except Failure Web.Enrolment}
    (hid : response.sessionId ∈ ids) (hid' : response.sessionId ∈ ids')
    (hleads : (Event.acceptRegistration response now result).Leads party before after)
    (hleads' : (Event.acceptRegistration response now result').Leads party before' after') :
    result = result' ∧ after.Agree account after' := by
  have hsame := hagree.waiting?_eq hmarks hmarks' hid hid' .registration
  obtain ⟨rfl, rfl⟩ := Talk.Ends.eq_of_outcome hleads _ fun source around =>
    party.outcome_acceptRegistration response now source around before
  obtain ⟨rfl, rfl⟩ := Talk.Ends.eq_of_outcome hleads' _ fun source around =>
    party.outcome_acceptRegistration response now source around before'
  cases hwaiting : before.waiting? .registration response.sessionId with
  | none =>
      rw [registrationOutcome_of_none hwaiting, registrationOutcome_of_none (hsame ▸ hwaiting)]
      exact ⟨rfl, hagree⟩
  | some session =>
      have hsession := (AccountStore.waiting?_eq_some_iff.1 hwaiting).1
      obtain rfl : session.account = account := (hmarks _ session hsession).2 hid
      cases hverdict : party.registrationVerdict session response now with
      | error failure =>
          rw [registrationOutcome_of_error hwaiting hverdict,
            registrationOutcome_of_error (hsame ▸ hwaiting) hverdict]
          exact ⟨rfl, hagree.closeSession _⟩
      | ok key =>
          rw [registrationOutcome_of_ok hwaiting hverdict,
            registrationOutcome_of_ok (hsame ▸ hwaiting) hverdict]
          exact ⟨rfl, (hagree.closeSession _).addKey key⟩

theorem agree_of_acceptSignature (hagree : before.Agree account before')
    (hmarks : before.Marks account ids) (hmarks' : before'.Marks account ids')
    {response : Web.SignResponse} {result result' : Except Failure Web.Enrolment}
    (hid : response.sessionId ∈ ids) (hid' : response.sessionId ∈ ids')
    (hleads : (Event.acceptSignature response result).Leads party before after)
    (hleads' : (Event.acceptSignature response result').Leads party before' after') :
    result = result' ∧ after.Agree account after' := by
  have hsame := hagree.waiting?_eq hmarks hmarks' hid hid' .authentication
  obtain ⟨rfl, rfl⟩ := Talk.Ends.eq_of_outcome hleads _ fun source around =>
    party.outcome_acceptSignature response source around before
  obtain ⟨rfl, rfl⟩ := Talk.Ends.eq_of_outcome hleads' _ fun source around =>
    party.outcome_acceptSignature response source around before'
  cases hwaiting : before.waiting? .authentication response.sessionId with
  | none =>
      rw [signatureOutcome_of_none hwaiting, signatureOutcome_of_none (hsame ▸ hwaiting)]
      exact ⟨rfl, hagree⟩
  | some session =>
      have hsession := (AccountStore.waiting?_eq_some_iff.1 hwaiting).1
      obtain rfl : session.account = account := (hmarks _ session hsession).2 hid
      cases hverdict : party.signatureVerdict session response (before.keys session.account) with
      | error failure =>
          rw [signatureOutcome_of_error hwaiting hverdict,
            signatureOutcome_of_error (hsame ▸ hwaiting) (hagree.keys ▸ hverdict)]
          exact ⟨rfl, hagree.closeSession _⟩
      | ok raised =>
          rw [signatureOutcome_of_ok hwaiting hverdict,
            signatureOutcome_of_ok (hsame ▸ hwaiting) (hagree.keys ▸ hverdict)]
          exact ⟨rfl, (hagree.closeSession _).setKeys _⟩

/-- Alike calls of the account on stores that agree have the same result, and leave stores that
agree. -/
theorem Step.agree_of_alike (hagree : before.Agree account before')
    (hstep : Step party before moment after) (hstep' : Step party before' moment' after')
    (hmarks : moment.before.Marks account ids) (hmarks' : moment'.before.Marks account ids')
    (hown : moment.event.isOf account ids = true)
    (hown' : moment'.event.isOf account ids' = true) (halike : moment.event.Alike moment'.event) :
    moment.event = moment'.event ∧ after.Agree account after' := by
  obtain ⟨event, hleads⟩ := hstep
  obtain ⟨event', hleads'⟩ := hstep'
  obtain ⟨hasked, hdrawn⟩ := halike
  simp only at hmarks hmarks' hown hown' hasked hdrawn ⊢
  cases hasked with
  | requestRegistration =>
      obtain ⟨rfl, hafter⟩ := agree_of_requestRegistration hagree hleads hleads' hdrawn
      exact ⟨rfl, hafter⟩
  | acceptRegistration =>
      have hid := Event.mem_of_isOf hown rfl rfl
      have hid' := Event.mem_of_isOf hown' rfl rfl
      obtain ⟨rfl, hafter⟩ :=
        agree_of_acceptRegistration hagree hmarks hmarks' hid hid' hleads hleads'
      exact ⟨rfl, hafter⟩
  | requestSignatures =>
      obtain rfl := Event.eq_of_isOf hown rfl rfl
      obtain ⟨rfl, hafter⟩ := agree_of_requestSignatures hagree hleads hleads' hdrawn
      exact ⟨rfl, hafter⟩
  | acceptSignature =>
      have hid := Event.mem_of_isOf hown rfl rfl
      have hid' := Event.mem_of_isOf hown' rfl rfl
      obtain ⟨rfl, hafter⟩ :=
        agree_of_acceptSignature hagree hmarks hmarks' hid hid' hleads hleads'
      exact ⟨rfl, hafter⟩
  | keys =>
      obtain rfl := Event.eq_of_isOf hown rfl rfl
      obtain ⟨rfl, rfl⟩ := leads_keys hleads
      obtain ⟨rfl, rfl⟩ := leads_keys hleads'
      rw [hagree.keys]
      exact ⟨rfl, hagree⟩
  | removeKey =>
      obtain rfl := Event.eq_of_isOf hown rfl rfl
      obtain ⟨rfl, rfl⟩ := leads_removeKey hleads
      obtain ⟨rfl, rfl⟩ := leads_removeKey hleads'
      rw [AccountStore.hasKey, AccountStore.hasKey, hagree.keys]
      exact ⟨rfl, hagree.removeKey _⟩

/-! Two runs. -/

variable {first first' last last' : AccountStore} {history history' : List Moment}

theorem callsOf_cons_of_isOf (hown : moment.event.isOf account ids = true) :
    callsOf account ids (moment :: history) = moment.event :: callsOf account ids history :=
  List.filter_cons_of_pos hown

theorem callsOf_cons_of_foreign (hforeign : moment.event.isOf account ids ≠ true) :
    callsOf account ids (moment :: history) = callsOf account ids history :=
  List.filter_cons_of_neg hforeign

theorem agree_of_foreign_run (hrun : Run party.Step first history last)
    (hmarks : ∀ moment ∈ history, moment.before.Marks account ids)
    (hforeign : ∀ moment ∈ history, moment.event.isOf account ids ≠ true) :
    first.Agree account last := by
  induction hrun with
  | done => exact .refl account _
  | @step first between last moment rest hmoment _ ih =>
      rw [List.forall_mem_cons] at hmarks hforeign
      exact (hmoment.agree_of_foreign hmarks.1 hforeign.1).trans (ih hmarks.2 hforeign.2)

/-- The first call of the account, behind the calls of others. -/
theorem exists_of_callsOf_eq_cons {event : Event} {rest : List Event}
    (hcalls : callsOf account ids history = event :: rest) :
    ∃ earlier moment later, history = earlier ++ moment :: later ∧
      (∀ other ∈ earlier, other.event.isOf account ids ≠ true) ∧ moment.event = event ∧
      moment.event.isOf account ids = true ∧ callsOf account ids later = rest := by
  obtain ⟨foreign, tail, hsplit, hforeign, hown, hrest⟩ := List.filter_eq_cons_iff.1 hcalls
  obtain ⟨earlier, remaining, rfl, rfl, hremaining⟩ := List.map_eq_append_iff.1 hsplit
  obtain ⟨moment, later, rfl, rfl, rfl⟩ := List.map_eq_cons_iff.1 hremaining
  refine ⟨earlier, moment, later, rfl, fun other hmem => ?_, rfl, hown, hrest⟩
  exact hforeign other.event (List.mem_map_of_mem hmem)

/-- From stores that agree, alike calls of the account come to the same, whatever other calls stand
around them in either run. -/
theorem agree_of_runs (hrun : Run party.Step first history last)
    (hrun' : Run party.Step first' history' last') (hagree : first.Agree account first')
    (hmarks : ∀ moment ∈ history, moment.before.Marks account ids)
    (hmarks' : ∀ moment ∈ history', moment.before.Marks account ids')
    (halike : List.Forall₂ Event.Alike (callsOf account ids history)
      (callsOf account ids' history')) :
    callsOf account ids history = callsOf account ids' history' ∧ last.Agree account last' := by
  induction hrun generalizing first' history' with
  | done =>
      have hnone : callsOf account ids' history' = [] := List.forall₂_nil_left_iff.1 halike
      refine ⟨hnone.symm, hagree.trans (agree_of_foreign_run hrun' hmarks' fun moment hmem => ?_)⟩
      exact List.filter_eq_nil_iff.1 hnone moment.event (List.mem_map_of_mem hmem)
  | @step first between last moment rest hmoment _ ih =>
      rw [List.forall_mem_cons] at hmarks
      by_cases hown : moment.event.isOf account ids = true
      · rw [callsOf_cons_of_isOf hown] at halike ⊢
        obtain ⟨event', rest', hevent, hrest, hcalls⟩ := List.forall₂_cons_left_iff.1 halike
        -- The other run comes to its next call of the account behind calls of others.
        obtain ⟨earlier, moment', later, rfl, hforeign, rfl, hown', rfl⟩ :=
          exists_of_callsOf_eq_cons hcalls
        obtain ⟨before', after', hearlier, hmoment', hlater⟩ := hrun'.cut_at
        simp only [List.forall_mem_append, List.forall_mem_cons] at hmarks'
        have hmet : first.Agree account before' :=
          hagree.trans (agree_of_foreign_run hearlier hmarks'.1 hforeign)
        obtain ⟨hsame, hafter⟩ := hmoment.agree_of_alike hmet hmoment' hmarks.1 hmarks'.2.1 hown
          hown' hevent
        obtain ⟨hothers, hlast⟩ := ih hlater hafter hmarks.2 hmarks'.2.2 hrest
        exact ⟨by rw [hcalls, hsame, hothers], hlast⟩
      · rw [callsOf_cons_of_foreign hown] at halike ⊢
        have hbetween := hmoment.agree_of_foreign hmarks.1 hown
        exact ih hrun' (hbetween.symm.trans hagree) hmarks.2 hmarks' halike

theorem mem_idsOf_iff (hminted : ((issuedIn history).map Prod.fst).Nodup) {id : String}
    {session : Web.Session} (hissued : (id, session) ∈ issuedIn history) :
    id ∈ idsOf account history ↔ session.account = account := by
  constructor
  · intro hmem
    obtain ⟨⟨other, found⟩, hfound, rfl⟩ := List.mem_map.1 hmem
    obtain ⟨hfound, haccount⟩ := List.mem_filter.1 hfound
    cases List.inj_on_of_nodup_map hminted hissued hfound rfl
    exact of_decide_eq_true haccount
  · rintro rfl
    exact List.mem_map.2 ⟨_, List.mem_filter.2 ⟨hissued, decide_eq_true rfl⟩, rfl⟩

/-- Where no id is minted twice, the ids of an account mark its sessions in all stores of a run. -/
theorem marks_of_run (hrun : Run party.Step .empty history last)
    (hminted : ((issuedIn history).map Prod.fst).Nodup) :
    ∀ moment ∈ history, moment.before.Marks account (idsOf account history) := by
  intro moment hmem id session hsession
  obtain ⟨earlier, later, rfl⟩ := List.append_of_mem hmem
  have hmet := (sessions_accounted hrun).met earlier moment later rfl id session
  obtain ⟨front, issue, rest, rfl, hissued, _⟩ := hmet.1 hsession
  refine (mem_idsOf_iff hminted ?_).symm
  exact List.mem_flatMap.2 ⟨issue, by simp, hissued⟩

/-- Calls of one account that are alike in two runs come to the same in both, and leave the account
the same keys and the same sessions. -/
theorem accounts_isolated (hrun : Run party.Step .empty history last)
    (hrun' : Run party.Step .empty history' last')
    (hminted : ((issuedIn history).map Prod.fst).Nodup)
    (hminted' : ((issuedIn history').map Prod.fst).Nodup)
    (halike : List.Forall₂ Event.Alike (callsOf account (idsOf account history) history)
      (callsOf account (idsOf account history') history')) :
    callsOf account (idsOf account history) history =
        callsOf account (idsOf account history') history' ∧
      last.keys account = last'.keys account ∧
      ∀ id session, session.account = account →
        (last.session? id = some session ↔ last'.session? id = some session) := by
  obtain ⟨hcalls, hlast⟩ := agree_of_runs hrun hrun' (.refl account .empty)
    (marks_of_run hrun hminted) (marks_of_run hrun' hminted') halike
  exact ⟨hcalls, hlast.keys, hlast.sessions⟩

/-! Two accounts enrol by one response, each in a session of its own, and the other revokes its key
again. -/

def otherSession : Web.Session := { enrolmentSession with account := "bob" }

def otherAskedStore : AccountStore :=
  AccountStore.empty.openSession repeatedResponse.sessionId otherSession

def bothAskedStore : AccountStore :=
  otherAskedStore.openSession enrolmentResponse.sessionId enrolmentSession

def otherTakenStore : AccountStore :=
  (bothAskedStore.closeSession repeatedResponse.sessionId).addKey "bob" enrolmentRecord

def bothTakenStore : AccountStore :=
  (otherTakenStore.closeSession enrolmentResponse.sessionId).addKey "ann" enrolmentRecord

def sharedEnrolment : List Moment := [
  ⟨.empty, .requestRegistration "bob" "https://a.b"
    (.ok ⟨Raw.protocolVersion, [], "https://a.b", repeatedResponse.sessionId⟩), otherAskedStore⟩,
  ⟨otherAskedStore, enrolmentAsked.event, bothAskedStore⟩,
  ⟨bothAskedStore, .acceptRegistration repeatedResponse 0 (.ok enrolmentRecord), otherTakenStore⟩,
  ⟨otherTakenStore, enrolmentTaken.event, bothTakenStore⟩,
  ⟨bothTakenStore, .removeKey "bob" enrolmentRecord.publicKey (.ok true),
    bothTakenStore.removeKey "bob" enrolmentRecord.publicKey⟩]

/-- What becomes of a registration does not depend on the account of the session. -/
theorem registrationVerdict_of_account (party : RelyingParty) (session : Web.Session)
    (response : Web.RegisterResponse) (now : UInt64) (account : String) :
    party.registrationVerdict { session with account } response now =
      party.registrationVerdict session response now :=
  rfl

theorem run_sharedEnrolment : ∃ last, Run batchParty.Step .empty sharedEnrolment last := by
  have hother : (Event.requestRegistration "bob" "https://a.b"
      (.ok ⟨Raw.protocolVersion, [], "https://a.b", repeatedResponse.sessionId⟩)).Leads batchParty
        .empty otherAskedStore :=
    ⟨.fixed fun _ => [], .ofTape (List.replicate 16 1), rfl⟩
  have hasked : enrolmentAsked.event.Leads batchParty otherAskedStore bothAskedStore :=
    ⟨.fixed fun _ => [], .ofTape (List.replicate 16 0), rfl⟩
  have hverdict : batchParty.registrationVerdict otherSession repeatedResponse 0 =
      .ok enrolmentRecord := by
    rw [otherSession, registrationVerdict_of_account, repeatedResponse,
      registrationVerdict_of_sessionId, registrationVerdict_enrolment]
  have hrepeated : (Event.acceptRegistration repeatedResponse 0 (.ok enrolmentRecord)).Leads
      batchParty bothAskedStore otherTakenStore :=
    leads_acceptRegistration_of_ok (by decide +kernel) hverdict
  have htaken : enrolmentTaken.event.Leads batchParty otherTakenStore bothTakenStore :=
    leads_acceptRegistration_of_ok (by decide +kernel) registrationVerdict_enrolment
  have hrevoked : (Event.removeKey "bob" enrolmentRecord.publicKey (.ok true)).Leads batchParty
      bothTakenStore (bothTakenStore.removeKey "bob" enrolmentRecord.publicKey) :=
    ⟨.random, .ofTape [], rfl⟩
  exact ⟨_, .step (.call _ hother) <| .step (.call _ hasked) <| .step (.call _ hrepeated) <|
    .step (.call _ htaken) <| .step (.call _ hrevoked) (.done _)⟩

theorem accounts_isolated_sharedEnrolment :
    ∃ last last', Run batchParty.Step .empty [enrolmentAsked, enrolmentTaken] last ∧
      Run batchParty.Step .empty sharedEnrolment last' ∧
      callsOf "ann" (idsOf "ann" sharedEnrolment) sharedEnrolment =
        [enrolmentAsked.event, enrolmentTaken.event] ∧
      last.keys "ann" = last'.keys "ann" ∧
      ∀ id session, session.account = "ann" →
        (last.session? id = some session ↔ last'.session? id = some session) := by
  obtain ⟨last', hrun'⟩ := run_sharedEnrolment
  have hrun : Run batchParty.Step .empty [enrolmentAsked, enrolmentTaken] enrolmentTaken.after :=
    .step (.call _ leads_enrolmentAsked) <| .step (.call _ leads_enrolmentTaken) (.done _)
  have hcalls : callsOf "ann" (idsOf "ann" [enrolmentAsked, enrolmentTaken])
      [enrolmentAsked, enrolmentTaken] = [enrolmentAsked.event, enrolmentTaken.event] := rfl
  have hcalls' : callsOf "ann" (idsOf "ann" sharedEnrolment) sharedEnrolment =
      [enrolmentAsked.event, enrolmentTaken.event] := rfl
  have halike : List.Forall₂ Event.Alike
      (callsOf "ann" (idsOf "ann" [enrolmentAsked, enrolmentTaken]) [enrolmentAsked, enrolmentTaken])
      (callsOf "ann" (idsOf "ann" sharedEnrolment) sharedEnrolment) := by
    rw [hcalls, hcalls']
    exact .cons ⟨.requestRegistration, by decide +kernel⟩ <|
      .cons ⟨.acceptRegistration, by decide +kernel⟩ .nil
  have hisolated := accounts_isolated hrun hrun' (by decide +kernel) (by decide +kernel) halike
  exact ⟨_, _, hrun, hrun', hcalls', hisolated.2⟩

end RelyingParty

end SecondFactor
