import Mathlib.Data.List.FinRange
import SecondFactor.Proofs.RelyingParty.Stages

/-!
The order in which calls could have been made that are under way at once. A call takes its place in
it at its end. The invariant, `Serializes`, is that the calls of the order, made one after the
other, lead to a store with the same keys, and with the sessions that are still worked for.
-/

namespace SecondFactor

namespace AccountStore

theorem raiseFirst_of_find?_eq_none {publicKey : Bytes} {keys : List Web.Enrolment}
    (counter : UInt32) (hnone : keys.find? (fun key => key.publicKey = publicKey) = none) :
    raiseFirst publicKey counter keys = .error .unknownKeyHandle := by
  induction keys with
  | nil => rfl
  | cons key rest ih =>
      rw [List.find?_cons] at hnone
      split at hnone
      · cases hnone
      · rename_i hother
        rw [raiseFirst, if_neg (by simpa using hother), ih hnone]

end AccountStore

namespace RelyingParty

variable {n : Nat} {party : RelyingParty} {store serial : AccountStore}

/-- Callers took sessions out of one store. Together with those it is left with, they are the
sessions of another. -/
structure Shares (store : AccountStore) (held : Fin n → Option (String × Web.Session))
    (serial : AccountStore) : Prop where
  session?_iff : ∀ id session, serial.session? id = some session ↔
    store.session? id = some session ∨ ∃ caller, held caller = some (id, session)
  gone : ∀ caller id session, held caller = some (id, session) → store.session? id = none
  alone : ∀ caller other id session session', held caller = some (id, session) →
    held other = some (id, session') → caller = other

section

variable {held : Fin n → Option (String × Web.Session)} {caller : Fin n} {id : String}
  {session : Web.Session}

theorem Shares.congr {after final : AccountStore} (hshares : Shares store held serial)
    (hafter : ∀ id, after.session? id = store.session? id)
    (hfinal : ∀ id, final.session? id = serial.session? id) : Shares after held final where
  session?_iff id session := by rw [hafter, hfinal, hshares.session?_iff]
  gone caller id session hheld := by rw [hafter, hshares.gone caller id session hheld]
  alone := hshares.alone

/-- What a caller does not hold, the others do if any does. -/
theorem exists_holder_iff {pair : String × Web.Session} (hcaller : held caller ≠ some pair) :
    (∃ holder, held holder = some pair) ↔ ∃ holder, holder ≠ caller ∧ held holder = some pair := by
  constructor
  · rintro ⟨holder, hheld⟩
    refine ⟨holder, ?_, hheld⟩
    rintro rfl
    exact hcaller hheld
  · rintro ⟨holder, _, hheld⟩
    exact ⟨holder, hheld⟩

theorem Shares.take (hshares : Shares store held serial) (hfree : held caller = none)
    (hsession : store.session? id = some session) :
    Shares (store.closeSession id) (Function.update held caller (some (id, session))) serial where
  session?_iff other taken := by
    have hcaller : held caller ≠ some (other, taken) := by simp [hfree]
    rw [hshares.session?_iff, AccountStore.session?_closeSession,
      Function.exists_update_iff held fun _ value => value = some (other, taken)]
    rw [exists_holder_iff hcaller, ← or_assoc]
    refine or_congr_left ?_
    by_cases hid : other = id
    · subst hid
      simp [hsession]
    · simp [hid, Ne.symm hid]
  gone holder other taken hheld := by
    rw [AccountStore.session?_closeSession]
    grind [hshares.gone, Function.update_apply]
  alone holder holder' other taken taken' hheld hheld' := by
    grind [hshares.gone, hshares.alone, Function.update_apply]

theorem Shares.drop (hshares : Shares store held serial)
    (hheld : held caller = some (id, session)) :
    Shares store (Function.update held caller none) (serial.closeSession id) where
  session?_iff other kept := by
    rw [AccountStore.session?_closeSession,
      Function.exists_update_iff held fun _ value => value = some (other, kept)]
    by_cases hid : other = id
    · subst hid
      have hgone := hshares.gone caller other session hheld
      simp only [if_true, hgone, reduceCtorEq, false_or, false_iff, not_exists, not_and]
      exact fun holder hother hholder =>
        hother (hshares.alone holder caller other kept session hholder hheld)
    · have hcaller : held caller ≠ some (other, kept) := by simp [hheld, Ne.symm hid]
      rw [if_neg hid, hshares.session?_iff, exists_holder_iff hcaller]
      simp
  gone holder other kept hholder := by
    grind [hshares.gone, Function.update_apply]
  alone holder holder' other kept kept' hholder hholder' := by
    grind [hshares.alone, Function.update_apply]

end

/-! The order in which the calls could have been made. -/

variable {events : Fin n → Event} {initial : AccountStore} {stages : Fin n → Stage}
  {order : List (Fin n)} {caller : Fin n}

/-- What the verdict on a response will rest on is still so. -/
def Work.Fits (party : RelyingParty) (events : Fin n → Event) (session : Web.Session)
    (serial : AccountStore) : Work → Prop
  | .enrol response now key =>
    session.awaits = .registration ∧ party.registrationVerdict session response now = .ok key
  | .read _ publicKey => session.publicKey? = some publicKey
  | .raise response key counter => session.publicKey? = some key.publicKey ∧
    (∃ authentication, party.readAuthentication session key response = .ok authentication ∧
      authentication.counter = counter) ∧
    Stands (serial.keys session.account) key.publicKey
      (∃ remover, (events remover).Removes session.account key.publicKey)
      (fun other => other.keyHandle = response.keyHandle)

def Stage.Fits (party : RelyingParty) (events : Fin n → Event) (store serial : AccountStore) :
    Stage → Prop
  | .seen response => ∀ session, store.session? response.sessionId = some session →
    session.awaits = response.kind
  | .working session work => work.Fits party events session serial
  | .refused response => store.waiting? response.kind response.sessionId = none
  | _ => True

/-- The calls that ended, made in an order one after the other, led to a store with the same keys,
and with the sessions that the others have not answered. -/
structure Serializes (party : RelyingParty) (events : Fin n → Event) (initial store : AccountStore)
    (stages : Fin n → Stage) (order : List (Fin n)) (serial : AccountStore) : Prop where
  ran : ∃ history, Run party.Step initial history serial ∧
    history.map Moment.event = order.map events ∧ ∀ moment ∈ history, moment.issued = []
  nodup : order.Nodup
  mem_order : ∀ caller, caller ∈ order ↔ ∃ event, stages caller = .ended event
  keys : ∀ account, store.keys account = serial.keys account
  shares : Shares store (Stage.held? ∘ stages) serial
  fits : ∀ caller, (stages caller).Fits party events store serial

theorem Serializes.session?_initial
    (hserial : Serializes party events initial store stages order serial)
    {id : String} {session : Web.Session} (hsession : serial.session? id = some session) :
    initial.session? id = some session := by
  obtain ⟨history, hrun, _, hquiet⟩ := hserial.ran
  exact session?_of_run hrun hquiet hsession

/-- What fits a stage does so when sessions go. -/
theorem Stage.Fits.of_session? {stage : Stage} {after : AccountStore}
    (hfits : stage.Fits party events store serial)
    (hgo : ∀ id session, after.session? id = some session → store.session? id = some session) :
    stage.Fits party events after serial := by
  cases stage with
  | seen response => exact fun session hsession => hfits session (hgo _ session hsession)
  | refused response =>
      refine AccountStore.waiting?_eq_none_iff.2 fun session hsession => ?_
      exact AccountStore.waiting?_eq_none_iff.1 hfits session (hgo _ session hsession)
  | _ => exact hfits

/-- What fits a stage does so after a whole call of another. -/
theorem Stage.Fits.of_step {stage : Stage} {after : AccountStore} {moment : Moment}
    (hfits : stage.Fits party events store serial) (hstep : Step party serial moment after)
    (hmoment : ∃ caller, moment.event = events caller)
    (hinitial : ∀ id session,
      serial.session? id = some session → initial.session? id = some session)
    (hapart : Apart initial events) : stage.Fits party events store after := by
  obtain ⟨caller, hevent⟩ := hmoment
  cases stage with
  | working session work =>
      cases work with
      | raise response key counter =>
          obtain ⟨hkey, hread, hstands⟩ := hfits
          refine ⟨hkey, hread, hstep.stands (fun _ _ _ hhandle => hhandle) ?_ ?_ hstands⟩
          · exact fun hremoves => ⟨caller, hevent ▸ hremoves⟩
          · rintro ⟨remover, hremoves⟩ henrols
            obtain ⟨response, now, record, opened, henrolled, hsession, haccount, hsame⟩ := henrols
            exact hapart remover caller _ _ hremoves
              ⟨response, now, record, opened, hevent ▸ henrolled, hinitial _ _ hsession, haccount,
                hsame⟩
      | _ => exact hfits
  | _ => exact hfits

/-- A call goes on, and does not end. -/
theorem Serializes.advance (hserial : Serializes party events initial store stages order serial)
    {stage : Stage} {after : AccountStore} (hopen : ∀ event, stages caller ≠ .ended event)
    (hstage : ∀ event, stage ≠ .ended event)
    (hkeys : ∀ account, after.keys account = store.keys account)
    (hgo : ∀ id session, after.session? id = some session → store.session? id = some session)
    (hshares : Shares after (Function.update (Stage.held? ∘ stages) caller stage.held?) serial)
    (hfits : stage.Fits party events after serial) :
    Serializes party events initial after (Function.update stages caller stage) order serial where
  ran := hserial.ran
  nodup := hserial.nodup
  mem_order other := by
    rw [hserial.mem_order]
    by_cases hother : other = caller
    · subst hother
      simp [hopen, hstage]
    · rw [Function.update_of_ne hother]
  keys account := (hkeys account).trans (hserial.keys account)
  shares := by
    rw [Function.comp_update]
    exact hshares
  fits := (Function.forall_update_iff stages fun _ stage => stage.Fits party events after serial).2
    ⟨hfits, fun other _ => (hserial.fits other).of_session? hgo⟩

/-- A call ends, and is the next in the order. -/
theorem Serializes.finish (hserial : Serializes party events initial store stages order serial)
    (hapart : Apart initial events) {after final : AccountStore}
    (hopen : ∀ event, stages caller ≠ .ended event)
    (hleads : (events caller).Leads party serial final)
    (hquiet : (Moment.mk serial (events caller) final).issued = [])
    (hkeys : ∀ account, after.keys account = final.keys account)
    (hgo : ∀ id session, after.session? id = some session → store.session? id = some session)
    (hshares : Shares after (Function.update (Stage.held? ∘ stages) caller none) final) :
    Serializes party events initial after (Function.update stages caller (.ended (events caller)))
      (order ++ [caller]) final := by
  obtain ⟨history, hrun, hevents, hissued⟩ := hserial.ran
  have hstep : Step party serial ⟨serial, events caller, final⟩ final := .call _ hleads
  exact {
    ran := by
      refine ⟨history ++ [⟨serial, events caller, final⟩], hrun.append (.step hstep (.done _)),
        ?_, ?_⟩
      · rw [List.map_append, List.map_append, hevents]
        rfl
      · intro moment hmem
        rcases List.mem_append.1 hmem with hmem | hmem
        · exact hissued moment hmem
        · rw [List.mem_singleton.1 hmem]
          exact hquiet
    nodup := by
      have hcaller : caller ∉ order := by
        rw [hserial.mem_order]
        rintro ⟨event, hended⟩
        exact hopen event hended
      simpa [List.nodup_append, hserial.nodup] using
        fun other hmem => ne_of_mem_of_not_mem hmem hcaller
    mem_order := by
      intro other
      rw [List.mem_append, hserial.mem_order, List.mem_singleton]
      by_cases hother : other = caller
      · subst hother
        simp
      · simp [hother]
    keys := hkeys
    shares := by
      rw [Function.comp_update]
      exact hshares
    fits := by
      refine (Function.forall_update_iff stages fun _ stage =>
        stage.Fits party events after final).2 ⟨trivial, fun other _ => ?_⟩
      exact ((hserial.fits other).of_session? hgo).of_step hstep ⟨caller, rfl⟩
        (fun _ _ => hserial.session?_initial) hapart }

/-- A response is answered as the verdict says, and the session that its call holds is used up. -/
theorem Serializes.respond (hserial : Serializes party events initial store stages order serial)
    (hapart : Apart initial events) {response : Response} {session : Web.Session}
    {middle : AccountStore} {verdict : Except Failure (Web.Enrolment × List Web.Enrolment)}
    (hopen : ∀ event, stages caller ≠ .ended event)
    (hkeys : ∀ account, middle.keys account = store.keys account)
    (hgo : ∀ id session, middle.session? id = some session → store.session? id = some session)
    (hshares : Shares middle (Function.update (Stage.held? ∘ stages) caller
      (some (response.sessionId, session))) serial)
    (hawaits : session.awaits = response.kind)
    (hverdict : response.verdict party session (store.keys session.account) = verdict)
    (hevent : events caller = response.event (verdict.map Prod.fst)) :
    ∃ final, Serializes party events initial (middle.settle session.account verdict)
      (Function.update stages caller (.ended (response.event (verdict.map Prod.fst))))
      (order ++ [caller]) final := by
  have hwaiting : serial.waiting? response.kind response.sessionId = some session := by
    rw [AccountStore.waiting?_eq_some_iff, hshares.session?_iff]
    exact ⟨Or.inr ⟨caller, Function.update_self ..⟩, hawaits⟩
  have hleads := @Response.leads party _ _ response hwaiting
  rw [← hserial.keys, hverdict, ← hevent] at hleads
  rw [← hevent]
  refine ⟨_, hserial.finish hapart hopen hleads ?_ ?_ ?_ ?_⟩
  · rw [hevent]
    cases response <;> rfl
  · refine AccountStore.keys_settle_congr (fun account => ?_) _ _
    rw [hkeys, AccountStore.keys_closeSession, hserial.keys]
  · intro id taken htaken
    rw [AccountStore.session?_settle] at htaken
    exact hgo id taken htaken
  · have hdropped := hshares.drop (Function.update_self ..)
    rw [Function.update_idem] at hdropped
    exact hdropped.congr (AccountStore.session?_settle _ _ _) (AccountStore.session?_settle _ _ _)

/-! The stages, one after the other. -/

theorem update_held {held : Option (String × Web.Session)} (hheld : (stages caller).held? = held) :
    Function.update (Stage.held? ∘ stages) caller held = Stage.held? ∘ stages := by
  subst hheld
  exact Function.update_eq_self caller (Stage.held? ∘ stages)

theorem Serializes.step_respond
    (hserial : Serializes party events initial store stages order serial)
    {response : Response} (hstage : stages caller = .start (.respond response)) :
    Serializes party events initial store (Function.update stages caller
      (if (store.waiting? response.kind response.sessionId).isSome then .seen response
        else .refused response)) order serial := by
  have hopen : ∀ event, stages caller ≠ .ended event := by simp [hstage]
  have hshares : Shares store (Function.update (Stage.held? ∘ stages) caller none) serial := by
    rw [update_held (by rw [hstage]; rfl)]
    exact hserial.shares
  cases hwaiting : store.waiting? response.kind response.sessionId with
  | none =>
      simp only [Option.isSome_none, Bool.false_eq_true, if_false]
      exact hserial.advance hopen (by simp) (fun _ => rfl) (fun _ _ => id) hshares hwaiting
  | some session =>
      simp only [Option.isSome_some, if_true]
      refine hserial.advance hopen (by simp) (fun _ => rfl) (fun _ _ => id) hshares ?_
      intro other hother
      obtain ⟨hsession, hawaits⟩ := AccountStore.waiting?_eq_some_iff.1 hwaiting
      rw [hsession] at hother
      cases hother
      exact hawaits

theorem Serializes.step_removeKey
    (hserial : Serializes party events initial store stages order serial)
    (hapart : Apart initial events) {account : String} {publicKey : Bytes}
    (hstage : stages caller = .start (.removeKey account publicKey))
    (hevent : events caller =
      .removeKey account publicKey (.ok (store.hasKey account publicKey))) :
    ∃ final, Serializes party events initial (store.removeKey account publicKey)
      (Function.update stages caller (.ended (events caller))) (order ++ [caller]) final := by
  have hopen : ∀ event, stages caller ≠ .ended event := by simp [hstage]
  have hhas : store.hasKey account publicKey = serial.hasKey account publicKey := by
    rw [AccountStore.hasKey, AccountStore.hasKey, hserial.keys]
  have hleads : (events caller).Leads party serial (serial.removeKey account publicKey) := by
    rw [hevent, hhas]
    exact ⟨.random, .ofTape [], rfl⟩
  refine ⟨_, hserial.finish hapart hopen hleads ?_ ?_ ?_ ?_⟩
  · rw [hevent]
    rfl
  · intro holder
    rw [AccountStore.keys_removeKey, AccountStore.keys_removeKey, hserial.keys, hserial.keys]
  · intro id session hsession
    rwa [AccountStore.session?_removeKey] at hsession
  · rw [update_held (by rw [hstage]; rfl)]
    exact hserial.shares.congr (store.session?_removeKey account publicKey)
      (serial.session?_removeKey account publicKey)

/-- A call sees a session, and finds it gone when it is to take it. -/
theorem Serializes.step_gone (hserial : Serializes party events initial store stages order serial)
    {response : Response} (hstage : stages caller = .seen response)
    (hwaiting : store.waiting? response.kind response.sessionId = none) :
    Serializes party events initial (store.closeSession response.sessionId)
      (Function.update stages caller (.refused response)) order serial := by
  have hopen : ∀ event, stages caller ≠ .ended event := by simp [hstage]
  have hgo : ∀ id session, (store.closeSession response.sessionId).session? id = some session →
      store.session? id = some session := fun _ _ => AccountStore.session?_of_closeSession
  have hfits := hserial.fits caller
  rw [hstage] at hfits
  -- Had another session the id, the call would not have seen it: so there is none to close.
  have hnone : store.session? response.sessionId = none := by
    rw [Option.eq_none_iff_forall_ne_some]
    intro session hsession
    exact AccountStore.waiting?_eq_none_iff.1 hwaiting session hsession (hfits session hsession)
  refine hserial.advance hopen (by simp) (store.keys_closeSession response.sessionId) hgo ?_ ?_
  · rw [show Stage.held? (.refused response) = none from rfl, update_held (by rw [hstage]; rfl)]
    exact hserial.shares.congr (AccountStore.session?_closeSession_of_none hnone) fun _ => rfl
  · refine AccountStore.waiting?_eq_none_iff.2 fun session hsession => ?_
    exact AccountStore.waiting?_eq_none_iff.1 hwaiting session (hgo _ _ hsession)

/-- A call takes the session that it saw, and goes on with it. -/
theorem Serializes.step_taken (hserial : Serializes party events initial store stages order serial)
    (hapart : Apart initial events) {response : Response} {session : Web.Session}
    (hstage : stages caller = .seen response)
    (hwaiting : store.waiting? response.kind response.sessionId = some session)
    (hended : ∀ event, response.proceed party session = .ended event → events caller = event) :
    ∃ order final, Serializes party events initial (store.closeSession response.sessionId)
      (Function.update stages caller (response.proceed party session)) order final := by
  have hopen : ∀ event, stages caller ≠ .ended event := by simp [hstage]
  have hclosed := store.keys_closeSession response.sessionId
  have hgo : ∀ id session, (store.closeSession response.sessionId).session? id = some session →
      store.session? id = some session := fun _ _ => AccountStore.session?_of_closeSession
  obtain ⟨hsession, hawaits⟩ := AccountStore.waiting?_eq_some_iff.1 hwaiting
  have hshares : Shares (store.closeSession response.sessionId) (Function.update
      (Stage.held? ∘ stages) caller (some (response.sessionId, session))) serial :=
    hserial.shares.take (by rw [Function.comp_apply, hstage]; rfl) hsession
  cases response with
  | registration response now =>
      simp only [Response.proceed] at hended ⊢
      cases hverdict : party.registrationVerdict session response now with
      | ok key =>
          exact ⟨order, serial, hserial.advance hopen (by simp) (fun _ => rfl) hgo hshares
            ⟨hawaits, hverdict⟩⟩
      | error failure =>
          have hevent := hended _ (by rw [hverdict])
          have hfailed : (Response.registration response now).verdict party session
              (store.keys session.account) = .error failure := by
            rw [Response.verdict, hverdict]
            rfl
          obtain ⟨final, hfinal⟩ :=
            hserial.respond hapart hopen hclosed hgo hshares hawaits hfailed hevent
          exact ⟨_, final, hfinal⟩
  | signature response =>
      obtain ⟨publicKey, hkey⟩ := Web.Session.awaits_authentication_iff.1 hawaits
      simp only [Response.proceed, hkey]
      exact ⟨order, serial, hserial.advance hopen (by simp) (fun _ => rfl) hgo hshares hkey⟩

/-- A signature that is checked has failed, or has the record it is by, and only its counter is left
to look at. -/
theorem checked_cases (party : RelyingParty) {session : Web.Session} {publicKey : Bytes}
    (hkey : session.publicKey? = some publicKey) (response : Web.SignResponse)
    (keys : List Web.Enrolment) :
    (∃ failure, party.signatureVerdict session response keys = .error failure ∧
        checked party session response publicKey keys =
          .ended (.acceptSignature response (.error failure))) ∨
      ∃ key authentication, keys.find? (fun key => key.publicKey = publicKey) = some key ∧
        key.publicKey = publicKey ∧ key.keyHandle = response.keyHandle ∧
        party.readAuthentication session key response = .ok authentication ∧
        checked party session response publicKey keys =
          .working session (.raise response key authentication.counter) := by
  unfold checked signatureVerdict
  simp only [hkey]
  cases hfound : (keys.find? fun key => key.publicKey = publicKey).filter fun key =>
      key.keyHandle = response.keyHandle with
  | none => exact Or.inl ⟨_, rfl, rfl⟩
  | some key =>
      obtain ⟨hfind, hhandle⟩ := Option.filter_eq_some_iff.1 hfound
      simp only []
      cases hread : party.readAuthentication session key response with
      | error failure => exact Or.inl ⟨failure, rfl, rfl⟩
      | ok authentication =>
          exact Or.inr ⟨key, authentication, hfind, by simpa using List.find?_some hfind,
            by simpa using hhandle, hread, rfl⟩

/-- The record that a signature was checked against may have a new counter by now, or may be gone.
The verdict is then that of the counter alone. -/
theorem signatureVerdict_of_read {session : Web.Session} {response : Web.SignResponse}
    {key : Web.Enrolment} {authentication : Raw.AuthenticationResponse}
    {keys : List Web.Enrolment} (hkey : session.publicKey? = some key.publicKey)
    (hread : party.readAuthentication session key response = .ok authentication)
    (hfirst : ∀ other, keys.find? (fun other => other.publicKey = key.publicKey) = some other →
      other.keyHandle = response.keyHandle) :
    party.signatureVerdict session response keys =
      AccountStore.raiseFirst key.publicKey authentication.counter keys := by
  simp only [signatureVerdict, hkey]
  cases hfind : keys.find? fun other => other.publicKey = key.publicKey with
  | none =>
      rw [AccountStore.raiseFirst_of_find?_eq_none _ hfind]
      rfl
  | some other =>
      have hsame : other.publicKey = key.publicKey := by simpa using List.find?_some hfind
      have hother : party.readAuthentication session other response = .ok authentication := by
        rw [← hread, readAuthentication, readAuthentication, hsame]
      simp only [Option.filter_some, hfirst other hfind, decide_true, if_true, hother, hsame]
      rfl

section

variable {session : Web.Session}

theorem Serializes.shares_working
    (hserial : Serializes party events initial store stages order serial) {work : Work}
    (hstage : stages caller = .working session work) :
    Shares store (Function.update (Stage.held? ∘ stages) caller
      (some (work.response.sessionId, session))) serial := by
  have hheld : (stages caller).held? = some (work.response.sessionId, session) := by
    rw [hstage]
    rfl
  rw [update_held hheld]
  exact hserial.shares

/-- A call answers in the session that is its own, by the keys that it finds at its end. -/
theorem Serializes.answer (hserial : Serializes party events initial store stages order serial)
    (hapart : Apart initial events) {work : Work}
    {verdict : Except Failure (Web.Enrolment × List Web.Enrolment)}
    (hstage : stages caller = .working session work)
    (hawaits : session.awaits = work.response.kind)
    (hverdict : work.response.verdict party session (store.keys session.account) = verdict)
    (hevent : events caller = work.response.event (verdict.map Prod.fst)) :
    ∃ order final, Serializes party events initial (store.settle session.account verdict)
      (Function.update stages caller (.ended (work.response.event (verdict.map Prod.fst)))) order
      final := by
  obtain ⟨final, hfinal⟩ := hserial.respond hapart (by simp [hstage]) (fun _ => rfl)
    (fun _ _ => id) (hserial.shares_working hstage) hawaits hverdict hevent
  exact ⟨_, final, hfinal⟩

/-- A signature is checked against the keys of the account: it fails, or its counter is left to be
looked at. -/
theorem Serializes.step_read (hserial : Serializes party events initial store stages order serial)
    (hapart : Apart initial events) {response : Web.SignResponse} {publicKey : Bytes}
    (hstage : stages caller = .working session (.read response publicKey))
    (hended : ∀ event, checked party session response publicKey (store.keys session.account) =
      .ended event → events caller = event) :
    ∃ order final, Serializes party events initial store (Function.update stages caller
      (checked party session response publicKey (store.keys session.account))) order final := by
  have hfits := hserial.fits caller
  rw [hstage] at hfits
  rcases party.checked_cases hfits response (store.keys session.account) with
    ⟨failure, hfailed, hchecked⟩ | ⟨key, authentication, hfind, rfl, hhandle, hread, hchecked⟩
  · rw [hchecked] at hended ⊢
    exact hserial.answer hapart hstage (Web.Session.awaits_authentication_iff.2 ⟨_, hfits⟩) hfailed
      (hended _ rfl)
  · have hshares := hserial.shares_working hstage
    rw [hchecked]
    refine ⟨order, serial, hserial.advance (by simp [hstage]) (by simp) (fun _ => rfl)
      (fun _ _ => id) hshares ⟨hfits, ⟨authentication, hread, rfl⟩, ?_⟩⟩
    rw [Stands, ← hserial.keys, hfind]
    exact hhandle

/-- A call goes on with a session that is its own. -/
theorem Serializes.step_working
    (hserial : Serializes party events initial store stages order serial)
    (hapart : Apart initial events) {work : Work}
    (hstage : stages caller = .working session work)
    (hended : ∀ event, work.next party store session = .ended event → events caller = event) :
    ∃ order final, Serializes party events initial (work.effect store session)
      (Function.update stages caller (work.next party store session)) order final := by
  have hfits := hserial.fits caller
  rw [hstage] at hfits
  cases work with
  | enrol response now key =>
      obtain ⟨hawaits, hverdict⟩ := hfits
      have htaken : (Response.registration response now).verdict party session
          (store.keys session.account) = .ok (key, store.keys session.account ++ [key]) := by
        rw [Response.verdict, hverdict]
        rfl
      exact hserial.answer hapart hstage hawaits htaken (hended _ rfl)
  | read response publicKey => exact hserial.step_read hapart hstage hended
  | raise response key counter =>
      obtain ⟨hkey, ⟨authentication, hread, rfl⟩, hstands⟩ := hfits
      have hverdict : (Response.signature response).verdict party session
          (store.keys session.account) = AccountStore.raiseFirst key.publicKey
            authentication.counter (store.keys session.account) := by
        refine signatureVerdict_of_read hkey hread fun other hother => ?_
        rw [Stands, ← hserial.keys, hother] at hstands
        exact hstands
      simp only [Work.next, Work.effect, AccountStore.raiseCounter_eq] at hended ⊢
      exact hserial.answer hapart hstage (Web.Session.awaits_authentication_iff.2 ⟨_, hkey⟩)
        hverdict (hended _ rfl)

end

/-- Whatever call goes on, there is an order in which those that ended could have been made. -/
theorem Serializes.step (hserial : Serializes party events initial store stages order serial)
    (hapart : Apart initial events)
    (hended : ∀ event, (stages caller).next party store = .ended event → events caller = event) :
    ∃ order final, Serializes party events initial ((stages caller).effect store)
      (Function.update stages caller ((stages caller).next party store)) order final := by
  cases hstage : stages caller with
  | start call =>
      rw [hstage] at hended
      cases call with
      | respond response => exact ⟨order, serial, hserial.step_respond hstage⟩
      | removeKey account publicKey =>
          have hevent := hended _ rfl
          obtain ⟨final, hfinal⟩ := hserial.step_removeKey hapart hstage hevent
          rw [hevent] at hfinal
          exact ⟨_, final, hfinal⟩
  | seen response =>
      rw [hstage] at hended
      simp only [Stage.next, Stage.effect] at hended ⊢
      cases hwaiting : store.waiting? response.kind response.sessionId with
      | none => exact ⟨order, serial, hserial.step_gone hstage hwaiting⟩
      | some session =>
          simp only [hwaiting] at hended
          exact hserial.step_taken hapart hstage hwaiting hended
  | working session work =>
      rw [hstage] at hended
      exact hserial.step_working hapart hstage hended
  | refused response =>
      simp only [Stage.next, Stage.effect]
      rw [← hstage, Function.update_eq_self]
      exact ⟨order, serial, hserial⟩
  | ended event =>
      simp only [Stage.next, Stage.effect]
      rw [← hstage, Function.update_eq_self]
      exact ⟨order, serial, hserial⟩

end RelyingParty

end SecondFactor
