import SecondFactor.Proofs.RelyingParty.SignatureData
import SecondFactor.Proofs.RelyingParty.SignatureRequests

/-!
Signatures of different keys. A response reads its session and the first record of its key, and
changes nothing else; so responses for different keys can be taken in any order,
`signatures_commute`.
-/

namespace SecondFactor

namespace AccountStore

/-- Two stores hold the same sessions and the same keys. -/
structure Same (store other : AccountStore) : Prop where
  sessions : store.sessions = other.sessions
  keys : ∀ account, store.keys account = other.keys account

theorem Same.refl (store : AccountStore) : store.Same store := ⟨rfl, fun _ => rfl⟩

theorem Same.trans {store other third : AccountStore} (hsame : store.Same other)
    (hthird : other.Same third) : store.Same third :=
  ⟨hsame.sessions.trans hthird.sessions, fun account =>
    (hsame.keys account).trans (hthird.keys account)⟩

/-- A session waits under an id for a signature of a key of an account. -/
def Binds (store : AccountStore) (id account : String) (publicKey : Bytes) : Prop :=
  ∃ session, store.session? id = some session ∧ session.account = account ∧
    session.purpose = .sign publicKey

/-- Two responses are to different sessions, which do not both wait for one key of one account. -/
structure Unrelated (store : AccountStore) (response other : Web.SignResponse) : Prop where
  sessionId : response.sessionId ≠ other.sessionId
  key : ∀ account publicKey, store.Binds response.sessionId account publicKey →
    ¬ store.Binds other.sessionId account publicKey

theorem Unrelated.symm {store : AccountStore} {response other : Web.SignResponse}
    (hunrelated : store.Unrelated response other) : store.Unrelated other response :=
  ⟨hunrelated.sessionId.symm, fun account publicKey hother hbinds =>
    hunrelated.key account publicKey hbinds hother⟩

@[simp] theorem sessions_settle (store : AccountStore) (account : String)
    (verdict : Except Failure (Web.Enrolment × List Web.Enrolment)) :
    (store.settle account verdict).sessions = store.sessions := by
  cases verdict <;> rfl

end AccountStore

namespace RelyingParty

/-! What a signature reads and changes of the keys. -/

/-- What becomes of a signature that is checked against the first record of its key, if there is
one. -/
def recordVerdict (party : RelyingParty) (session : Web.Session) (response : Web.SignResponse)
    (first? : Option Web.Enrolment) : Except Failure Web.Enrolment :=
  match first?.filter fun key => key.keyHandle = response.keyHandle with
  | none => .error .unknownKeyHandle
  | some key =>
    match party.readAuthentication session key response with
    | .error failure => .error failure
    | .ok authentication =>
      if key.counter < authentication.counter then
        .ok { key with counter := authentication.counter }
      else .error (.counterRegression key.counter authentication.counter)

/-- The keys of an account after the result of a signature for one of them. -/
def afterResult (publicKey : Bytes) (result : Except Failure Web.Enrolment)
    (keys : List Web.Enrolment) : List Web.Enrolment :=
  match result with
  | .ok record => setFirst publicKey record.counter keys
  | .error _ => keys

variable {party : RelyingParty} {store other : AccountStore} {response response' : Web.SignResponse}

theorem signatureVerdict_eq_map (party : RelyingParty) {session : Web.Session} {publicKey : Bytes}
    (hkey : session.publicKey? = some publicKey) (response : Web.SignResponse)
    (keys : List Web.Enrolment) :
    party.signatureVerdict session response keys =
      (party.recordVerdict session response
        (keys.find? fun key => key.publicKey = publicKey)).map fun record =>
          (record, setFirst publicKey record.counter keys) := by
  simp only [signatureVerdict, hkey, recordVerdict]
  cases hfound : (keys.find? fun key => key.publicKey = publicKey).filter fun key =>
      key.keyHandle = response.keyHandle with
  | none => rfl
  | some key =>
      obtain ⟨hfind, _⟩ := Option.filter_eq_some_iff.1 hfound
      obtain rfl : key.publicKey = publicKey := by simpa using List.find?_some hfind
      simp only []
      cases party.readAuthentication session key response with
      | error failure => rfl
      | ok authentication =>
          change AccountStore.raiseFirst key.publicKey authentication.counter keys = _
          by_cases hcounter : key.counter < authentication.counter
          · rw [AccountStore.raiseFirst_of_find? hfind hcounter]
            simp only [hcounter, if_true]
            rfl
          · rw [AccountStore.raiseFirst_of_not_risen hfind (UInt32.not_lt.1 hcounter)]
            simp only [hcounter, if_false]
            rfl

theorem find?_setFirst_of_ne {publicKey found : Bytes} (hne : publicKey ≠ found)
    (counter : UInt32) (keys : List Web.Enrolment) :
    (setFirst publicKey counter keys).find? (fun key => key.publicKey = found) =
      keys.find? fun key => key.publicKey = found := by
  induction keys with
  | nil => rfl
  | cons key rest ih =>
      rw [setFirst]
      split
      · rename_i hkey
        have hother : ¬ key.publicKey = found := hkey ▸ hne
        rw [List.find?_cons_of_neg (by simpa using hother),
          List.find?_cons_of_neg (by simpa using hother)]
      · rw [List.find?_cons, List.find?_cons, ih]

theorem setFirst_comm {publicKey publicKey' : Bytes} (hne : publicKey ≠ publicKey')
    (counter counter' : UInt32) (keys : List Web.Enrolment) :
    setFirst publicKey counter (setFirst publicKey' counter' keys) =
      setFirst publicKey' counter' (setFirst publicKey counter keys) := by
  induction keys with
  | nil => rfl
  | cons key rest ih =>
      by_cases hkey : key.publicKey = publicKey
      · have hother : ¬ key.publicKey = publicKey' := hkey ▸ hne
        simp [setFirst, hkey, hne]
      · by_cases hkey' : key.publicKey = publicKey'
        · simp [setFirst, hkey', hne.symm]
        · simp [setFirst, hkey, hkey', ih]

theorem find?_afterResult_of_ne {publicKey found : Bytes} (hne : publicKey ≠ found)
    (result : Except Failure Web.Enrolment) (keys : List Web.Enrolment) :
    (afterResult publicKey result keys).find? (fun key => key.publicKey = found) =
      keys.find? fun key => key.publicKey = found := by
  cases result with
  | error failure => rfl
  | ok record => exact find?_setFirst_of_ne hne record.counter keys

theorem afterResult_comm {publicKey publicKey' : Bytes} (hne : publicKey ≠ publicKey')
    (result result' : Except Failure Web.Enrolment) (keys : List Web.Enrolment) :
    afterResult publicKey result (afterResult publicKey' result' keys) =
      afterResult publicKey' result' (afterResult publicKey result keys) := by
  cases result with
  | error failure => rfl
  | ok record =>
      cases result' with
      | error failure => rfl
      | ok record' => exact setFirst_comm hne record.counter record'.counter keys

/-! One response. -/

/-- A response used up its session. What it came to depends on the first record of its key alone,
and the counter of that record is all that may have changed of the keys. -/
structure Touches (party : RelyingParty) (store : AccountStore) (response : Web.SignResponse)
    (session : Web.Session) (publicKey : Bytes) (result : Except Failure Web.Enrolment)
    (after : AccountStore) : Prop where
  result_eq : result =
    party.recordVerdict session response (store.firstKey? session.account publicKey)
  sessions : after.sessions = store.sessions.erase response.sessionId
  keys : ∀ holder, after.keys holder =
    if holder = session.account then afterResult publicKey result (store.keys holder)
    else store.keys holder

theorem touches_signatureOutcome (party : RelyingParty) {session : Web.Session}
    {publicKey : Bytes} (hsession : store.session? response.sessionId = some session)
    (hpurpose : session.purpose = .sign publicKey) :
    party.Touches store response session publicKey (party.signatureOutcome store response).1
      (party.signatureOutcome store response).2 := by
  rw [signatureOutcome_of_waiting (waiting?_of_sign hsession hpurpose),
    signatureVerdict_eq_map party (publicKey?_eq_some_iff.2 hpurpose)]
  refine ⟨?_, AccountStore.sessions_settle _ _ _, fun holder => ?_⟩
  · rw [← AccountStore.firstKey?]
    cases party.recordVerdict session response (store.firstKey? session.account publicKey) <;> rfl
  · cases party.recordVerdict session response
        ((store.keys session.account).find? fun key => key.publicKey = publicKey) with
    | error failure => exact (ite_self _).symm
    | ok record =>
        refine (AccountStore.keys_setKeys ..).trans ?_
        split
        · rename_i hholder
          rw [hholder]
          rfl
        · rfl

/-- A response that no session waits for is refused, and changes nothing. -/
theorem signatureOutcome_of_not_binds
    (hnot : ¬ ∃ account publicKey, store.Binds response.sessionId account publicKey) :
    party.signatureOutcome store response = (.error .unknownSession, store) := by
  refine signatureOutcome_of_none (AccountStore.waiting?_eq_none_iff.2 fun session hsession => ?_)
  intro hawaits
  obtain ⟨publicKey, hkey⟩ := Web.Session.awaits_authentication_iff.1 hawaits
  exact hnot ⟨session.account, publicKey, session, hsession, rfl, publicKey?_eq_some_iff.1 hkey⟩

theorem session?_signatureOutcome (party : RelyingParty) (store : AccountStore)
    (response : Web.SignResponse) (id : String) :
    (party.signatureOutcome store response).2.session? id = store.session? id ∨
      id = response.sessionId ∧ (party.signatureOutcome store response).2.session? id = none := by
  cases hwaiting : store.waiting? .authentication response.sessionId with
  | none =>
      rw [signatureOutcome_of_none hwaiting]
      exact .inl rfl
  | some session =>
      rw [signatureOutcome_of_waiting hwaiting, AccountStore.session?_settle,
        AccountStore.session?_closeSession]
      by_cases hid : id = response.sessionId
      · exact .inr ⟨hid, if_pos hid⟩
      · exact .inl (if_neg hid)

theorem session?_signatureOutcome_of_ne (party : RelyingParty) {id : String}
    (hne : id ≠ response.sessionId) :
    (party.signatureOutcome store response).2.session? id = store.session? id :=
  (party.session?_signatureOutcome store response id).resolve_right fun ⟨hid, _⟩ => hne hid

/-- No session is bound by a response. -/
theorem binds_of_signatureOutcome {id account : String} {publicKey : Bytes}
    (hbinds : (party.signatureOutcome store response).2.Binds id account publicKey) :
    store.Binds id account publicKey := by
  obtain ⟨session, hsession, hbound⟩ := hbinds
  rcases party.session?_signatureOutcome store response id with hkept | ⟨_, hnone⟩
  · exact ⟨session, hkept ▸ hsession, hbound⟩
  · rw [hnone] at hsession
    cases hsession

theorem not_binds_signatureOutcome (party : RelyingParty) (response : Web.SignResponse)
    {id : String} (hnot : ¬ ∃ account publicKey, store.Binds id account publicKey) :
    ¬ ∃ account publicKey, (party.signatureOutcome store response).2.Binds id account publicKey :=
  fun ⟨account, publicKey, hbinds⟩ => hnot ⟨account, publicKey, binds_of_signatureOutcome hbinds⟩

theorem unrelated_after (hunrelated : store.Unrelated response response')
    (party : RelyingParty) (given : Web.SignResponse) :
    (party.signatureOutcome store given).2.Unrelated response response' :=
  ⟨hunrelated.sessionId, fun account publicKey hbinds hbinds' =>
    hunrelated.key account publicKey (binds_of_signatureOutcome hbinds)
      (binds_of_signatureOutcome hbinds')⟩

/-- On stores with the same sessions and keys, a response comes to the same. -/
theorem signatureOutcome_congr (hsame : store.Same other) (party : RelyingParty)
    (response : Web.SignResponse) :
    (party.signatureOutcome store response).1 = (party.signatureOutcome other response).1 ∧
      (party.signatureOutcome store response).2.Same (party.signatureOutcome other response).2 := by
  have hwaits : store.waiting? .authentication response.sessionId =
      other.waiting? .authentication response.sessionId := by
    rw [AccountStore.waiting?, AccountStore.waiting?, AccountStore.session?, AccountStore.session?,
      hsame.sessions]
  cases hwaiting : store.waiting? .authentication response.sessionId with
  | none =>
      rw [signatureOutcome_of_none hwaiting, signatureOutcome_of_none (hwaits ▸ hwaiting)]
      exact ⟨rfl, hsame⟩
  | some session =>
      rw [signatureOutcome_of_waiting hwaiting, signatureOutcome_of_waiting (hwaits ▸ hwaiting),
        hsame.keys]
      have hkeys : ∀ account, (store.closeSession response.sessionId).keys account =
          (other.closeSession response.sessionId).keys account := hsame.keys
      refine ⟨rfl, ?_, AccountStore.keys_settle_congr hkeys _ _⟩
      rw [AccountStore.sessions_settle, AccountStore.sessions_settle]
      exact congrArg (Table.erase · response.sessionId) hsame.sessions

/-! Two responses. -/

section

variable {session session' : Web.Session} {publicKey publicKey' : Bytes}
  {result result' : Except Failure Web.Enrolment} {after after' last last' : AccountStore}

theorem Touches.firstKey?_of_apart
    (htouches : party.Touches store response session publicKey result after)
    (hapart : session.account = session'.account → publicKey ≠ publicKey') :
    after.firstKey? session'.account publicKey' = store.firstKey? session'.account publicKey' := by
  rw [AccountStore.firstKey?, htouches.keys]
  split
  · rename_i haccount
    exact find?_afterResult_of_ne (hapart haccount.symm) result _
  · rfl

/-- What two responses touch is the same in either order. -/
theorem Touches.same (hapart : session.account = session'.account → publicKey ≠ publicKey')
    (hfirst : party.Touches store response session publicKey result after)
    (hsecond : party.Touches after response' session' publicKey' result' last)
    (hother : party.Touches store response' session' publicKey' result' after')
    (hlater : party.Touches after' response session publicKey result last') : last.Same last' where
  sessions := by
    rw [hsecond.sessions, hfirst.sessions, hlater.sessions, hother.sessions, Table.erase_comm]
  keys holder := by
    rw [hsecond.keys, hfirst.keys, hlater.keys, hother.keys]
    by_cases haccount : holder = session.account
    · by_cases haccount' : holder = session'.account
      · rw [if_pos haccount, if_pos haccount', if_pos haccount', if_pos haccount]
        exact afterResult_comm (hapart (haccount.symm.trans haccount')).symm _ _ _
      · rw [if_neg haccount', if_neg haccount']
    · rw [if_neg haccount, if_neg haccount]

end

theorem signatureOutcome_comm_of_binds (hunrelated : store.Unrelated response response')
    {session session' : Web.Session} {publicKey publicKey' : Bytes}
    (hsession : store.session? response.sessionId = some session)
    (hpurpose : session.purpose = .sign publicKey)
    (hsession' : store.session? response'.sessionId = some session')
    (hpurpose' : session'.purpose = .sign publicKey') :
    (party.signatureOutcome (party.signatureOutcome store response).2 response').1 =
        (party.signatureOutcome store response').1 ∧
      (party.signatureOutcome (party.signatureOutcome store response).2 response').2.Same
        (party.signatureOutcome (party.signatureOutcome store response').2 response).2 := by
  have hapart : session.account = session'.account → publicKey ≠ publicKey' := by
    rintro haccount rfl
    exact hunrelated.key _ _ ⟨session, hsession, rfl, hpurpose⟩
      ⟨session', hsession', haccount.symm, hpurpose'⟩
  -- Either response finds its session still there after the other.
  have hkept := (party.session?_signatureOutcome_of_ne hunrelated.sessionId.symm).trans hsession'
  have hkept' := (party.session?_signatureOutcome_of_ne hunrelated.sessionId).trans hsession
  have hfirst := party.touches_signatureOutcome hsession hpurpose
  have hsecond := party.touches_signatureOutcome hkept hpurpose'
  have hother := party.touches_signatureOutcome hsession' hpurpose'
  have hlater := party.touches_signatureOutcome hkept' hpurpose
  have hresult := hlater.result_eq
  rw [hother.firstKey?_of_apart fun haccount => (hapart haccount.symm).symm,
    ← hfirst.result_eq] at hresult
  have hresult' := hsecond.result_eq
  rw [hfirst.firstKey?_of_apart hapart, ← hother.result_eq] at hresult'
  rw [hresult] at hlater
  rw [hresult'] at hsecond
  exact ⟨hresult', Touches.same hapart hfirst hsecond hother hlater⟩

/-- Of two unrelated responses, the second comes to what it would come to without the first, and in
either order they leave the same. -/
theorem signatureOutcome_comm (hunrelated : store.Unrelated response response') :
    (party.signatureOutcome (party.signatureOutcome store response).2 response').1 =
        (party.signatureOutcome store response').1 ∧
      (party.signatureOutcome (party.signatureOutcome store response).2 response').2.Same
        (party.signatureOutcome (party.signatureOutcome store response').2 response).2 := by
  by_cases hbound : ∃ account publicKey, store.Binds response.sessionId account publicKey
  · by_cases hbound' : ∃ account publicKey, store.Binds response'.sessionId account publicKey
    · obtain ⟨_, _, session, hsession, _, hpurpose⟩ := hbound
      obtain ⟨_, _, session', hsession', _, hpurpose'⟩ := hbound'
      exact signatureOutcome_comm_of_binds hunrelated hsession hpurpose hsession' hpurpose'
    · have hafter := not_binds_signatureOutcome party response hbound'
      rw [signatureOutcome_of_not_binds hafter, signatureOutcome_of_not_binds hbound']
      exact ⟨rfl, .refl _⟩
  · have hafter := not_binds_signatureOutcome party response' hbound
    rw [signatureOutcome_of_not_binds hafter, signatureOutcome_of_not_binds hbound]
    exact ⟨rfl, .refl _⟩

/-! Any number of responses. -/

/-- Takes responses one after the other. None of them is kept from its result by an earlier one that
fails. -/
def acceptEach (party : RelyingParty) :
    List Web.SignResponse → Talk (List (Except Failure Web.Enrolment))
  | [] => return []
  | response :: rest => do
    let result ← (party.acceptSignature response).attempt
    let results ← party.acceptEach rest
    return result :: results

/-- The store that responses leave one after the other. -/
def afterEach (party : RelyingParty) (store : AccountStore) (responses : List Web.SignResponse) :
    AccountStore :=
  responses.foldl (fun store response => (party.signatureOutcome store response).2) store

/-- In two orders, each response has the result that it would have alone, and the same sessions and
keys are left. -/
def EndAlike (party : RelyingParty) (store : AccountStore) (order other : List Web.SignResponse) :
    Prop :=
  ∃ last final : AccountStore, last.Same final ∧ ∀ source around,
    (party.acceptEach order).outcome source around store =
      some (.ok (order.map fun response => (party.signatureOutcome store response).1), last) ∧
    (party.acceptEach other).outcome source around store =
      some (.ok (other.map fun response => (party.signatureOutcome store response).1), final)

variable {responses order : List Web.SignResponse}

theorem pairwise_after (hpairwise : responses.Pairwise store.Unrelated) (party : RelyingParty)
    (response : Web.SignResponse) :
    responses.Pairwise (party.signatureOutcome store response).2.Unrelated :=
  hpairwise.imp fun hunrelated => unrelated_after hunrelated party response

theorem exists_run_acceptEach (hpairwise : responses.Pairwise store.Unrelated)
    (source : ChallengeSource) (around : Surroundings) :
    ∃ left, (party.acceptEach responses).run (Memory.answer source) (store, around) =
      some (.ok (responses.map fun response => (party.signatureOutcome store response).1),
        party.afterEach store responses, left) := by
  induction responses generalizing store around with
  | nil => exact ⟨around, rfl⟩
  | cons response rest ih =>
      obtain ⟨hhead, hrest⟩ := List.pairwise_cons.1 hpairwise
      obtain ⟨between, hrun⟩ := exists_run_of_outcome_eq
        (party.outcome_acceptSignature response source around store)
      have hattempt : (party.acceptSignature response).attempt.run (Memory.answer source)
          (store, around) = some (.ok (party.signatureOutcome store response).1,
            (party.signatureOutcome store response).2, between) := by
        rw [Dialogue.run_attempt, hrun]
        rfl
      obtain ⟨left, hlater⟩ := ih (pairwise_after hrest party response) between
      have hresults : rest.map (fun other => (party.signatureOutcome
          (party.signatureOutcome store response).2 other).1) =
          rest.map fun other => (party.signatureOutcome store other).1 :=
        List.map_congr_left fun other hmem => (signatureOutcome_comm (hhead other hmem)).1
      refine ⟨left, ?_⟩
      rw [acceptEach, Dialogue.run_bind_of_ok hattempt, Dialogue.run_bind_of_ok hlater, hresults]
      rfl

theorem afterEach_congr (hsame : store.Same other) (party : RelyingParty)
    (responses : List Web.SignResponse) :
    (party.afterEach store responses).Same (party.afterEach other responses) := by
  induction responses generalizing store other with
  | nil => exact hsame
  | cons response rest ih => exact ih (signatureOutcome_congr hsame party response).2

theorem afterEach_perm (hperm : order.Perm responses)
    (hpairwise : responses.Pairwise store.Unrelated) :
    (party.afterEach store order).Same (party.afterEach store responses) := by
  -- Responses that are unrelated stay so whatever was taken before them.
  induction hperm generalizing store with
  | nil => exact .refl _
  | cons response _ ih => exact ih (pairwise_after hpairwise.tail party response)
  | swap response response' rest =>
      have hunrelated := (List.pairwise_cons.1 hpairwise).1 response' List.mem_cons_self
      exact afterEach_congr (signatureOutcome_comm hunrelated.symm).2 party rest
  | trans hperm hperm' ih ih' =>
      exact (ih ((hperm'.pairwise_iff AccountStore.Unrelated.symm).2 hpairwise)).trans
        (ih' hpairwise)

theorem endAlike_of_perm (hperm : order.Perm responses)
    (hpairwise : responses.Pairwise store.Unrelated) : party.EndAlike store order responses :=
  ⟨_, _, afterEach_perm hperm hpairwise, fun source around =>
    ⟨outcome_eq_of_run (exists_run_acceptEach
      ((hperm.pairwise_iff AccountStore.Unrelated.symm).2 hpairwise) source around),
      outcome_eq_of_run (exists_run_acceptEach hpairwise source around)⟩⟩

/-! Responses to requests that were made at once. -/

section

variable {account appId : String} {challenge : Bytes} {requests : List Web.SignRequest}
  {asked : AccountStore}

theorem Requested.exists_key
    (hrequested : Requested store account appId challenge requests asked) {id : String}
    (hid : id ∈ requests.map Web.SignRequest.sessionId) :
    ∃ (index : Nat) (key : Web.Enrolment), (store.keys account)[index]? = some key ∧
      (requests.map Web.SignRequest.sessionId)[index]? = some id ∧
      asked.session? id = some ⟨account, appId, challenge, .sign key.publicKey⟩ := by
  obtain ⟨request, hmem, rfl⟩ := List.mem_map.1 hid
  obtain ⟨index, hindex, rfl⟩ := List.getElem_of_mem hmem
  have hkey : index < (store.keys account).length := by
    rw [hrequested.opened.length_eq]
    exact hindex
  refine ⟨index, (store.keys account)[index], List.getElem?_eq_getElem hkey, ?_,
    hrequested.opened.get hkey hindex⟩
  rw [List.getElem?_map, List.getElem?_eq_getElem hindex]
  rfl

/-- Responses to two of the requests for different keys are unrelated. -/
theorem Requested.unrelated
    (hrequested : Requested store account appId challenge requests asked)
    (hnodup : ((store.keys account).map Web.Enrolment.publicKey).Nodup)
    (hid : response.sessionId ∈ requests.map Web.SignRequest.sessionId)
    (hid' : response'.sessionId ∈ requests.map Web.SignRequest.sessionId)
    (hne : response.sessionId ≠ response'.sessionId) : asked.Unrelated response response' := by
  refine ⟨hne, fun holder publicKey hbinds hbinds' => hne ?_⟩
  obtain ⟨index, key, hkey, hfound, hopened⟩ := hrequested.exists_key hid
  obtain ⟨index', key', hkey', hfound', hopened'⟩ := hrequested.exists_key hid'
  obtain ⟨_, hsession, _, hpurpose⟩ := hbinds
  obtain ⟨_, hsession', _, hpurpose'⟩ := hbinds'
  rw [hopened] at hsession
  rw [hopened'] at hsession'
  cases hsession
  cases hsession'
  have hsame : key.publicKey = key'.publicKey := by
    cases hpurpose
    exact (Web.Purpose.sign.inj hpurpose').symm
  have hindex : index = index' := by
    refine (List.getElem?_inj ?_ hnodup).1 ?_
    · rw [List.length_map]
      exact (List.getElem?_eq_some_iff.1 hkey).1
    · rw [List.getElem?_map, List.getElem?_map, hkey, hkey', Option.map_some, Option.map_some,
        hsame]
  rw [hindex, hfound'] at hfound
  exact (Option.some.inj hfound).symm

theorem Requested.pairwise_unrelated
    (hrequested : Requested store account appId challenge requests asked)
    (hnodup : ((store.keys account).map Web.Enrolment.publicKey).Nodup)
    (hids : (responses.map Web.SignResponse.sessionId).Nodup)
    (hasked : ∀ response ∈ responses,
      response.sessionId ∈ requests.map Web.SignRequest.sessionId) :
    responses.Pairwise asked.Unrelated :=
  (List.pairwise_map.1 hids).imp_of_mem fun hmem hmem' hne =>
    hrequested.unrelated hnodup (hasked _ hmem) (hasked _ hmem') hne

end

/-- Two responses that are not both for one key of one account come to the same in either order. So
do, in any order, responses to requests that were made of an account at once, if the records of the
account are of different keys. -/
theorem signatures_commute (party : RelyingParty) (store : AccountStore) :
    (∀ response other, response.sessionId ≠ other.sessionId →
      (∀ account publicKey, store.Binds response.sessionId account publicKey →
        ¬ store.Binds other.sessionId account publicKey) →
      party.EndAlike store [response, other] [other, response]) ∧
    ∀ account appId source around requests asked,
      (requestSignatures account appId).outcome source around store =
        some (.ok requests, asked) →
      ((store.keys account).map Web.Enrolment.publicKey).Nodup →
      ∀ responses order : List Web.SignResponse,
        (responses.map Web.SignResponse.sessionId).Nodup →
        (∀ response ∈ responses, response.sessionId ∈ requests.map Web.SignRequest.sessionId) →
        order.Perm responses → party.EndAlike asked order responses := by
  refine ⟨fun response other hid hkey => ?_, ?_⟩
  · have hunrelated : store.Unrelated other response :=
      ⟨hid.symm, fun account publicKey hbinds hbinds' => hkey account publicKey hbinds' hbinds⟩
    exact endAlike_of_perm (.swap ..) (List.pairwise_pair.2 hunrelated)
  · intro account appId source around requests asked houtcome hnodup responses order hids hasked
      hperm
    have hkeys : store.keys account ≠ [] := by
      intro hnone
      obtain ⟨left, hrun⟩ := exists_run_of_outcome_eq houtcome
      rw [run_requestSignatures_of_nil source around hnone] at hrun
      cases hrun
    obtain ⟨_, _, _, _, hrequests, hrequested⟩ := exists_requested_of_outcome hkeys houtcome
    cases hrequests
    exact endAlike_of_perm hperm (hrequested.pairwise_unrelated hnodup hids hasked)

/-- Two accounts have one key, and signatures of it are waited for from both. -/
def sharedKeyStore : AccountStore :=
  (((AccountStore.empty.addKey "ann" (sampleKey 0)).addKey "bob" (sampleKey 0)).openSession "first"
    sampleSession).openSession "second" { sampleSession with account := "bob" }

def twoKeyRequests : List Web.SignRequest :=
  [⟨Raw.protocolVersion, [7], "https://a.b", [0], AccountStore.idOf (sampleBlock 1)⟩,
    ⟨Raw.protocolVersion, [7], "https://a.b", [2], AccountStore.idOf (sampleBlock 2)⟩]

def twoKeyAskedStore : AccountStore :=
  (twoKeyStore.openSession (AccountStore.idOf (sampleBlock 1))
    ⟨"ann", "https://a.b", [7], .sign [1]⟩).openSession (AccountStore.idOf (sampleBlock 2))
    ⟨"ann", "https://a.b", [7], .sign [3]⟩

theorem outcome_twoKeyRequests :
    (requestSignatures "ann" "https://a.b").outcome (.fixed fun _ => [7])
      (.ofTape (List.replicate 16 1 ++ List.replicate 16 2)) twoKeyStore =
        some (.ok twoKeyRequests, twoKeyAskedStore) :=
  rfl

theorem signatures_commute_for_two_accounts :
    sampleParty.EndAlike sharedKeyStore [firstResponse, secondResponse]
      [secondResponse, firstResponse] ∧
    (sampleParty.signatureOutcome sharedKeyStore firstResponse).1 = .ok (sampleKey 1) ∧
    (sampleParty.signatureOutcome sharedKeyStore secondResponse).1 = .ok (sampleKey 2) ∧
    ∀ responses order : List Web.SignResponse,
      responses.map Web.SignResponse.sessionId =
          twoKeyRequests.map Web.SignRequest.sessionId →
        order.Perm responses → sampleParty.EndAlike twoKeyAskedStore order responses := by
  have hann : sharedKeyStore.session? firstResponse.sessionId = some sampleSession := by
    decide +kernel
  have hbob : sharedKeyStore.session? secondResponse.sessionId =
      some { sampleSession with account := "bob" } := by decide +kernel
  have hfirst : sampleParty.signatureVerdict sampleSession firstResponse
      (sharedKeyStore.keys "ann") = .ok (sampleKey 1, [sampleKey 1]) :=
    eq_ok_of_toOption_eq_some (by decide +kernel)
  have hsecond : sampleParty.signatureVerdict { sampleSession with account := "bob" } secondResponse
      (sharedKeyStore.keys "bob") = .ok (sampleKey 2, [sampleKey 2]) :=
    eq_ok_of_toOption_eq_some (by decide +kernel)
  refine ⟨?_, ?_, ?_, fun responses order hids hperm => ?_⟩
  · refine (signatures_commute sampleParty sharedKeyStore).1 _ _ (by decide) ?_
    rintro account publicKey ⟨session, hsession, rfl, _⟩ ⟨session', hsession', haccount, _⟩
    rw [hann] at hsession
    rw [hbob] at hsession'
    cases hsession
    cases hsession'
    exact absurd haccount (by decide)
  · rw [signatureOutcome_of_ok (AccountStore.waiting?_eq_some_iff.2 ⟨hann, rfl⟩) hfirst]
  · rw [signatureOutcome_of_ok (AccountStore.waiting?_eq_some_iff.2 ⟨hbob, rfl⟩) hsecond]
  · refine (signatures_commute sampleParty twoKeyStore).2 _ _ _ _ _ _ outcome_twoKeyRequests
      (by decide +kernel) _ _ ?_ ?_ hperm
    · rw [hids]
      decide +kernel
    · intro response hmem
      rw [← hids]
      exact List.mem_map_of_mem hmem

end RelyingParty

end SecondFactor
