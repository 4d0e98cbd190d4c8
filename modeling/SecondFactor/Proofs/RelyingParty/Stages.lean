import SecondFactor.Proofs.RelyingParty.Traffic

/-!
The stages of a call over a store in memory. Which one comes next depends on the store the call
meets, `Stage.next`, and so does what it does to that store, `Stage.effect`. What is left of a call
follows its stage up to warnings, `Follows`, from the start of the call, `follows_start`.
-/

namespace SecondFactor.RelyingParty

/-- What a call has yet to ask once the session it answers is its own. -/
inductive Work where
  | enrol (response : Web.RegisterResponse) (now : UInt64) (key : Web.Enrolment)
  | read (response : Web.SignResponse) (publicKey : Bytes)
  | raise (response : Web.SignResponse) (key : Web.Enrolment) (counter : UInt32)

def Work.response : Work → Response
  | .enrol response now _ => .registration response now
  | .read response _ | .raise response _ _ => .signature response

inductive Stage where
  | start (call : Call)
  /-- The call saw a session that waits for it, and has yet to take it. -/
  | seen (response : Response)
  | working (session : Web.Session) (work : Work)
  /-- The call got no session. -/
  | refused (response : Response)
  | ended (event : Event)

variable {party : RelyingParty} {store : AccountStore}

/-- What becomes of a response once it took its session. -/
def Response.proceed (party : RelyingParty) (session : Web.Session) : Response → Stage
  | .registration response now =>
    match party.registrationVerdict session response now with
    | .ok key => .working session (.enrol response now key)
    | .error failure => .ended (.acceptRegistration response now (.error failure))
  | .signature response =>
    match session.publicKey? with
    | some publicKey => .working session (.read response publicKey)
    | none => .refused (.signature response)

/-- What becomes of a signature once it got the keys of its account. -/
def checked (party : RelyingParty) (session : Web.Session) (response : Web.SignResponse)
    (publicKey : Bytes) (keys : List Web.Enrolment) : Stage :=
  match (keys.find? fun key => key.publicKey = publicKey).filter fun key =>
      key.keyHandle = response.keyHandle with
  | none => .ended (.acceptSignature response (.error .unknownKeyHandle))
  | some key =>
    match party.readAuthentication session key response with
    | .error failure => .ended (.acceptSignature response (.error failure))
    | .ok authentication => .working session (.raise response key authentication.counter)

def Work.next (party : RelyingParty) (store : AccountStore) (session : Web.Session) :
    Work → Stage
  | .enrol response now key => .ended (.acceptRegistration response now (.ok key))
  | .read response publicKey =>
    checked party session response publicKey (store.keys session.account)
  | .raise response key counter => .ended (.acceptSignature response
      (store.raiseCounter session.account key.publicKey counter).1)

def Work.effect (store : AccountStore) (session : Web.Session) : Work → AccountStore
  | .enrol _ _ key => store.addKey session.account key
  | .read .. => store
  | .raise _ key counter => (store.raiseCounter session.account key.publicKey counter).2

namespace Stage

/-- The stage of a call after its next question, over a store. -/
def next (party : RelyingParty) (store : AccountStore) : Stage → Stage
  | .start (.respond response) =>
    if (store.waiting? response.kind response.sessionId).isSome then .seen response
    else .refused response
  | .start (.removeKey account publicKey) =>
    .ended (.removeKey account publicKey (.ok (store.hasKey account publicKey)))
  | .seen response =>
    match store.waiting? response.kind response.sessionId with
    | some session => response.proceed party session
    | none => .refused response
  | .working session work => work.next party store session
  | .refused response => .refused response
  | .ended event => .ended event

/-- What the next question of a call does to the store. -/
def effect (store : AccountStore) : Stage → AccountStore
  | .start (.removeKey account publicKey) => store.removeKey account publicKey
  | .seen response => store.closeSession response.sessionId
  | .working session work => work.effect store session
  | _ => store

/-- The session that a call took and still works for. -/
def held? : Stage → Option (String × Web.Session)
  | .working session work => some (work.response.sessionId, session)
  | _ => none

end Stage

/-- No call opens a session. -/
theorem Stage.session?_of_effect {stage : Stage} {id : String} {session : Web.Session}
    (hsession : (stage.effect store).session? id = some session) :
    store.session? id = some session := by
  cases stage with
  | start call =>
      cases call with
      | respond response => exact hsession
      | removeKey account publicKey =>
          rwa [Stage.effect, AccountStore.session?_removeKey] at hsession
  | seen response => exact AccountStore.session?_of_closeSession hsession
  | working session work =>
      cases work with
      | enrol response now key => exact hsession
      | read response publicKey => exact hsession
      | raise response key counter =>
          rwa [Stage.effect, Work.effect, AccountStore.raiseCounter_eq,
            AccountStore.session?_settle] at hsession
  | refused response => exact hsession
  | ended event => exact hsession

/-- A dialogue does over a store in memory what the stage of its call says, and warns in between. -/
inductive Follows (party : RelyingParty) : Talk Event → Stage → Prop
  | ended (event : Event) : Follows party (.done event) (.ended event)
  | refused (response : Response) :
      Follows party (.done (response.event (.error .unknownSession))) (.refused response)
  | warn {warning : Warning} {next : Unit → Talk Event} {stage : Stage} :
      Follows party (next ()) stage → Follows party (.ask (.warn warning) next) stage
  | ask {inquiry : Inquiry} {next : inquiry.Answer → Talk Event} {stage : Stage}
      (given : AccountStore → inquiry.Answer) :
      (∀ source store around, Memory.answer source inquiry (store, around) =
        some (given store, stage.effect store, around)) →
      (∀ store, Follows party (next (given store)) (stage.next party store)) →
        Follows party (.ask inquiry next) stage

/-- An answer was to a warning, or takes the call to its next stage. -/
theorem Follows.answer {inquiry : Inquiry} {next : inquiry.Answer → Talk Event} {stage : Stage}
    {source : ChallengeSource} {around left : Surroundings} {given : inquiry.Answer}
    {after : AccountStore} (hfollows : Follows party (.ask inquiry next) stage)
    (hanswer : Memory.answer source inquiry (store, around) = some (given, after, left)) :
    Follows party (next given) stage ∧ after = store ∨
      Follows party (next given) (stage.next party store) ∧ after = stage.effect store := by
  cases hfollows with
  | warn hnext =>
      cases hanswer
      exact Or.inl ⟨hnext, rfl⟩
  | ask answer hgiven hnext =>
      rw [hgiven] at hanswer
      cases hanswer
      exact Or.inr ⟨hnext store, rfl⟩

theorem Follows.of_done {event : Event} {stage : Stage}
    (hfollows : Follows party (.done event) stage) :
    stage = .ended event ∨
      ∃ response, stage = .refused response ∧ event = response.event (.error .unknownSession) := by
  generalize htalk : Dialogue.done event = talk at hfollows
  cases hfollows with
  | ended result =>
      cases htalk
      exact Or.inl rfl
  | refused response =>
      cases htalk
      exact Or.inr ⟨response, rfl, rfl⟩
  | warn => cases htalk
  | ask => cases htalk

/-! The calls, from their last questions to their first. -/

theorem follows_raise (session : Web.Session) (response : Web.SignResponse) (key : Web.Enrolment)
    (counter : UInt32) :
    Follows party ((raiseCounter session.account key.publicKey counter).report
      (Response.signature response).event) (.working session (.raise response key counter)) := by
  refine .ask (fun store => (store.raiseCounter session.account key.publicKey counter).1)
    (fun _ _ _ => rfl) fun store => ?_
  simp only [Stage.next, Work.next]
  generalize (store.raiseCounter session.account key.publicKey counter).1 = raised
  cases raised with
  | ok raised => exact .ended _
  | error failure =>
      cases failure with
      | counterRegression stored received => exact .warn (.ended _)
      | _ => exact .ended _

theorem follows_enrol (session : Web.Session) (response : Web.RegisterResponse) (now : UInt64)
    (key : Web.Enrolment) :
    Follows party ((do Talk.addKey session.account key; return key : Talk Web.Enrolment).report
      (Response.registration response now).event)
      (.working session (.enrol response now key)) :=
  .ask (fun _ => .ok ()) (fun _ _ _ => rfl) fun _ => .ended _

/-- What is left of a signature once its session is its own. -/
def answerSignature (party : RelyingParty) (session : Web.Session) (response : Web.SignResponse)
    (publicKey : Bytes) : Talk Web.Enrolment := do
  let keys ← Talk.keys session.account
  let key ← findKey publicKey response keys
  let authentication ← .ofExcept (party.readAuthentication session key response)
  raiseCounter session.account key.publicKey authentication.counter

theorem follows_read (session : Web.Session) (response : Web.SignResponse) (publicKey : Bytes) :
    Follows party ((party.answerSignature session response publicKey).report
      (Response.signature response).event) (.working session (.read response publicKey)) := by
  refine .ask (fun store => .ok (store.keys session.account)) (fun _ _ _ => rfl) fun store => ?_
  change Follows party (Talk.report (findKey publicKey response (store.keys session.account) >>=
    fun key => Dialogue.ofExcept (party.readAuthentication session key response) >>=
      fun authentication => raiseCounter session.account key.publicKey authentication.counter) _)
    (checked party session response publicKey (store.keys session.account))
  unfold findKey checked
  cases ((store.keys session.account).find? fun key => key.publicKey = publicKey).filter fun key =>
      key.keyHandle = response.keyHandle with
  | none => exact .warn (.ended _)
  | some key =>
      change Follows party (Talk.report (Dialogue.ofExcept
        (party.readAuthentication session key response) >>= fun authentication =>
          raiseCounter session.account key.publicKey authentication.counter) _) _
      simp only []
      cases party.readAuthentication session key response with
      | error failure => exact .ended _
      | ok authentication => exact follows_raise session response key authentication.counter

/-- A certificate is checked without a question but a warning. -/
theorem follows_checkTrust {certificate : Bytes} {rest : Talk Web.Enrolment}
    {event : Except Failure Web.Enrolment → Event} {stage : Stage}
    (hrest : party.trustVerdict certificate = .ok () → Follows party (rest.report event) stage)
    (hfailed : ∀ failure, party.trustVerdict certificate = .error failure →
      Follows party (.done (event (.error failure))) stage) :
    Follows party ((party.checkTrust certificate >>= fun _ => rest).report event) stage := by
  unfold checkTrust
  unfold trustVerdict at hrest hfailed
  by_cases htrusted : party.trusted.trusts party.suite certificate = true
  · simp only [htrusted, if_true]
    exact hrest (if_pos (Or.inl htrusted))
  · cases hpolicy : party.policy with
    | refuse =>
        simp only [htrusted, Bool.false_eq_true, if_false]
        exact hfailed _ (if_neg (by simp [htrusted, hpolicy]))
    | warn =>
        simp only [htrusted, Bool.false_eq_true, if_false]
        exact .warn (hrest (if_pos (Or.inr hpolicy)))

/-- What is left of a registration once its session is its own. -/
def answerRegistration (party : RelyingParty) (session : Web.Session)
    (response : Web.RegisterResponse) (now : UInt64) : Talk Web.Enrolment := do
  let registration ← .ofExcept (party.readRegistration session response)
  party.checkTrust registration.certificate
  Dialogue.ofExcept (party.checkAttestation session response registration)
  let key := enrolmentOf registration now
  Talk.addKey session.account key
  return key

theorem follows_proceed_registration (session : Web.Session) (response : Web.RegisterResponse)
    (now : UInt64) :
    Follows party ((party.answerRegistration session response now).report
      (Response.registration response now).event)
      ((Response.registration response now).proceed party session) := by
  unfold answerRegistration
  simp only [Response.proceed, registrationVerdict]
  cases party.readRegistration session response with
  | error failure => exact .ended _
  | ok registration =>
      refine follows_checkTrust (fun htrusted => ?_) (fun failure htrusted => ?_)
      · simp only [bind, Except.bind, htrusted]
        cases party.checkAttestation session response registration with
        | error failure => exact .ended _
        | ok attested => exact follows_enrol session response now (enrolmentOf registration now)
      · simp only [bind, Except.bind, htrusted]
        exact .ended _

/-- What is left of the taking of a session once it was seen. -/
def takeSeenEnrolment (id : String) : Talk Web.Session := do
  let session ← Talk.takeSession id
  Dialogue.ofOption .unknownSession (session.filter isEnrolment)

def takeSeenSignature (id : String) : Talk (Web.Session × Bytes) := do
  let taken ← Talk.takeSession id
  let session ← .ofOption .unknownSession taken
  let publicKey ← .ofOption .unknownSession session.publicKey?
  return (session, publicKey)

theorem follows_seen_registration (response : Web.RegisterResponse) (now : UInt64) :
    Follows party ((takeSeenEnrolment response.sessionId >>= fun session =>
        party.answerRegistration session response now).report
      (Response.registration response now).event) (.seen (.registration response now)) := by
  refine .ask (fun store => .ok (store.session? response.sessionId)) (fun _ _ _ => rfl)
    fun store => ?_
  change Follows party (Talk.report (Dialogue.ofOption .unknownSession
    ((store.session? response.sessionId).filter isEnrolment) >>= fun session =>
      party.answerRegistration session response now) _)
    (match store.waiting? .registration response.sessionId with
      | some session => (Response.registration response now).proceed party session
      | none => .refused (.registration response now))
  rw [filter_isEnrolment]
  cases store.waiting? .registration response.sessionId with
  | none => exact .refused (.registration response now)
  | some session => exact follows_proceed_registration session response now

theorem follows_seen_signature (response : Web.SignResponse) :
    Follows party ((takeSeenSignature response.sessionId >>= fun (session, publicKey) =>
        party.answerSignature session response publicKey).report
      (Response.signature response).event) (.seen (.signature response)) := by
  refine .ask (fun store => .ok (store.session? response.sessionId)) (fun _ _ _ => rfl)
    fun store => ?_
  change Follows party (Talk.report ((do
    let session ← Dialogue.ofOption .unknownSession (store.session? response.sessionId)
    let publicKey ← Dialogue.ofOption .unknownSession session.publicKey?
    return (session, publicKey)) >>= fun (session, publicKey) =>
      party.answerSignature session response publicKey) _)
    (match store.waiting? .authentication response.sessionId with
      | some session => (Response.signature response).proceed party session
      | none => .refused (.signature response))
  unfold AccountStore.waiting?
  cases store.session? response.sessionId with
  | none => exact .refused (.signature response)
  | some session =>
      obtain ⟨account, appId, challenge, purpose⟩ := session
      cases purpose with
      | enrol => exact .refused (.signature response)
      | sign publicKey => exact follows_read ⟨account, appId, challenge, _⟩ response publicKey

theorem follows_start (call : Call) : Follows party (call.talk party) (.start call) := by
  cases call with
  | removeKey account publicKey =>
      exact .ask (fun store => .ok (store.hasKey account publicKey)) (fun _ _ _ => rfl)
        fun _ => .ended _
  | respond response =>
      cases response with
      | registration response now =>
          refine .ask (fun store => .ok (store.session? response.sessionId)) (fun _ _ _ => rfl)
            fun store => ?_
          change Follows party (Talk.report ((do
            if ((store.session? response.sessionId).filter isEnrolment).isNone then
              Dialogue.fail .unknownSession
            takeSeenEnrolment response.sessionId) >>= fun session =>
              party.answerRegistration session response now) _)
            (if (store.waiting? .registration response.sessionId).isSome then _ else _)
          rw [filter_isEnrolment]
          cases store.waiting? .registration response.sessionId with
          | none => exact .refused (.registration response now)
          | some session => exact follows_seen_registration response now
      | signature response =>
          refine .ask (fun store => .ok (store.session? response.sessionId)) (fun _ _ _ => rfl)
            fun store => ?_
          change Follows party (Talk.report ((do
            if ((store.session? response.sessionId).bind Web.Session.publicKey?).isNone then
              Dialogue.fail .unknownSession
            takeSeenSignature response.sessionId) >>= fun (session, publicKey) =>
              party.answerSignature session response publicKey) _)
            (if (store.waiting? .authentication response.sessionId).isSome then _ else _)
          rw [← isSome_bind_publicKey?]
          cases (store.session? response.sessionId).bind Web.Session.publicKey? with
          | none => exact .refused (.signature response)
          | some session => exact follows_seen_signature response

/-! Calls under way at once. -/

variable {n : Nat} {stages : Fin n → Stage}

/-- An answer was to a warning of its caller, or takes that to its next stage. The others stay at
their stages. -/
theorem Traffic.Step.follows {before after : Traffic n} {access : Access n}
    (hstep : Traffic.Step before access after)
    (hfollows : ∀ caller, Follows party (before.talks caller) (stages caller)) :
    (∀ caller, Follows party (after.talks caller) (stages caller)) ∧ after.state = before.state ∨
      (∀ caller, Follows party (after.talks caller) (Function.update stages access.caller
        ((stages access.caller).next party before.state) caller)) ∧
        after.state = (stages access.caller).effect before.state := by
  cases hstep with
  | @answer caller inquiry next source around left given store hasks hanswer =>
      have hcaller := hfollows caller
      rw [hasks] at hcaller
      rcases hcaller.answer hanswer with ⟨hnext, hafter⟩ | ⟨hnext, hafter⟩
      · refine Or.inl ⟨?_, hafter⟩
        exact (Function.forall_update_iff before.talks fun other talk =>
          Follows party talk (stages other)).2 ⟨hnext, fun other _ => hfollows other⟩
      · refine Or.inr ⟨?_, hafter⟩
        refine (Function.forall_update_iff before.talks fun other talk =>
          Follows party talk (Function.update stages caller _ other)).2 ⟨?_, fun other hother => ?_⟩
        · rw [Function.update_self]
          exact hnext
        · rw [Function.update_of_ne hother]
          exact hfollows other

theorem Traffic.Step.exists_follows {before after : Traffic n} {access : Access n}
    (hstep : Traffic.Step before access after)
    (hfollows : ∀ caller, Follows party (before.talks caller) (stages caller)) :
    ∃ stages : Fin n → Stage, ∀ caller, Follows party (after.talks caller) (stages caller) := by
  rcases hstep.follows hfollows with ⟨hafter, _⟩ | ⟨hafter, _⟩
  · exact ⟨_, hafter⟩
  · exact ⟨_, hafter⟩

end SecondFactor.RelyingParty
