import SecondFactor.Proofs.Dialogue
import SecondFactor.RelyingParty.Memory
import SecondFactor.RelyingParty.Service

/-!
What becomes of a response, as a function of the store it meets: first the session that waits for
it, then the verdict on what it holds. Over a store in memory the operations of a relying party end
just so, `outcome_acceptRegistration` and `outcome_acceptSignature`: each check of an operation
leaves the store as it is, and is the next one in the verdict, `Talk.Decides.bind`.
-/

namespace SecondFactor

/-- Which of the two responses a session waits for. -/
def Web.Session.awaits (session : Web.Session) : Web.ClientDataKind :=
  match session.purpose with
  | .enrol => .registration
  | .sign _ => .authentication

theorem Web.Session.awaits_authentication_iff {session : Web.Session} :
    session.awaits = .authentication ↔ ∃ publicKey, session.publicKey? = some publicKey := by
  cases hpurpose : session.purpose <;> simp [Web.Session.awaits, Web.Session.publicKey?, hpurpose]

namespace AccountStore

/-- The session that waits for a response of a kind. -/
def waiting? (store : AccountStore) (kind : Web.ClientDataKind) (id : String) :
    Option Web.Session :=
  (store.session? id).filter fun session => session.awaits = kind

theorem waiting?_eq_some_iff {store : AccountStore} {kind : Web.ClientDataKind} {id : String}
    {session : Web.Session} :
    store.waiting? kind id = some session ↔
      store.session? id = some session ∧ session.awaits = kind := by
  simp [waiting?, Option.filter_eq_some_iff]

theorem waiting?_eq_none_iff {store : AccountStore} {kind : Web.ClientDataKind} {id : String} :
    store.waiting? kind id = none ↔
      ∀ session, store.session? id = some session → session.awaits ≠ kind := by
  simp [waiting?, Option.filter_eq_none_iff]

@[simp] theorem keys_closeSession (store : AccountStore) (id account : String) :
    (store.closeSession id).keys account = store.keys account := rfl

@[simp] theorem sessions_removeKey (store : AccountStore) (account : String)
    (publicKey : Bytes) : (store.removeKey account publicKey).sessions = store.sessions := by
  unfold removeKey
  split <;> rfl

/-- The record a signature for a public key is checked against. -/
def firstKey? (store : AccountStore) (account : String) (publicKey : Bytes) :
    Option Web.Enrolment :=
  (store.keys account).find? fun key => key.publicKey = publicKey

end AccountStore

namespace RelyingParty

/-! The verdicts. -/

def trustVerdict (party : RelyingParty) (certificate : Bytes) : Except Failure Unit :=
  if party.trusted.trusts party.suite certificate ∨ party.policy = .warn then .ok ()
  else .error .untrustedAttestation

/-- The record of a key whose registration answers the session. -/
def registrationVerdict (party : RelyingParty) (session : Web.Session)
    (response : Web.RegisterResponse) (now : UInt64) : Except Failure Web.Enrolment := do
  let registration ← party.readRegistration session response
  party.trustVerdict registration.certificate
  party.checkAttestation session response registration
  return enrolmentOf registration now

/-- The record with the counter of a signature that answers the session, and the list of the
account's keys with that record in it. -/
def signatureVerdict (party : RelyingParty) (session : Web.Session)
    (response : Web.SignResponse) (keys : List Web.Enrolment) :
    Except Failure (Web.Enrolment × List Web.Enrolment) :=
  match session.publicKey? with
  | none => .error .unknownSession
  | some publicKey =>
    match (keys.find? fun key => key.publicKey = publicKey).filter fun key =>
        key.keyHandle = response.keyHandle with
    | none => .error .unknownKeyHandle
    | some key => do
      let authentication ← party.readAuthentication session key response
      AccountStore.raiseFirst key.publicKey authentication.counter keys

/-- The result of a registration, and the store it leaves. -/
def registrationOutcome (party : RelyingParty) (store : AccountStore)
    (response : Web.RegisterResponse) (now : UInt64) :
    Except Failure Web.Enrolment × AccountStore :=
  match store.waiting? .registration response.sessionId with
  | none => (.error .unknownSession, store)
  | some session =>
    let closed := store.closeSession response.sessionId
    match party.registrationVerdict session response now with
    | .ok key => (.ok key, closed.addKey session.account key)
    | .error failure => (.error failure, closed)

/-- The result of a signature, and the store it leaves. -/
def signatureOutcome (party : RelyingParty) (store : AccountStore)
    (response : Web.SignResponse) : Except Failure Web.Enrolment × AccountStore :=
  match store.waiting? .authentication response.sessionId with
  | none => (.error .unknownSession, store)
  | some session =>
    let closed := store.closeSession response.sessionId
    match party.signatureVerdict session response (store.keys session.account) with
    | .ok (raised, keys) => (.ok raised, closed.setKeys session.account keys)
    | .error failure => (.error failure, closed)

/-- What comes of an operation over a store in memory, whatever it leaves around it. -/
def Talk.outcome {α : Type} (talk : Talk α) (source : ChallengeSource) (around : Surroundings)
    (store : AccountStore) : Option (Except Failure α × AccountStore) :=
  (talk.run (Memory.answer source) (store, around)).map fun (result, after, _) => (result, after)

/-! The operations, one part after the other. -/

variable {source : ChallengeSource} {around : Surroundings} {store : AccountStore}

theorem filter_isEnrolment (store : AccountStore) (id : String) :
    (store.session? id).filter isEnrolment = store.waiting? .registration id := by
  unfold AccountStore.waiting?
  congr 1
  funext session
  cases hpurpose : session.purpose <;> simp [isEnrolment, Web.Session.awaits, hpurpose]

theorem isSome_bind_publicKey? (store : AccountStore) (id : String) :
    ((store.session? id).bind Web.Session.publicKey?).isSome =
      (store.waiting? .authentication id).isSome := by
  unfold AccountStore.waiting?
  cases store.session? id with
  | none => rfl
  | some session =>
      cases hpurpose : session.purpose <;>
        simp [Web.Session.publicKey?, Web.Session.awaits, hpurpose, Option.filter]

theorem run_takeEnrolment_of_waiting {id : String} {session : Web.Session}
    (hwaiting : store.waiting? .registration id = some session) :
    (takeEnrolment id).run (Memory.answer source) (store, around) =
      some (.ok session, store.closeSession id, around) := by
  obtain ⟨hsession, hkind⟩ := AccountStore.waiting?_eq_some_iff.1 hwaiting
  have henrol : isEnrolment session = true := by
    cases hpurpose : session.purpose <;> simp_all [isEnrolment, Web.Session.awaits]
  have hlook : (Talk.session? id).run (Memory.answer source) (store, around) =
      some (.ok (some session), store, around) := by
    rw [← hsession]
    rfl
  have htake : (Talk.takeSession id).run (Memory.answer source) (store, around) =
      some (.ok (some session), store.closeSession id, around) := by
    rw [← hsession]
    rfl
  unfold takeEnrolment
  rw [Dialogue.run_bind_of_ok hlook]
  simp only [Option.filter_some, henrol, if_true, Option.isNone_some, Bool.false_eq_true, if_false]
  rw [Dialogue.run_bind_of_ok htake]
  simp only [Option.filter_some, henrol, if_true]
  rfl

theorem run_takeEnrolment_of_none {id : String}
    (hwaiting : store.waiting? .registration id = none) :
    (takeEnrolment id).run (Memory.answer source) (store, around) =
      some (.error .unknownSession, store, around) := by
  have hlook : (Talk.session? id).run (Memory.answer source) (store, around) =
      some (.ok (store.session? id), store, around) := rfl
  unfold takeEnrolment
  rw [Dialogue.run_bind_of_ok hlook]
  simp only [filter_isEnrolment, hwaiting, Option.isNone_none, if_true]
  rfl

variable (source around) in
theorem run_takeSignature_of_waiting {id : String} {session : Web.Session}
    (hwaiting : store.waiting? .authentication id = some session) :
    ∃ publicKey, session.publicKey? = some publicKey ∧
      (takeSignature id).run (Memory.answer source) (store, around) =
        some (.ok (session, publicKey), store.closeSession id, around) := by
  obtain ⟨hsession, hkind⟩ := AccountStore.waiting?_eq_some_iff.1 hwaiting
  obtain ⟨publicKey, hkey⟩ := Web.Session.awaits_authentication_iff.1 hkind
  have hlook : (Talk.session? id).run (Memory.answer source) (store, around) =
      some (.ok (some session), store, around) := by
    rw [← hsession]
    rfl
  have htake : (Talk.takeSession id).run (Memory.answer source) (store, around) =
      some (.ok (some session), store.closeSession id, around) := by
    rw [← hsession]
    rfl
  refine ⟨publicKey, hkey, ?_⟩
  unfold takeSignature
  rw [Dialogue.run_bind_of_ok hlook]
  simp only [Option.bind_some, hkey, Option.isNone_some, Bool.false_eq_true, if_false]
  rw [Dialogue.run_bind_of_ok htake]
  change Dialogue.run (Memory.answer source) ((Dialogue.ofOption .unknownSession
    session.publicKey? : Talk Bytes) >>= fun publicKey => pure (session, publicKey)) _ = _
  rw [hkey]
  rfl

theorem run_takeSignature_of_none {id : String}
    (hwaiting : store.waiting? .authentication id = none) :
    (takeSignature id).run (Memory.answer source) (store, around) =
      some (.error .unknownSession, store, around) := by
  have hlook : (Talk.session? id).run (Memory.answer source) (store, around) =
      some (.ok (store.session? id), store, around) := rfl
  have hbind : (store.session? id).bind Web.Session.publicKey? = none := by
    rw [← Option.isNone_iff_eq_none, ← Option.not_isSome, isSome_bind_publicKey?, hwaiting]
    rfl
  unfold takeSignature
  rw [Dialogue.run_bind_of_ok hlook]
  simp only [hbind, Option.isNone_none, if_true]
  rfl

variable (source around store) in
theorem run_checkTrust (party : RelyingParty) (certificate : Bytes) :
    ∃ left, (party.checkTrust certificate).run (Memory.answer source) (store, around) =
      some (party.trustVerdict certificate, store, left) := by
  unfold checkTrust trustVerdict
  by_cases htrusted : party.trusted.trusts party.suite certificate = true
  · simp only [htrusted, if_true, true_or]
    exact ⟨around, rfl⟩
  · cases hpolicy : party.policy
    · simp only [htrusted, Bool.false_eq_true, if_false, reduceCtorEq, or_self]
      exact ⟨around, rfl⟩
    · simp only [htrusted, Bool.false_eq_true, if_false, or_true, if_true]
      exact ⟨_, rfl⟩

variable (source around store) in
theorem run_findKey (publicKey : Bytes) (response : Web.SignResponse)
    (keys : List Web.Enrolment) :
    ∃ left, (findKey publicKey response keys).run (Memory.answer source) (store, around) =
      some (((keys.find? fun key => key.publicKey = publicKey).filter fun key =>
        key.keyHandle = response.keyHandle).elim (.error .unknownKeyHandle) .ok, store, left) := by
  unfold findKey
  split
  · rename_i key hkey
    rw [hkey]
    exact ⟨around, rfl⟩
  · rename_i hnone
    rw [hnone]
    exact ⟨_, rfl⟩

variable (source around store) in
theorem run_raiseCounter (account : String) (publicKey : Bytes) (counter : UInt32) :
    ∃ left, (raiseCounter account publicKey counter).run (Memory.answer source)
        (store, around) =
      some ((store.raiseCounter account publicKey counter).1,
        (store.raiseCounter account publicKey counter).2, left) := by
  have hraise : (Talk.raiseCounter account publicKey counter).run (Memory.answer source)
      (store, around) = some (.ok (store.raiseCounter account publicKey counter).1,
        (store.raiseCounter account publicKey counter).2, around) := rfl
  unfold raiseCounter
  rw [Dialogue.run_bind_of_ok hraise]
  split <;> rename_i hresult <;> rw [hresult] <;> exact ⟨_, rfl⟩

/-! The operations that take a response. -/

theorem outcome_eq_of_run {α : Type} {talk : Talk α} {outcome : Except Failure α × AccountStore}
    (hrun : ∃ left, talk.run (Memory.answer source) (store, around) =
      some (outcome.1, outcome.2, left)) :
    talk.outcome source around store = some outcome := by
  obtain ⟨left, hrun⟩ := hrun
  rw [Talk.outcome, hrun]
  rfl

theorem exists_run_of_outcome_eq {α : Type} {talk : Talk α}
    {outcome : Except Failure α × AccountStore}
    (houtcome : talk.outcome source around store = some outcome) :
    ∃ left, talk.run (Memory.answer source) (store, around) =
      some (outcome.1, outcome.2, left) := by
  obtain ⟨⟨_, _, left⟩, hrun, rfl⟩ := Option.map_eq_some_iff.1 houtcome
  exact ⟨left, hrun⟩

theorem registrationOutcome_of_none {party : RelyingParty} {response : Web.RegisterResponse}
    {now : UInt64} (hwaiting : store.waiting? .registration response.sessionId = none) :
    party.registrationOutcome store response now = (.error .unknownSession, store) := by
  simp [registrationOutcome, hwaiting]

theorem registrationOutcome_of_ok {party : RelyingParty} {response : Web.RegisterResponse}
    {now : UInt64} {session : Web.Session} {key : Web.Enrolment}
    (hwaiting : store.waiting? .registration response.sessionId = some session)
    (hverdict : party.registrationVerdict session response now = .ok key) :
    party.registrationOutcome store response now =
      (.ok key, (store.closeSession response.sessionId).addKey session.account key) := by
  simp [registrationOutcome, hwaiting, hverdict]

theorem registrationOutcome_of_error {party : RelyingParty} {response : Web.RegisterResponse}
    {now : UInt64} {session : Web.Session} {failure : Failure}
    (hwaiting : store.waiting? .registration response.sessionId = some session)
    (hverdict : party.registrationVerdict session response now = .error failure) :
    party.registrationOutcome store response now =
      (.error failure, store.closeSession response.sessionId) := by
  simp [registrationOutcome, hwaiting, hverdict]

/-- What comes of a verdict on a store: what is done for a success, and else nothing but the
failure. -/
def verdictOutcome {α β : Type} (store : AccountStore)
    (done : α → Except Failure β × AccountStore) :
    Except Failure α → Except Failure β × AccountStore
  | .ok value => done value
  | .error failure => (.error failure, store)

/-- Over a store in memory the operation comes to a verdict, whatever it finds around it, and does
then what is done. -/
def Talk.Decides {α β : Type} (source : ChallengeSource) (talk : Talk β) (store : AccountStore)
    (verdict : Except Failure α) (done : α → Except Failure β × AccountStore) : Prop :=
  ∀ around, ∃ left, talk.run (Memory.answer source) (store, around) =
    some ((verdictOutcome store done verdict).1, (verdictOutcome store done verdict).2, left)

/-- A check that leaves the store as it is comes first in the verdict, as it does in the
operation. -/
theorem Talk.Decides.bind {α β γ : Type} {first : Talk α} {decision : Except Failure α}
    {next : α → Talk β} {verdict : α → Except Failure γ}
    {done : γ → Except Failure β × AccountStore}
    (hfirst : ∀ around, ∃ left, first.run (Memory.answer source) (store, around) =
      some (decision, store, left))
    (hnext : ∀ value, (next value).Decides source store (verdict value) done) :
    Talk.Decides source (first >>= next) store (decision >>= verdict) done := by
  intro around
  obtain ⟨between, hchecked⟩ := hfirst around
  cases decision with
  | error failure => exact ⟨between, Dialogue.run_bind_of_error hchecked _⟩
  | ok value =>
      obtain ⟨left, hleft⟩ := hnext value between
      exact ⟨left, (Dialogue.run_bind_of_ok hchecked _).trans hleft⟩

theorem outcome_acceptRegistration (party : RelyingParty) (response : Web.RegisterResponse)
    (now : UInt64) (source : ChallengeSource) (around : Surroundings) (store : AccountStore) :
    (party.acceptRegistration response now).outcome source around store =
      some (party.registrationOutcome store response now) := by
  apply outcome_eq_of_run
  unfold acceptRegistration
  cases hwaiting : store.waiting? .registration response.sessionId with
  | none =>
      rw [Dialogue.run_bind_of_error (run_takeEnrolment_of_none hwaiting),
        registrationOutcome_of_none hwaiting]
      exact ⟨around, rfl⟩
  | some session =>
      rw [Dialogue.run_bind_of_ok (run_takeEnrolment_of_waiting hwaiting)]
      have houtcome : party.registrationOutcome store response now =
          verdictOutcome (store.closeSession response.sessionId)
            (fun key => (.ok key,
              (store.closeSession response.sessionId).addKey session.account key))
            (party.registrationVerdict session response now) := by
        simp only [registrationOutcome, hwaiting]
        cases party.registrationVerdict session response now <;> rfl
      rw [houtcome]
      refine Talk.Decides.bind (fun around => ⟨around, Dialogue.run_ofExcept _ _⟩)
        (fun registration => ?_) around
      refine Talk.Decides.bind (fun around => party.run_checkTrust source around _ _) fun _ => ?_
      refine Talk.Decides.bind (fun around => ⟨around, Dialogue.run_ofExcept _ _⟩) fun _ => ?_
      exact fun around => ⟨around, rfl⟩

theorem signatureOutcome_of_none {party : RelyingParty} {response : Web.SignResponse}
    (hwaiting : store.waiting? .authentication response.sessionId = none) :
    party.signatureOutcome store response = (.error .unknownSession, store) := by
  simp [signatureOutcome, hwaiting]

theorem signatureOutcome_of_ok {party : RelyingParty} {response : Web.SignResponse}
    {session : Web.Session} {raised : Web.Enrolment} {keys : List Web.Enrolment}
    (hwaiting : store.waiting? .authentication response.sessionId = some session)
    (hverdict : party.signatureVerdict session response (store.keys session.account) =
      .ok (raised, keys)) :
    party.signatureOutcome store response =
      (.ok raised, (store.closeSession response.sessionId).setKeys session.account keys) := by
  simp [signatureOutcome, hwaiting, hverdict]

theorem signatureOutcome_of_error {party : RelyingParty} {response : Web.SignResponse}
    {session : Web.Session} {failure : Failure}
    (hwaiting : store.waiting? .authentication response.sessionId = some session)
    (hverdict : party.signatureVerdict session response (store.keys session.account) =
      .error failure) :
    party.signatureOutcome store response =
      (.error failure, store.closeSession response.sessionId) := by
  simp [signatureOutcome, hwaiting, hverdict]

/-- The verdict on a signature, check by check. -/
theorem signatureVerdict_of_publicKey (party : RelyingParty) {session : Web.Session}
    {publicKey : Bytes} (hkey : session.publicKey? = some publicKey) (response : Web.SignResponse)
    (keys : List Web.Enrolment) :
    party.signatureVerdict session response keys =
      (((keys.find? fun key => key.publicKey = publicKey).filter fun key =>
        key.keyHandle = response.keyHandle).elim (.error .unknownKeyHandle) .ok >>= fun key =>
          party.readAuthentication session key response >>= fun authentication =>
            AccountStore.raiseFirst key.publicKey authentication.counter keys) := by
  simp only [signatureVerdict, hkey]
  cases (keys.find? fun key => key.publicKey = publicKey).filter fun key =>
    key.keyHandle = response.keyHandle <;> rfl

theorem decides_raiseCounter (source : ChallengeSource) (store : AccountStore) (account : String)
    (publicKey : Bytes) (counter : UInt32) :
    (raiseCounter account publicKey counter).Decides source store
      (AccountStore.raiseFirst publicKey counter (store.keys account))
      fun (raised, keys) => (.ok raised, store.setKeys account keys) := by
  intro around
  obtain ⟨left, hraise⟩ := run_raiseCounter source around store account publicKey counter
  refine ⟨left, hraise.trans ?_⟩
  rw [AccountStore.raiseCounter]
  cases AccountStore.raiseFirst publicKey counter (store.keys account) <;> rfl

theorem outcome_acceptSignature (party : RelyingParty) (response : Web.SignResponse)
    (source : ChallengeSource) (around : Surroundings) (store : AccountStore) :
    (party.acceptSignature response).outcome source around store =
      some (party.signatureOutcome store response) := by
  apply outcome_eq_of_run
  unfold acceptSignature
  cases hwaiting : store.waiting? .authentication response.sessionId with
  | none =>
      rw [Dialogue.run_bind_of_error (run_takeSignature_of_none hwaiting),
        signatureOutcome_of_none hwaiting]
      exact ⟨around, rfl⟩
  | some session =>
      obtain ⟨publicKey, hkey, htake⟩ := run_takeSignature_of_waiting source around hwaiting
      rw [Dialogue.run_bind_of_ok htake]
      have hkeys : (Talk.keys session.account).run (Memory.answer source)
          (store.closeSession response.sessionId, around) =
          some (.ok (store.keys session.account),
            store.closeSession response.sessionId, around) := rfl
      simp only []
      rw [Dialogue.run_bind_of_ok hkeys]
      have houtcome : party.signatureOutcome store response =
          verdictOutcome (store.closeSession response.sessionId)
            (fun (raised, keys) => (.ok raised,
              (store.closeSession response.sessionId).setKeys session.account keys))
            (party.signatureVerdict session response (store.keys session.account)) := by
        simp only [signatureOutcome, hwaiting]
        cases party.signatureVerdict session response (store.keys session.account) <;> rfl
      rw [houtcome, party.signatureVerdict_of_publicKey hkey]
      refine Talk.Decides.bind (fun around => run_findKey source around _ _ _ _) (fun key => ?_)
        around
      refine Talk.Decides.bind (fun around => ⟨around, Dialogue.run_ofExcept _ _⟩)
        fun authentication => ?_
      exact decides_raiseCounter source _ session.account key.publicKey authentication.counter

end RelyingParty

end SecondFactor
