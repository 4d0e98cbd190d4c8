import Mathlib.Data.List.Induction
import Mathlib.Data.List.Nodup
import SecondFactor.Proofs.RelyingParty.Counters
import SecondFactor.Proofs.RelyingParty.TrustAnchors

/-!
The keys of an account as a log. What is accepted for an account makes an entry: a key enrolled, a
key revoked, or a counter that was signed. The records of the account are what those entries give
one after the other, `keys_replayed`, and nothing else changes them.
-/

namespace SecondFactor.RelyingParty

/-- What is accepted for an account. -/
inductive KeyEntry where
  | enrolled (registration : Raw.RegistrationResponse) (now : UInt64)
  | revoked (publicKey : Bytes)
  | signed (publicKey : Bytes) (counter : UInt32)
deriving DecidableEq

/-- The entry of a call, and the account it is for. A response is for the account of the session it
answers. -/
def Moment.entry? (moment : Moment) : Option (String × KeyEntry) :=
  match moment.event with
  | .acceptRegistration response now (.ok _) => do
    let session ← moment.before.session? response.sessionId
    let registration ← (Raw.RegistrationResponse.decode response.registrationData).toOption
    return (session.account, .enrolled registration now)
  | .acceptSignature response (.ok _) => do
    let session ← moment.before.session? response.sessionId
    let publicKey ← session.publicKey?
    let authentication ← (Raw.AuthenticationResponse.decode response.signatureData).toOption
    return (session.account, .signed publicKey authentication.counter)
  | .removeKey account publicKey (.ok _) => some (account, .revoked publicKey)
  | _ => none

def Moment.entryFor? (account : String) (moment : Moment) : Option KeyEntry :=
  match moment.entry? with
  | some (holder, entry) => if holder = account then some entry else none
  | none => none

/-- The entries of an account, the earliest first. -/
def keyLog (account : String) (history : List Moment) : List KeyEntry :=
  history.filterMap (Moment.entryFor? account)

/-- The first record of a key with a new counter. -/
def setFirst (publicKey : Bytes) (counter : UInt32) : List Web.Enrolment → List Web.Enrolment
  | [] => []
  | key :: rest =>
    if key.publicKey = publicKey then { key with counter } :: rest
    else key :: setFirst publicKey counter rest

/-- What an entry makes of the records. -/
def KeyEntry.apply (keys : List Web.Enrolment) : KeyEntry → List Web.Enrolment
  | .enrolled registration now =>
    keys ++ [{
      keyHandle := registration.keyHandle
      publicKey := registration.publicKey.bytes
      certificate := registration.certificate
      counter := 0
      enrolledAt := now }]
  | .revoked publicKey => keys.filter fun key => key.publicKey ≠ publicKey
  | .signed publicKey counter => setFirst publicKey counter keys

/-- The records after some entries. -/
def replay (keys : List Web.Enrolment) (entries : List KeyEntry) : List Web.Enrolment :=
  entries.foldl KeyEntry.apply keys

theorem keyLog_append (account : String) (earlier later : List Moment) :
    keyLog account (earlier ++ later) = keyLog account earlier ++ keyLog account later :=
  List.filterMap_append

theorem replay_append (keys : List Web.Enrolment) (earlier later : List KeyEntry) :
    replay keys (earlier ++ later) = replay (replay keys earlier) later :=
  List.foldl_append

theorem Moment.entryFor?_eq_some_iff {moment : Moment} {account : String} {entry : KeyEntry} :
    moment.entryFor? account = some entry ↔ moment.entry? = some (account, entry) := by
  unfold Moment.entryFor?
  split
  · rename_i holder given hentry
    rw [hentry, Option.some.injEq, Prod.mk.injEq]
    split
    · rename_i hholder
      simp [hholder]
    · rename_i hholder
      simp [hholder]
  · rename_i hentry
    simp [hentry]

theorem setFirst_of_raiseFirst {publicKey : Bytes} {counter : UInt32}
    {keys changed : List Web.Enrolment} {raised : Web.Enrolment}
    (hraise : AccountStore.raiseFirst publicKey counter keys = .ok (raised, changed)) :
    setFirst publicKey counter keys = changed := by
  induction keys generalizing changed with
  | nil => cases hraise
  | cons key rest ih =>
      rw [AccountStore.raiseFirst] at hraise
      by_cases hkey : key.publicKey = publicKey
      · rw [if_pos hkey] at hraise
        split at hraise
        · cases hraise
          simp [setFirst, hkey]
        · cases hraise
      · rw [if_neg hkey] at hraise
        split at hraise
        · rename_i hrest
          cases hraise
          rw [setFirst, if_neg hkey, ih hrest]
        · cases hraise

/-! What a log leaves of a record, and of a key. -/

/-- A record as it was when its key was enrolled. -/
def asEnrolled (key : Web.Enrolment) : Web.Enrolment := { key with counter := 0 }

def KeyEntry.isSigned : KeyEntry → Bool
  | .signed _ _ => true
  | _ => false

/-- The entry enrols a key. -/
def KeyEntry.enrols (publicKey : Bytes) : KeyEntry → Bool
  | .enrolled registration _ => registration.publicKey.bytes = publicKey
  | _ => false

theorem map_asEnrolled_setFirst (publicKey : Bytes) (counter : UInt32)
    (keys : List Web.Enrolment) :
    (setFirst publicKey counter keys).map asEnrolled = keys.map asEnrolled := by
  induction keys with
  | nil => rfl
  | cons key rest ih =>
      rw [setFirst]
      split
      · rfl
      · rw [List.map_cons, ih, List.map_cons]

/-- Signatures leave the records as they were enrolled, each in its place. -/
theorem map_asEnrolled_replay (keys : List Web.Enrolment) (entries : List KeyEntry) :
    (replay keys entries).map asEnrolled =
      replay (keys.map asEnrolled) (entries.filter fun entry => !entry.isSigned) := by
  induction entries generalizing keys with
  | nil => rfl
  | cons entry rest ih =>
      change (replay (entry.apply keys) rest).map asEnrolled = _
      rw [ih]
      cases entry with
      | enrolled registration now =>
          have happly : (KeyEntry.apply keys (.enrolled registration now)).map asEnrolled =
              KeyEntry.apply (keys.map asEnrolled) (.enrolled registration now) :=
            List.map_append
          rw [happly]
          rfl
      | revoked publicKey =>
          have happly : (KeyEntry.apply keys (.revoked publicKey)).map asEnrolled =
              KeyEntry.apply (keys.map asEnrolled) (.revoked publicKey) :=
            (List.filter_map (p := fun key : Web.Enrolment => key.publicKey ≠ publicKey)).symm
          rw [happly]
          rfl
      | signed publicKey counter =>
          have happly : (KeyEntry.apply keys (.signed publicKey counter)).map asEnrolled =
              keys.map asEnrolled :=
            map_asEnrolled_setFirst publicKey counter keys
          rw [happly]
          rfl

theorem map_publicKey_setFirst (publicKey : Bytes) (counter : UInt32)
    (keys : List Web.Enrolment) :
    (setFirst publicKey counter keys).map Web.Enrolment.publicKey =
      keys.map Web.Enrolment.publicKey := by
  have hkeys := congrArg (List.map Web.Enrolment.publicKey)
    (map_asEnrolled_setFirst publicKey counter keys)
  rw [List.map_map, List.map_map] at hkeys
  exact hkeys

/-- A key has the records it had, or was enrolled. -/
theorem mem_publicKeys_replay {keys : List Web.Enrolment} {entries : List KeyEntry}
    {publicKey : Bytes} (hmem : publicKey ∈ (replay keys entries).map Web.Enrolment.publicKey) :
    publicKey ∈ keys.map Web.Enrolment.publicKey ∨
      ∃ entry ∈ entries, entry.enrols publicKey = true := by
  induction entries generalizing keys with
  | nil => exact Or.inl hmem
  | cons entry rest ih =>
      have hrest : publicKey ∈ (replay (entry.apply keys) rest).map Web.Enrolment.publicKey := hmem
      rcases ih hrest with hkept | ⟨later, hlater, henrols⟩
      · cases entry with
        | enrolled registration now =>
            rw [KeyEntry.apply, List.map_append, List.mem_append] at hkept
            rcases hkept with hold | hnew
            · exact Or.inl hold
            · refine Or.inr ⟨_, List.mem_cons_self, ?_⟩
              simpa [KeyEntry.enrols, eq_comm] using hnew
        | revoked revokedKey =>
            obtain ⟨key, hkey, rfl⟩ := List.mem_map.1 hkept
            exact Or.inl (List.mem_map.2 ⟨key, List.mem_of_mem_filter hkey, rfl⟩)
        | signed signedKey counter =>
            rw [KeyEntry.apply, map_publicKey_setFirst] at hkept
            exact Or.inl hkept
      · exact Or.inr ⟨later, List.mem_cons_of_mem _ hlater, henrols⟩

/-- The entries after the last that revokes a key, the latest first. -/
def sinceRevoked (publicKey : Bytes) (entries : List KeyEntry) : List KeyEntry :=
  entries.reverse.takeWhile fun entry => entry ≠ .revoked publicKey

/-- A key has as many records as it was enrolled times since it was last revoked. -/
theorem count_publicKeys_replay (publicKey : Bytes) (entries : List KeyEntry) :
    ((replay [] entries).map Web.Enrolment.publicKey).count publicKey =
      (sinceRevoked publicKey entries).countP (KeyEntry.enrols publicKey) := by
  induction entries using List.reverseRecOn with
  | nil => rfl
  | append_singleton entries entry ih =>
      have hreplay : replay [] (entries ++ [entry]) = entry.apply (replay [] entries) :=
        replay_append [] entries [entry]
      rw [hreplay, sinceRevoked, List.reverse_append, List.reverse_singleton,
        List.singleton_append, List.takeWhile_cons]
      cases entry with
      | enrolled registration now =>
          simp only [ne_eq, reduceCtorEq, not_false_eq_true, decide_true, if_true,
            List.countP_cons, KeyEntry.apply, List.map_append, List.count_append, ih]
          simp [KeyEntry.enrols, List.count_cons, sinceRevoked]
      | revoked revokedKey =>
          by_cases hkey : revokedKey = publicKey
          · subst hkey
            simp [KeyEntry.apply, List.count_eq_zero]
          · have hother : ((replay [] entries).filter fun key => key.publicKey ≠ revokedKey).map
                Web.Enrolment.publicKey =
                  ((replay [] entries).map Web.Enrolment.publicKey).filter (· ≠ revokedKey) := by
              rw [List.filter_map]
              rfl
            have hne : (KeyEntry.revoked revokedKey ≠ .revoked publicKey) := by
              simpa using hkey
            rw [KeyEntry.apply, hother, List.count_filter (by simpa using Ne.symm hkey), ih]
            simp [hne, KeyEntry.enrols, sinceRevoked]
      | signed signedKey counter =>
          rw [KeyEntry.apply, map_publicKey_setFirst, ih]
          simp [KeyEntry.enrols, sinceRevoked]

/-! Entries and calls. -/

variable {party : RelyingParty} {before after : AccountStore} {moment : Moment}

/-- What an enrolment says of its call. -/
structure Enrolled (moment : Moment) (response : Web.RegisterResponse) (now : UInt64)
    (record : Web.Enrolment) (session : Web.Session) (registration : Raw.RegistrationResponse) :
    Prop where
  answered : moment.before.session? response.sessionId = some session
  decoded : Raw.RegistrationResponse.decode response.registrationData = .ok registration
  record_eq : record = enrolmentOf registration now
  entry : moment.entry? = some (session.account, .enrolled registration now)

/-- What a taken signature says of its call. -/
structure Counted (moment : Moment) (response : Web.SignResponse) (record : Web.Enrolment)
    (session : Web.Session) (key : Web.Enrolment)
    (authentication : Raw.AuthenticationResponse) : Prop where
  answered : moment.before.session? response.sessionId = some session
  publicKey : session.publicKey? = some record.publicKey
  decoded : Raw.AuthenticationResponse.decode response.signatureData = .ok authentication
  found : moment.before.firstKey? session.account record.publicKey = some key
  record_eq : record = { key with counter := authentication.counter }
  entry : moment.entry? =
    some (session.account, .signed record.publicKey authentication.counter)

theorem entry?_of_enrolled {response : Web.RegisterResponse} {now : UInt64}
    {record : Web.Enrolment} {session : Web.Session} {registration : Raw.RegistrationResponse}
    (hevent : moment.event = .acceptRegistration response now (.ok record))
    (hsession : moment.before.session? response.sessionId = some session)
    (hdecoded : Raw.RegistrationResponse.decode response.registrationData = .ok registration) :
    moment.entry? = some (session.account, .enrolled registration now) := by
  rw [Moment.entry?, hevent]
  simp only [hsession, hdecoded, Option.bind_eq_bind, Option.bind_some]
  rfl

theorem entry?_of_signed {response : Web.SignResponse} {record : Web.Enrolment}
    {session : Web.Session} {publicKey : Bytes} {authentication : Raw.AuthenticationResponse}
    (hevent : moment.event = .acceptSignature response (.ok record))
    (hsession : moment.before.session? response.sessionId = some session)
    (hkey : session.publicKey? = some publicKey)
    (hdecoded : Raw.AuthenticationResponse.decode response.signatureData = .ok authentication) :
    moment.entry? = some (session.account, .signed publicKey authentication.counter) := by
  rw [Moment.entry?, hevent]
  simp only [hsession, hkey, hdecoded, Option.bind_eq_bind, Option.bind_some]
  rfl

/-- An enrolment adds the record of the key in its response, and nothing else. -/
theorem Step.enrolled (hstep : Step party before moment after) {response : Web.RegisterResponse}
    {now : UInt64} {record : Web.Enrolment}
    (hevent : moment.event = .acceptRegistration response now (.ok record)) :
    ∃ session registration, Enrolled moment response now record session registration ∧
      after = (before.closeSession response.sessionId).addKey session.account record := by
  obtain ⟨event, hleads⟩ := hstep
  simp only at hevent
  subst hevent
  obtain ⟨session, hwaiting, hverdict, hafter⟩ := registrationVerdict_of_leads hleads
  obtain ⟨registration, data, certified, hattested, hrecord⟩ := registrationVerdict_eq_ok hverdict
  have hsession := (AccountStore.waiting?_eq_some_iff.1 hwaiting).1
  exact ⟨session, registration, ⟨hsession, hattested.decoded, hrecord,
    entry?_of_enrolled rfl hsession hattested.decoded⟩, hafter⟩

/-- A taken signature sets the counter of the first record of its key, and nothing else. -/
theorem Step.counted (hstep : Step party before moment after) {response : Web.SignResponse}
    {record : Web.Enrolment} (hevent : moment.event = .acceptSignature response (.ok record)) :
    ∃ session key authentication, Counted moment response record session key authentication ∧
      after = (before.closeSession response.sessionId).setKeys session.account
        (setFirst record.publicKey authentication.counter (before.keys session.account)) := by
  obtain ⟨event, hleads⟩ := hstep
  simp only at hevent
  subst hevent
  obtain ⟨session, keys, hwaiting, hverdict, hafter⟩ := signatureVerdict_of_leads hleads
  obtain ⟨publicKey, key, authentication, hpublicKey, hfind, hkey, _, hread, hraise⟩ :=
    signatureVerdict_eq_ok hverdict
  obtain ⟨⟨old, hold, _, _, hrecord, _⟩, _⟩ := AccountStore.find?_of_raiseFirst hraise
  rw [hfind] at hold
  cases hold
  obtain rfl : record.publicKey = publicKey := by rw [hrecord, hkey]
  obtain ⟨_, _, hsigned⟩ := readAuthentication_eq_ok_iff.1 hread
  have hsession := (AccountStore.waiting?_eq_some_iff.1 hwaiting).1
  refine ⟨session, key, authentication, ⟨hsession, hpublicKey, hsigned.decoded, hfind, hrecord,
    entry?_of_signed rfl hsession hpublicKey hsigned.decoded⟩, ?_⟩
  rw [hafter, setFirst_of_raiseFirst hraise]

/-- A call makes of the records of an account what its entry says, and nothing where it has no entry
for that account. -/
def Moment.Logs (moment : Moment) (before after : AccountStore) : Prop :=
  ∀ account, after.keys account = replay (before.keys account) (keyLog account [moment])

theorem Moment.logs_of_none (hentry : moment.entry? = none)
    (hkeys : ∀ account, after.keys account = before.keys account) : moment.Logs before after := by
  intro account
  have hlog : keyLog account [moment] = [] := by
    simp [keyLog, Moment.entryFor?, hentry]
  rw [hlog]
  exact hkeys account

theorem Moment.logs_of_some {holder : String} {entry : KeyEntry}
    (hentry : moment.entry? = some (holder, entry))
    (hkeys : ∀ account, after.keys account =
      if account = holder then entry.apply (before.keys holder) else before.keys account) :
    moment.Logs before after := by
  intro account
  rw [hkeys]
  by_cases haccount : account = holder
  · subst haccount
    have hlog : keyLog account [moment] = [entry] := by
      simp [keyLog, Moment.entryFor?, hentry]
    rw [if_pos rfl, hlog]
    rfl
  · have hlog : keyLog account [moment] = [] := by
      simp [keyLog, Moment.entryFor?, hentry, Ne.symm haccount]
    rw [if_neg haccount, hlog]
    rfl

theorem logs_acceptRegistration {response : Web.RegisterResponse} {now : UInt64}
    {result : Except Failure Web.Enrolment}
    (hleads : (Event.acceptRegistration response now result).Leads party before after) :
    Moment.Logs ⟨before, .acceptRegistration response now result, after⟩ before after := by
  cases result with
  | ok record =>
      obtain ⟨session, registration, henrolled, rfl⟩ := (Step.call _ hleads).enrolled rfl
      refine Moment.logs_of_some henrolled.entry fun account => ?_
      rw [AccountStore.keys_addKey, henrolled.record_eq]
      rfl
  | error failure =>
      refine Moment.logs_of_none rfl fun account => ?_
      rcases leads_acceptRegistration hleads with
        ⟨_, _, rfl⟩ | ⟨session, _, ⟨_, _, _, rfl⟩ | ⟨_, _, hresult, _⟩⟩
      · rfl
      · rfl
      · cases hresult

theorem logs_requestSignatures {holder appId : String}
    {result : Except Failure (List Web.SignRequest)}
    (hleads : (Event.requestSignatures holder appId result).Leads party before after) :
    Moment.Logs ⟨before, .requestSignatures holder appId result, after⟩ before after := by
  refine Moment.logs_of_none rfl fun account => ?_
  rcases ends_requestSignatures hleads with ⟨_, _, rfl⟩ | ⟨_, requests, _, _, _, _, rfl⟩
  · rfl
  · rw [AccountStore.keys_openAll]

theorem logs_acceptSignature {response : Web.SignResponse} {result : Except Failure Web.Enrolment}
    (hleads : (Event.acceptSignature response result).Leads party before after) :
    Moment.Logs ⟨before, .acceptSignature response result, after⟩ before after := by
  cases result with
  | ok record =>
      obtain ⟨session, key, authentication, hcounted, rfl⟩ := (Step.call _ hleads).counted rfl
      refine Moment.logs_of_some hcounted.entry fun account => ?_
      rw [AccountStore.keys_setKeys]
      rfl
  | error failure =>
      refine Moment.logs_of_none rfl fun account => ?_
      rcases leads_acceptSignature hleads with
        ⟨_, _, rfl⟩ | ⟨session, _, ⟨_, _, _, rfl⟩ | ⟨_, _, _, hresult, _⟩⟩
      · rfl
      · rfl
      · cases hresult

theorem logs_removeKey {holder : String} {publicKey : Bytes} {result : Except Failure Bool}
    (hleads : (Event.removeKey holder publicKey result).Leads party before after) :
    Moment.Logs ⟨before, .removeKey holder publicKey result, after⟩ before after := by
  obtain ⟨rfl, rfl⟩ := leads_removeKey hleads
  refine Moment.logs_of_some rfl fun account => ?_
  rw [AccountStore.keys_removeKey]
  rfl

theorem Step.logs (hstep : Step party before moment after) : moment.Logs before after := by
  obtain ⟨event, hleads⟩ := hstep
  cases event with
  | requestRegistration holder appId result =>
      obtain ⟨request, rfl, _, _, _, rfl⟩ := ends_requestRegistration hleads
      exact Moment.logs_of_none rfl fun _ => rfl
  | acceptRegistration response now result => exact logs_acceptRegistration hleads
  | requestSignatures holder appId result => exact logs_requestSignatures hleads
  | acceptSignature response result => exact logs_acceptSignature hleads
  | keys holder result =>
      obtain ⟨_, rfl⟩ := leads_keys hleads
      exact Moment.logs_of_none rfl fun _ => rfl
  | removeKey holder publicKey result => exact logs_removeKey hleads

/-! Runs. -/

variable {first last : AccountStore} {history : List Moment}

/-- The records that a run leaves are the replay of its log on those it met. -/
theorem keys_eq_replay (hrun : Run party.Step first history last) (account : String) :
    last.keys account = replay (first.keys account) (keyLog account history) := by
  induction hrun with
  | done => rfl
  | @step first between last moment rest hmoment _ ih =>
      rw [ih, hmoment.logs account, ← replay_append, ← keyLog_append]
      rfl

/-- What a history that began with an empty store says of the keys. -/
structure KeysReplayed (history : List Moment) (last : AccountStore) : Prop where
  /-- The records that a call meets are the replay of the calls before it. -/
  met : ∀ earlier moment later, history = earlier ++ moment :: later → ∀ account,
    moment.before.keys account = replay [] (keyLog account earlier)
  left : ∀ account, last.keys account = replay [] (keyLog account history)
  /-- A key that is enrolled is that of its response, for the account of the session. -/
  enrolled : ∀ moment ∈ history, ∀ response now record,
    moment.event = .acceptRegistration response now (.ok record) →
      ∃ session registration, Enrolled moment response now record session registration
  /-- A counter that is taken is that of its response, for the key and the account of the
  session. -/
  counted : ∀ moment ∈ history, ∀ response record,
    moment.event = .acceptSignature response (.ok record) →
      ∃ session key authentication, Counted moment response record session key authentication
  /-- A key is revoked at once, and the answer tells whether it had a record. -/
  revoked : ∀ moment ∈ history, ∀ account publicKey result,
    moment.event = .removeKey account publicKey result →
      moment.entry? = some (account, .revoked publicKey) ∧
        result = .ok ((moment.before.keys account).any fun key => key.publicKey = publicKey)
  /-- What is not accepted for an account changes none of its records. -/
  kept : ∀ moment ∈ history, ∀ account,
    (∀ entry, moment.entry? ≠ some (account, entry)) →
      moment.after.keys account = moment.before.keys account
  /-- All of a record but its counter stays as it was enrolled, whatever is signed. -/
  unaltered : ∀ earlier later, history = earlier ++ later → ∀ account,
    (last.keys account).map asEnrolled =
      replay ((replay [] (keyLog account earlier)).map asEnrolled)
        ((keyLog account later).filter fun entry => !entry.isSigned)
  /-- No signature is taken for a key that was revoked and not enrolled again, whenever its session
  was issued. -/
  refused : ∀ earlier removal between call later,
    history = earlier ++ removal :: between ++ call :: later →
      ∀ account publicKey result response record session,
        removal.event = .removeKey account publicKey result →
        call.event = .acceptSignature response (.ok record) →
        call.before.session? response.sessionId = some session → session.account = account →
        session.publicKey? = some publicKey →
          ∃ moment ∈ between, ∃ registration now,
            moment.entry? = some (account, .enrolled registration now) ∧
              registration.publicKey.bytes = publicKey

theorem Step.keys_eq_of_no_entry (hstep : Step party before moment after) {account : String}
    (hentry : ∀ entry, moment.entry? ≠ some (account, entry)) :
    after.keys account = before.keys account := by
  have hnone : moment.entryFor? account = none := by
    rw [Option.eq_none_iff_forall_ne_some]
    exact fun entry hsome => hentry entry (Moment.entryFor?_eq_some_iff.1 hsome)
  rw [hstep.logs account, keyLog, List.filterMap_cons_none hnone]
  rfl

theorem Step.removed (hstep : Step party before moment after) {account : String}
    {publicKey : Bytes} {result : Except Failure Bool}
    (hevent : moment.event = .removeKey account publicKey result) :
    moment.entry? = some (account, .revoked publicKey) ∧
      result = .ok ((before.keys account).any fun key => key.publicKey = publicKey) ∧
      publicKey ∉ (after.keys account).map Web.Enrolment.publicKey := by
  obtain ⟨event, hleads⟩ := hstep
  simp only at hevent
  subst hevent
  obtain ⟨rfl, rfl⟩ := leads_removeKey hleads
  refine ⟨rfl, rfl, ?_⟩
  rw [AccountStore.keys_removeKey, if_pos rfl]
  simp

theorem Counted.mem_publicKeys {response : Web.SignResponse} {record : Web.Enrolment}
    {session : Web.Session} {key : Web.Enrolment} {authentication : Raw.AuthenticationResponse}
    (hcounted : Counted moment response record session key authentication) :
    record.publicKey ∈ (moment.before.keys session.account).map Web.Enrolment.publicKey := by
  have hkey : key.publicKey = record.publicKey := by simpa using List.find?_some hcounted.found
  rw [← hkey]
  exact List.mem_map_of_mem (List.mem_of_find?_eq_some hcounted.found)

/-- Before a signature is taken for a revoked key, the key is enrolled again. -/
theorem enrolled_between_of_counted {earlier between later : List Moment} {removal call : Moment}
    (hrun : Run party.Step first (earlier ++ removal :: between ++ call :: later) last)
    {account : String} {publicKey : Bytes} {result : Except Failure Bool}
    {response : Web.SignResponse} {record : Web.Enrolment} {session : Web.Session}
    (hremoval : removal.event = .removeKey account publicKey result)
    (hcall : call.event = .acceptSignature response (.ok record))
    (hsession : call.before.session? response.sessionId = some session)
    (haccount : session.account = account) (hkey : session.publicKey? = some publicKey) :
    ∃ moment ∈ between, ∃ registration now,
      moment.entry? = some (account, .enrolled registration now) ∧
        registration.publicKey.bytes = publicKey := by
  obtain ⟨store, _, hupto, hcallStep, _⟩ := hrun.cut_at
  obtain ⟨_, middle, _, hremovalStep, hbetween⟩ := hupto.cut_at
  obtain ⟨given, key, authentication, hcounted, _⟩ := hcallStep.counted hcall
  have hgiven := hcounted.answered
  rw [hsession] at hgiven
  cases hgiven
  have hsame := hcounted.publicKey
  rw [hkey] at hsame
  cases hsame
  have hmem := hcounted.mem_publicKeys
  rw [hcallStep.met, haccount, keys_eq_replay hbetween account] at hmem
  rcases mem_publicKeys_replay hmem with hold | ⟨entry, hentry, henrols⟩
  · exact absurd hold (hremovalStep.removed hremoval).2.2
  · obtain ⟨moment, hmoment, hfor⟩ := List.mem_filterMap.1 hentry
    cases entry with
    | enrolled registration now =>
        exact ⟨moment, hmoment, registration, now, Moment.entryFor?_eq_some_iff.1 hfor,
          by simpa [KeyEntry.enrols] using henrols⟩
    | revoked revokedKey => cases henrols
    | signed signedKey counter => cases henrols

theorem keys_replayed (hrun : Run party.Step .empty history last) :
    KeysReplayed history last where
  met := by
    rintro earlier moment later rfl account
    obtain ⟨before, _, hearlier, hmoment, _⟩ := hrun.cut_at
    rw [hmoment.met, keys_eq_replay hearlier account]
    rfl
  left := keys_eq_replay hrun
  enrolled := by
    refine hrun.forall_mem _ fun before moment after hstep response now record hevent => ?_
    obtain ⟨session, registration, henrolled, _⟩ := hstep.enrolled hevent
    exact ⟨session, registration, henrolled⟩
  counted := by
    refine hrun.forall_mem _ fun before moment after hstep response record hevent => ?_
    obtain ⟨session, key, authentication, hcounted, _⟩ := hstep.counted hevent
    exact ⟨session, key, authentication, hcounted⟩
  revoked := by
    refine hrun.forall_mem _ fun before moment after hstep account publicKey result hevent => ?_
    obtain ⟨hentry, hresult, _⟩ := hstep.removed hevent
    rw [hstep.met]
    exact ⟨hentry, hresult⟩
  kept := by
    refine hrun.forall_mem _ fun before moment after hstep account hentry => ?_
    rw [hstep.met, hstep.left]
    exact hstep.keys_eq_of_no_entry hentry
  unaltered := by
    rintro earlier later rfl account
    rw [keys_eq_replay hrun account, keyLog_append, replay_append, map_asEnrolled_replay]
    rfl
  refused := by
    rintro earlier removal between call later rfl account publicKey result response record session
    exact enrolled_between_of_counted hrun

/-! A party that trusts one batch of tokens enrols the key whose secret is one. The batch attests with
that key too. -/

open TrustAnchors (batchCertificate)

def batchParty : RelyingParty := ⟨.standard, ["https://a.b"], ⟨[batchCertificate]⟩, .refuse⟩

def enrolmentData : Bytes :=
  Utf8.bytes ("\x7b\"typ\":\"navigator.id.finishEnrollment\",\"challenge\":\"\"," ++
    "\"origin\":\"https://a.b\"\x7d")

def enrolmentHandle : Bytes :=
  [0xc4, 0xcf, 0xa6, 0x34, 0xd5, 0x1a, 0x5c, 0x26, 0x65, 0x5d, 0xe8, 0xbe, 0x6b, 0x74, 0x67,
   0xd6, 0xb1, 0x09, 0xc3, 0x6c, 0x9b, 0xca, 0x3b, 0xe0, 0xcb, 0x44, 0x12, 0x66, 0x11, 0x2d,
   0xde, 0x15]

def attestationSignature : Bytes :=
  [0x30, 0x46, 0x02, 0x21, 0x00, 0xc0, 0xd6, 0xe1, 0x74, 0x57, 0x1b, 0xe1, 0x03, 0xcf, 0x62,
   0xce, 0x24, 0x00, 0x01, 0xb8, 0x69, 0xbc, 0xdf, 0x31, 0x82, 0x65, 0x91, 0xcb, 0x8f, 0xf5,
   0xd3, 0x35, 0x0e, 0xaa, 0xa3, 0xca, 0xe4, 0x02, 0x21, 0x00, 0xf2, 0x5c, 0x60, 0x62, 0x9f,
   0x03, 0xac, 0x83, 0xdc, 0xf6, 0x21, 0x59, 0x46, 0xca, 0xbb, 0x16, 0x14, 0x5f, 0xac, 0x3f,
   0x9d, 0xda, 0x89, 0x8c, 0x78, 0x4e, 0xd9, 0xc1, 0xa3, 0x6d, 0xa1, 0x28]

def enrolmentResponse : Web.RegisterResponse where
  registrationData := 0x05 :: (KeyPair.base.publicKey.bytes ++ 0x20 :: enrolmentHandle
    ++ batchCertificate ++ attestationSignature)
  clientData := enrolmentData
  sessionId := "AAAAAAAAAAAAAAAAAAAAAA"

def enrolmentRecord : Web.Enrolment :=
  ⟨enrolmentHandle, KeyPair.base.publicKey.bytes, batchCertificate, 0, 0⟩

def enrolmentSession : Web.Session := ⟨"ann", "https://a.b", [], .enrol⟩

def askedStore : AccountStore :=
  AccountStore.empty.openSession enrolmentResponse.sessionId enrolmentSession

def enrolmentAsked : Moment where
  before := .empty
  event := .requestRegistration "ann" "https://a.b"
    (.ok ⟨Raw.protocolVersion, [], "https://a.b", enrolmentResponse.sessionId⟩)
  after := askedStore

def enrolmentTaken : Moment where
  before := askedStore
  event := .acceptRegistration enrolmentResponse 0 (.ok enrolmentRecord)
  after := (askedStore.closeSession enrolmentResponse.sessionId).addKey "ann" enrolmentRecord

theorem waiting?_enrolmentTaken :
    askedStore.waiting? .registration enrolmentResponse.sessionId = some enrolmentSession := by
  decide +kernel

theorem registrationVerdict_enrolment :
    batchParty.registrationVerdict enrolmentSession enrolmentResponse 0 = .ok enrolmentRecord :=
  eq_ok_of_toOption_eq_some (by decide +kernel)

theorem leads_enrolmentAsked : enrolmentAsked.event.Leads batchParty .empty askedStore :=
  ⟨.fixed fun _ => [], .ofTape (List.replicate 16 0), rfl⟩

theorem leads_enrolmentTaken :
    enrolmentTaken.event.Leads batchParty askedStore enrolmentTaken.after :=
  leads_acceptRegistration_of_ok waiting?_enrolmentTaken registrationVerdict_enrolment

/-! The life of a key: it is enrolled, signs once, and is revoked. -/

/-- The session in which the key signs has the id that its enrolment had. -/
def lifeResponse : Web.SignResponse :=
  { firstResponse with sessionId := enrolmentResponse.sessionId }

def signingStore : AccountStore :=
  enrolmentTaken.after.openSession enrolmentResponse.sessionId sampleSession

def signedStore : AccountStore :=
  (signingStore.closeSession enrolmentResponse.sessionId).setKeys "ann"
    [{ enrolmentRecord with counter := 1 }]

def keyLife : List Moment := [
  enrolmentAsked,
  enrolmentTaken,
  ⟨enrolmentTaken.after, .requestSignatures "ann" "https://a.b" (.ok [⟨Raw.protocolVersion, [],
    "https://a.b", enrolmentHandle, enrolmentResponse.sessionId⟩]), signingStore⟩,
  ⟨signingStore, .acceptSignature lifeResponse (.ok { enrolmentRecord with counter := 1 }),
    signedStore⟩,
  ⟨signedStore, .removeKey "ann" enrolmentRecord.publicKey (.ok true),
    signedStore.removeKey "ann" enrolmentRecord.publicKey⟩]

theorem signatureVerdict_lifeResponse :
    batchParty.signatureVerdict sampleSession lifeResponse (signingStore.keys "ann") =
      .ok ({ enrolmentRecord with counter := 1 }, [{ enrolmentRecord with counter := 1 }]) :=
  eq_ok_of_toOption_eq_some (by decide +kernel)

theorem run_keyLife : ∃ last, Run batchParty.Step .empty keyLife last := by
  have hrequested : (Event.requestSignatures "ann" "https://a.b" (.ok [⟨Raw.protocolVersion, [],
      "https://a.b", enrolmentHandle, enrolmentResponse.sessionId⟩])).Leads batchParty
        enrolmentTaken.after signingStore :=
    ⟨.fixed fun _ => [], .ofTape (List.replicate 16 0), rfl⟩
  have hsigned : (Event.acceptSignature lifeResponse
      (.ok { enrolmentRecord with counter := 1 })).Leads batchParty signingStore signedStore :=
    leads_acceptSignature_of_ok (by decide +kernel) signatureVerdict_lifeResponse
  have hrevoked : (Event.removeKey "ann" enrolmentRecord.publicKey (.ok true)).Leads batchParty
      signedStore (signedStore.removeKey "ann" enrolmentRecord.publicKey) :=
    ⟨.random, .ofTape [], rfl⟩
  exact ⟨_, .step (.call _ leads_enrolmentAsked) <| .step (.call _ leads_enrolmentTaken) <|
    .step (.call _ hrequested) <| .step (.call _ hsigned) <| .step (.call _ hrevoked) (.done _)⟩

theorem keys_replayed_keyLife :
    ∃ last, Run batchParty.Step .empty keyLife last ∧ KeysReplayed keyLife last ∧
      keyLife.map (fun moment => (moment.after.keys "ann").map Web.Enrolment.counter) =
        [[], [0], [0], [1], []] := by
  obtain ⟨last, hrun⟩ := run_keyLife
  exact ⟨last, hrun, keys_replayed hrun, by decide +kernel⟩

end SecondFactor.RelyingParty
