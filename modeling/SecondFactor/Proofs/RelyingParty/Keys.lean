import SecondFactor.Proofs.RelyingParty.Acceptance

/-!
What becomes of the keys of an account. A call leaves them as they are, or enrols one more, or takes
the records of one away, or raises a counter, `Step.keyChange`. So the record that signatures for a
key are checked against stays but for its counter, or is gone, `Step.stands`; the counter that a
call raises is that of the key whose signature it takes, `leads_acceptSignature_ok`.
-/

namespace SecondFactor

namespace AccountStore

/-- A raised counter is that of the first record of its key, and the only thing that changes. -/
theorem raiseFirst_eq_ok {publicKey : Bytes} {counter : UInt32} {keys changed : List Web.Enrolment}
    {raised : Web.Enrolment} (hraise : raiseFirst publicKey counter keys = .ok (raised, changed)) :
    ∃ earlier key later, keys = earlier ++ key :: later ∧
      (∀ other ∈ earlier, other.publicKey ≠ publicKey) ∧ key.publicKey = publicKey ∧
      key.counter < counter ∧ raised = { key with counter } ∧
      changed = earlier ++ raised :: later := by
  induction keys generalizing changed with
  | nil => cases hraise
  | cons key rest ih =>
      rw [raiseFirst] at hraise
      by_cases hkey : key.publicKey = publicKey
      · rw [if_pos hkey] at hraise
        by_cases hcounter : key.counter < counter
        · rw [if_pos hcounter] at hraise
          cases hraise
          exact ⟨[], key, rest, rfl, by simp, hkey, hcounter, rfl, rfl⟩
        · rw [if_neg hcounter] at hraise
          cases hraise
      · rw [if_neg hkey] at hraise
        cases hrest : raiseFirst publicKey counter rest with
        | error failure =>
            simp only [hrest] at hraise
            cases hraise
        | ok result =>
            simp only [hrest] at hraise
            cases hraise
            obtain ⟨earlier, found, later, rfl, hearlier, hfound, hlt, hraised, hchanged⟩ :=
              ih hrest
            refine ⟨key :: earlier, found, later, rfl, ?_, hfound, hlt, hraised, ?_⟩
            · intro other hmem
              rcases List.mem_cons.1 hmem with rfl | hmem
              · exact hkey
              · exact hearlier other hmem
            · rw [hchanged, List.cons_append]

theorem raiseFirst_of_first {publicKey : Bytes} {counter : UInt32}
    {earlier later : List Web.Enrolment} {key : Web.Enrolment}
    (hearlier : ∀ other ∈ earlier, other.publicKey ≠ publicKey) (hkey : key.publicKey = publicKey)
    (hcounter : key.counter < counter) :
    raiseFirst publicKey counter (earlier ++ key :: later) =
      .ok ({ key with counter }, earlier ++ { key with counter } :: later) := by
  induction earlier with
  | nil => rw [List.nil_append, raiseFirst, if_pos hkey, if_pos hcounter, List.nil_append]
  | cons other rest ih =>
      have hrest := ih fun given hmem => hearlier given (List.mem_cons_of_mem _ hmem)
      rw [List.cons_append, raiseFirst, if_neg (hearlier other List.mem_cons_self), hrest]
      rfl

theorem find?_append_cons_of_first {publicKey : Bytes} {earlier later : List Web.Enrolment}
    {key : Web.Enrolment} (hearlier : ∀ other ∈ earlier, other.publicKey ≠ publicKey)
    (hkey : key.publicKey = publicKey) :
    (earlier ++ key :: later).find? (fun other => other.publicKey = publicKey) = some key := by
  rw [List.find?_append, List.find?_cons_of_pos (by simpa using hkey)]
  have hnone : earlier.find? (fun other => other.publicKey = publicKey) = none := by
    rw [List.find?_eq_none]
    intro other hmem
    simpa using hearlier other hmem
  rw [hnone, Option.none_or]

/-- What a raised counter does to the records that signatures are checked against. -/
theorem find?_of_raiseFirst {publicKey : Bytes} {counter : UInt32}
    {keys changed : List Web.Enrolment} {raised : Web.Enrolment}
    (hraise : raiseFirst publicKey counter keys = .ok (raised, changed)) :
    (∃ key, keys.find? (fun other => other.publicKey = publicKey) = some key ∧
      key.publicKey = publicKey ∧ key.counter < counter ∧ raised = { key with counter } ∧
      changed.find? (fun other => other.publicKey = publicKey) = some raised) ∧
    ∀ other, other ≠ publicKey → changed.find? (fun key => key.publicKey = other) =
      keys.find? fun key => key.publicKey = other := by
  obtain ⟨earlier, key, later, rfl, hearlier, hkey, hlt, rfl, rfl⟩ := raiseFirst_eq_ok hraise
  refine ⟨⟨key, find?_append_cons_of_first hearlier hkey, hkey, hlt, rfl,
    find?_append_cons_of_first hearlier hkey⟩, ?_⟩
  intro other hother
  have hne : ¬ key.publicKey = other := fun h => hother (h.symm.trans hkey)
  simp [List.find?_append, hne]

theorem find?_filter_publicKey (keys : List Web.Enrolment) (removed publicKey : Bytes) :
    (keys.filter fun key => key.publicKey ≠ removed).find? (fun key => key.publicKey = publicKey) =
      if publicKey = removed then none else keys.find? fun key => key.publicKey = publicKey := by
  rw [List.find?_filter]
  split
  · rename_i hkey
    simp [hkey]
  · rename_i hkey
    congr 1
    funext key
    by_cases hsame : key.publicKey = publicKey
    · simp [hsame, hkey]
    · simp [hsame]

end AccountStore

namespace RelyingParty

variable {party : RelyingParty} {before after : AccountStore} {moment : Moment}

/-- How a call may change the keys of an account. -/
inductive KeyChange (store : AccountStore) (account : String) :
    Event → List Web.Enrolment → Prop
  | kept (event : Event) : KeyChange store account event (store.keys account)
  | enrolled {response : Web.RegisterResponse} {session : Web.Session} (now : UInt64)
      (key : Web.Enrolment) :
      store.session? response.sessionId = some session → session.account = account →
        KeyChange store account (.acceptRegistration response now (.ok key))
          (store.keys account ++ [key])
  | removed (publicKey : Bytes) :
      KeyChange store account (.removeKey account publicKey (.ok (store.hasKey account publicKey)))
        ((store.keys account).filter fun key => key.publicKey ≠ publicKey)
  | raised (response : Web.SignResponse) {publicKey : Bytes} {counter : UInt32}
      {key : Web.Enrolment} {changed : List Web.Enrolment} :
      AccountStore.raiseFirst publicKey counter (store.keys account) = .ok (key, changed) →
        KeyChange store account (.acceptSignature response (.ok key)) changed

theorem keyChange_acceptRegistration {response : Web.RegisterResponse} {now : UInt64}
    {result : Except Failure Web.Enrolment}
    (hleads : (Event.acceptRegistration response now result).Leads party before after)
    (account : String) :
    KeyChange before account (.acceptRegistration response now result) (after.keys account) := by
  rcases leads_acceptRegistration hleads with
    ⟨_, rfl, rfl⟩ | ⟨session, hwaiting, ⟨_, _, rfl, rfl⟩ | ⟨key, _, rfl, rfl⟩⟩
  · exact .kept _
  · exact .kept _
  · rw [AccountStore.keys_addKey]
    split
    · rename_i haccount
      subst haccount
      exact .enrolled now key (AccountStore.waiting?_eq_some_iff.1 hwaiting).1 rfl
    · exact .kept _

theorem keyChange_acceptSignature {response : Web.SignResponse}
    {result : Except Failure Web.Enrolment}
    (hleads : (Event.acceptSignature response result).Leads party before after)
    (account : String) :
    KeyChange before account (.acceptSignature response result) (after.keys account) := by
  rcases leads_acceptSignature hleads with
    ⟨_, rfl, rfl⟩ | ⟨session, _, ⟨_, _, rfl, rfl⟩ | ⟨raised, keys, hverdict, rfl, rfl⟩⟩
  · exact .kept _
  · exact .kept _
  · rw [AccountStore.keys_setKeys]
    split
    · rename_i haccount
      subst haccount
      obtain ⟨_, _, _, _, _, _, _, _, hraise⟩ := signatureVerdict_eq_ok hverdict
      exact .raised response hraise
    · exact .kept _

theorem keyChange_removeKey {holder : String} {publicKey : Bytes} {result : Except Failure Bool}
    (hleads : (Event.removeKey holder publicKey result).Leads party before after)
    (account : String) :
    KeyChange before account (.removeKey holder publicKey result) (after.keys account) := by
  obtain ⟨rfl, rfl⟩ := leads_removeKey hleads
  rw [AccountStore.keys_removeKey]
  split
  · rename_i haccount
    subst haccount
    exact .removed publicKey
  · exact .kept _

theorem Step.keyChange (hstep : Step party before moment after) (account : String) :
    KeyChange before account moment.event (after.keys account) := by
  obtain ⟨event, hleads⟩ := hstep
  cases event with
  | requestRegistration holder appId result =>
      obtain ⟨request, rfl, _, _, _, rfl⟩ := ends_requestRegistration hleads
      exact .kept _
  | acceptRegistration response now result => exact keyChange_acceptRegistration hleads account
  | requestSignatures holder appId result =>
      rcases ends_requestSignatures hleads with
        ⟨_, rfl, rfl⟩ | ⟨challenge, requests, _, rfl, _, _, rfl⟩
      · exact .kept _
      · rw [AccountStore.keys_openAll]
        exact .kept _
  | acceptSignature response result => exact keyChange_acceptSignature hleads account
  | keys holder result =>
      obtain ⟨_, rfl⟩ := leads_keys hleads
      exact .kept _
  | removeKey holder publicKey result => exact keyChange_removeKey hleads account

/-- What holds of a record whatever its counter, and of all that a call enrols, holds of all that
the call leaves if it did before. -/
theorem KeyChange.forall_mem {Holds : Web.Enrolment → Prop}
    (hcounter : ∀ record counter, Holds record → Holds { record with counter })
    {store : AccountStore} {account : String} {changed : List Web.Enrolment} {event : Event}
    (hchange : KeyChange store account event changed)
    (henrolled : ∀ response now record,
      event = .acceptRegistration response now (.ok record) → Holds record)
    (hkeys : ∀ record ∈ store.keys account, Holds record) : ∀ record ∈ changed, Holds record := by
  cases hchange with
  | kept => exact hkeys
  | enrolled now added _ _ =>
      intro record hmem
      rcases List.mem_append.1 hmem with hmem | hmem
      · exact hkeys record hmem
      · rw [List.mem_singleton.1 hmem]
        exact henrolled _ now added rfl
  | removed publicKey => exact fun record hmem => hkeys record (List.mem_of_mem_filter hmem)
  | raised response hraise =>
      obtain ⟨earlier, key, later, hsplit, _, _, _, rfl, rfl⟩ :=
        AccountStore.raiseFirst_eq_ok hraise
      rw [hsplit] at hkeys
      intro record hmem
      rcases List.mem_append.1 hmem with hmem | hmem
      · exact hkeys record (List.mem_append_left _ hmem)
      · rcases List.mem_cons.1 hmem with rfl | hmem
        · exact hcounter key _ (hkeys key (by simp))
        · exact hkeys record (by simp [hmem])

/-- What holds of every record that is enrolled, whatever its counter, holds after any run of every
record of every account. -/
theorem forall_keys_of_run {Holds : Web.Enrolment → Prop}
    (hcounter : ∀ record counter, Holds record → Holds { record with counter })
    (henrolled : ∀ before after response now record,
      (Event.acceptRegistration response now (.ok record)).Leads party before after → Holds record)
    {history : List Moment} {last : AccountStore} (hrun : Run party.Step .empty history last) :
    ∀ account, ∀ record ∈ last.keys account, Holds record := by
  refine hrun.invariant (fun store => ∀ account, ∀ record ∈ store.keys account, Holds record) ?_
    nofun
  intro moment _ before after hstep hholds account
  refine (hstep.keyChange account).forall_mem hcounter ?_ (hholds account)
  intro response now record hevent
  exact henrolled before after response now record (hevent ▸ hstep.leads)

/-! What stands of a key from call to call. -/

/-- The record that signatures for a key are checked against is as wanted, or there is none and the
key is gone. -/
def Stands (keys : List Web.Enrolment) (publicKey : Bytes) (gone : Prop)
    (wanted : Web.Enrolment → Prop) : Prop :=
  (keys.find? fun key => key.publicKey = publicKey).elim gone wanted

/-- A call removes a key of an account that was there. -/
def Event.Removes (event : Event) (account : String) (publicKey : Bytes) : Prop :=
  event = .removeKey account publicKey (.ok true)

/-- A call enrols a key for an account. Whose key it is says the session in the store. -/
def Event.Enrols (event : Event) (store : AccountStore) (account : String) (publicKey : Bytes) :
    Prop :=
  ∃ response now key session, event = .acceptRegistration response now (.ok key) ∧
    store.session? response.sessionId = some session ∧ session.account = account ∧
      key.publicKey = publicKey

section

variable {keys changed : List Web.Enrolment} {account : String} {publicKey : Bytes} {gone : Prop}
  {wanted : Web.Enrolment → Prop}

theorem Stands.append (hstands : Stands keys publicKey gone wanted) {key : Web.Enrolment}
    (hother : gone → key.publicKey ≠ publicKey) :
    Stands (keys ++ [key]) publicKey gone wanted := by
  unfold Stands at hstands ⊢
  rw [List.find?_append]
  cases hfirst : keys.find? fun key => key.publicKey = publicKey with
  | some first =>
      rw [hfirst] at hstands
      exact hstands
  | none =>
      rw [hfirst] at hstands
      simpa [hother hstands] using hstands

theorem Stands.filter (hstands : Stands keys publicKey gone wanted) {removed : Bytes}
    (hremoved : publicKey = removed → (keys.any fun key => key.publicKey = publicKey) = true →
      gone) :
    Stands (keys.filter fun key => key.publicKey ≠ removed) publicKey gone wanted := by
  unfold Stands at hstands ⊢
  rw [AccountStore.find?_filter_publicKey]
  split
  · rename_i hkey
    cases hfirst : keys.find? fun key => key.publicKey = publicKey with
    | none =>
        rw [hfirst] at hstands
        exact hstands
    | some first =>
        have hfound := List.find?_some hfirst
        exact hremoved hkey (List.any_eq_true.2 ⟨first, List.mem_of_find?_eq_some hfirst, hfound⟩)
  · exact hstands

theorem Stands.raise (hstands : Stands keys publicKey gone wanted) {signer : Bytes}
    {counter : UInt32} {raised : Web.Enrolment}
    (hraise : AccountStore.raiseFirst signer counter keys = .ok (raised, changed))
    (hraised : ∀ key counter, key.counter < counter → wanted key → wanted { key with counter }) :
    Stands changed publicKey gone wanted := by
  unfold Stands at hstands ⊢
  obtain ⟨⟨old, hold, _, hlt, rfl, hnew⟩, hothers⟩ := AccountStore.find?_of_raiseFirst hraise
  by_cases hsame : publicKey = signer
  · subst hsame
    rw [hold] at hstands
    rw [hnew]
    exact hraised old counter hlt hstands
  · rw [hothers publicKey hsame]
    exact hstands

/-- What stands of a key does so after a call, if it does not depend on how low the counter is. -/
theorem Step.stands (hstep : Step party before moment after)
    (hraised : ∀ key counter, key.counter < counter → wanted key → wanted { key with counter })
    (hremoved : moment.event.Removes account publicKey → gone)
    (henrolled : gone → ¬ moment.event.Enrols before account publicKey)
    (hstands : Stands (before.keys account) publicKey gone wanted) :
    Stands (after.keys account) publicKey gone wanted := by
  have hchange := hstep.keyChange account
  generalize moment.event = event at hchange hremoved henrolled
  generalize after.keys account = changed at hchange ⊢
  cases hchange with
  | kept => exact hstands
  | enrolled now key hsession haccount =>
      refine hstands.append fun hgone hkey => henrolled hgone ?_
      exact ⟨_, now, key, _, rfl, hsession, haccount, hkey⟩
  | removed revoked =>
      refine hstands.filter fun hkey hany => hremoved ?_
      rw [Event.Removes, ← hkey, AccountStore.hasKey, hany]
  | raised response hraise => exact hstands.raise hraise hraised

end

/-! Signatures that are taken. -/

/-- What a taken signature was checked against, and what it left. -/
structure Checked (party : RelyingParty) (before after : AccountStore)
    (response : Web.SignResponse) (record : Web.Enrolment) (session : Web.Session)
    (key : Web.Enrolment) (authentication : Raw.AuthenticationResponse) : Prop where
  waiting : before.waiting? .authentication response.sessionId = some session
  publicKey : session.publicKey? = some record.publicKey
  found : before.firstKey? session.account record.publicKey = some key
  keyHandle : key.keyHandle = response.keyHandle
  read : party.readAuthentication session key response = .ok authentication
  risen : key.counter < authentication.counter
  record_eq : record = { key with counter := authentication.counter }
  left : after.firstKey? session.account record.publicKey = some record

theorem leads_acceptSignature_ok {response : Web.SignResponse} {record : Web.Enrolment}
    (hleads : (Event.acceptSignature response (.ok record)).Leads party before after) :
    ∃ session key authentication,
      Checked party before after response record session key authentication := by
  obtain ⟨session, keys, hwaiting, hverdict, rfl⟩ := signatureVerdict_of_leads hleads
  obtain ⟨publicKey, key, authentication, hpublicKey, hfind, hkey, hhandle, hread, hraise⟩ :=
    signatureVerdict_eq_ok hverdict
  obtain ⟨⟨old, hold, _, hlt, hrecord, hnew⟩, _⟩ := AccountStore.find?_of_raiseFirst hraise
  rw [hfind] at hold
  cases hold
  have hsame : record.publicKey = publicKey := by rw [hrecord, hkey]
  refine ⟨session, key, authentication, hwaiting, hsame ▸ hpublicKey, ?_, hhandle, hread, hlt,
    hrecord, ?_⟩
  · rw [hsame]
    exact hfind
  · rw [hsame, AccountStore.firstKey?, AccountStore.keys_setKeys, if_pos rfl]
    exact hnew

end RelyingParty

end SecondFactor
