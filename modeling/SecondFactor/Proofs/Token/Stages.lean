import SecondFactor.Proofs.Token.Traffic

/-!
The stages of an authentication while others are under way. However the calls interleave, what was
said in it is a beginning of its own talk, so it is at one of few stages (`stage_of_run`), and each
tells what was asked of the counter.
-/

namespace SecondFactor.Token

/-- What an authentication goes on with when it has found its key. -/
def signing (token : Token) (request : Raw.AuthenticationRequest) (key : TokenKey) :
    Talk Raw.AuthenticationResponse := do
  if request.control = .checkOnly then Dialogue.fail .presenceTestRequired
  let counter ← Talk.nextCounter
  let presence ← Talk.presence .authentication request.application
  if request.control = .enforcePresence && !presence.userPresent then
    Dialogue.fail .presenceDenied
  return token.authenticationOf request key presence counter

namespace Said

def looked (handle : Bytes) (given : Except Failure (Option TokenKey)) : Said :=
  ⟨.key handle, given⟩

def counted (given : Except Failure UInt32) : Said :=
  ⟨.nextCounter, given⟩

def asked (application : Digest) (presence : Raw.Presence) : Said :=
  ⟨.presence .authentication application, presence⟩

def warned (warning : Warning) : Said :=
  ⟨.warn warning, ()⟩

end Said

/-- What was said from then on up to some point, and what is left there. -/
inductive Signing (token : Token) (request : Raw.AuthenticationRequest) (key : TokenKey) :
    List Said → Talk Raw.AuthenticationResponse → Prop
  | checked : request.control = .checkOnly →
      Signing token request key [] (.fail .presenceTestRequired)
  | begun (next : Except Failure UInt32 → Talk Raw.AuthenticationResponse) :
      request.control ≠ .checkOnly → Signing token request key [] (.ask .nextCounter next)
  | uncounted (failure : Failure) : request.control ≠ .checkOnly →
      Signing token request key [.counted (.error failure)] (.fail failure)
  | counted (counter : UInt32) (next : Raw.Presence → Talk Raw.AuthenticationResponse) :
      request.control ≠ .checkOnly →
        Signing token request key [.counted (.ok counter)]
          (.ask (.presence .authentication request.application) next)
  | denied (counter : UInt32) (presence : Raw.Presence) :
      request.control = .enforcePresence → presence.userPresent = false →
        Signing token request key [.counted (.ok counter), .asked request.application presence]
          (.fail .presenceDenied)
  | signed (counter : UInt32) (presence : Raw.Presence) : request.control ≠ .checkOnly →
      Signing token request key [.counted (.ok counter), .asked request.application presence]
        (.done (token.authenticationOf request key presence counter))

/-- What was said in an authentication up to some point, and what is left there. -/
inductive Stage (token : Token) (request : Raw.AuthenticationRequest) :
    List Said → Talk Raw.AuthenticationResponse → Prop
  | start (next : Except Failure (Option TokenKey) → Talk Raw.AuthenticationResponse) :
      Stage token request [] (.ask (.key request.keyHandle) next)
  | unread (failure : Failure) :
      Stage token request [.looked request.keyHandle (.error failure)] (.fail failure)
  | unknown (found : Option TokenKey) (next : Unit → Talk Raw.AuthenticationResponse) :
      (found.filter fun key => key.application = request.application) = none →
        Stage token request [.looked request.keyHandle (.ok found)]
          (.ask (.warn (.unknownKeyHandle request.keyHandle)) next)
  | refused (found : Option TokenKey) :
      (found.filter fun key => key.application = request.application) = none →
        Stage token request [.looked request.keyHandle (.ok found),
          .warned (.unknownKeyHandle request.keyHandle)] (.fail .unknownKeyHandle)
  | found (key : TokenKey) {history : List Said} {rest : Talk Raw.AuthenticationResponse} :
      key.application = request.application → Signing token request key history rest →
        Stage token request (.looked request.keyHandle (.ok (some key)) :: history) rest

variable {n : Nat} {tokens : Fin n → Token} {requests : Fin n → Request} {ring : KeyRing}
  {accesses : List (Access n)} {last : Traffic n} {caller : Fin n} {token : Token}
  {request : Raw.AuthenticationRequest} {history : List Said}
  {rest : Talk Raw.AuthenticationResponse}

theorem signing_of_after {key : TokenKey}
    (hafter : (token.signing request key).After history rest) :
    Signing token request key history rest := by
  unfold signing at hafter
  by_cases hcontrol : request.control = .checkOnly
  · rw [if_pos hcontrol] at hafter
    obtain ⟨rfl, rfl⟩ := Dialogue.after_fail_iff.1 hafter
    exact .checked hcontrol
  rw [if_neg hcontrol] at hafter
  rcases Dialogue.after_ask_iff.1 hafter with ⟨rfl, rfl⟩ | ⟨answer, tail, rfl, hanswered⟩
  · exact .begun _ hcontrol
  cases answer with
  | error failure =>
      obtain ⟨rfl, rfl⟩ := Dialogue.after_fail_iff.1 hanswered
      exact .uncounted failure hcontrol
  | ok counter =>
      rcases Dialogue.after_ask_iff.1 hanswered with ⟨rfl, rfl⟩ | ⟨presence, tail, rfl, hasked⟩
      · exact .counted counter _ hcontrol
      change Dialogue.After (if request.control = .enforcePresence &&
        !(presence : Raw.Presence).userPresent then _ else _) _ _ at hasked
      by_cases hdenied : (request.control = .enforcePresence &&
          !(presence : Raw.Presence).userPresent) = true
      · rw [if_pos hdenied] at hasked
        obtain ⟨rfl, rfl⟩ := Dialogue.after_fail_iff.1 hasked
        simp only [Bool.and_eq_true, decide_eq_true_eq, Bool.not_eq_true'] at hdenied
        exact .denied counter presence hdenied.1 hdenied.2
      · rw [if_neg hdenied] at hasked
        obtain ⟨rfl, rfl⟩ := Dialogue.after_done_iff.1 hasked
        exact .signed counter presence hcontrol

theorem stage_of_after (hafter : (token.authenticate request).After history rest) :
    Stage token request history rest := by
  rcases Dialogue.after_ask_iff.1 hafter with ⟨rfl, rfl⟩ | ⟨answer, tail, rfl, hlooked⟩
  · exact .start _
  cases answer with
  | error failure =>
      obtain ⟨rfl, rfl⟩ := Dialogue.after_fail_iff.1 hlooked
      exact .unread failure
  | ok found =>
      change Dialogue.After
        (ownKey request.application request.keyHandle found >>= token.signing request) _ _ at hlooked
      unfold ownKey at hlooked
      cases hfilter : found.filter fun key => key.application = request.application with
      | none =>
          rw [hfilter] at hlooked
          rcases Dialogue.after_ask_iff.1 hlooked with ⟨rfl, rfl⟩ | ⟨⟨⟩, tail, rfl, hwarned⟩
          · exact .unknown found _ hfilter
          · obtain ⟨rfl, rfl⟩ := Dialogue.after_fail_iff.1 hwarned
            exact .refused found hfilter
      | some key =>
          rw [hfilter] at hlooked
          obtain ⟨rfl, happlication⟩ := Option.filter_eq_some_iff.1 hfilter
          exact .found key (of_decide_eq_true happlication) (signing_of_after hlooked)

/-- The call of a caller with a challenge to sign is an authentication at some stage. -/
theorem stage_of_run
    (hrun : Run (Traffic.Step tokens) (.ofRequests tokens requests ring) accesses last)
    (hpayload : (requests caller).payload? = some (.authenticate request)) :
    ∃ (finish : Except Failure Raw.AuthenticationResponse → Call)
      (rest : Talk Raw.AuthenticationResponse),
      Stage (tokens caller) request (said accesses caller) rest ∧
        last.talks caller = finish <$> rest.attempt ∧ ∀ result, (finish result).Returns result := by
  obtain ⟨finish, htalk, hreturns⟩ := Request.exists_talk_eq (tokens caller) hpayload
  have hafter := after_of_run hrun caller
  change ((requests caller).talk (tokens caller)).After _ _ at hafter
  rw [htalk] at hafter
  obtain ⟨rest, hrest, hlast⟩ := Dialogue.after_map_attempt hafter
  exact ⟨finish, rest, stage_of_after hrest, hlast, hreturns⟩

/-- The result that a call has ended in, at the last of its stages. -/
theorem stage_of_done
    (hrun : Run (Traffic.Step tokens) (.ofRequests tokens requests ring) accesses last)
    (hpayload : (requests caller).payload? = some (.authenticate request)) {call : Call}
    (hdone : last.talks caller = .done call) :
    ∃ result, Stage (tokens caller) request (said accesses caller) (.ofExcept result) ∧
      call.Returns result := by
  obtain ⟨finish, rest, hstage, htalk, hreturns⟩ := stage_of_run hrun hpayload
  obtain ⟨result, rfl, rfl⟩ := Dialogue.map_attempt_eq_done (htalk.symm.trans hdone)
  exact ⟨result, hstage, hreturns result⟩

/-! What is asked of the counter, by stages. -/

namespace Said

/-- The value that the counter was raised to. -/
def raised? : Said → Option UInt32
  | ⟨.nextCounter, given⟩ => Except.toOption given
  | _ => none

/-- What was found under a handle. -/
def found? : Said → Option (Option TokenKey)
  | ⟨.key _, given⟩ => Except.toOption given
  | _ => none

/-- The key that was stored. -/
def kept? : Said → Option TokenKey
  | ⟨.keepKey _ key, _⟩ => some key
  | _ => none

end Said

/-- What a value of the counter is spent on: a signature, or a user who was missed. -/
inductive Spends (token : Token) (request : Raw.AuthenticationRequest) (key : TokenKey)
    (counter : UInt32) : Except Failure Raw.AuthenticationResponse → Prop
  | signed (presence : Raw.Presence) :
      Spends token request key counter
        (.ok (token.authenticationOf request key presence counter))
  | denied : request.control = .enforcePresence →
      Spends token request key counter (.error .presenceDenied)

namespace Signing

variable {key : TokenKey}

/-- Nothing is looked up any more. -/
theorem eq_of_found (hsigning : Signing token request key history rest) {handle : Bytes}
    {found : Option TokenKey}
    (hfound : found ∈ (Said.looked handle (.ok (some key)) :: history).filterMap Said.found?) :
    found = some key := by
  have hnone : history.filterMap Said.found? = [] := by
    cases hsigning <;> rfl
  change found ∈ some key :: List.filterMap Said.found? _ at hfound
  rw [hnone] at hfound
  exact List.mem_singleton.1 hfound

/-- A signature that has ended spent a value, unless the store had none for it. -/
theorem spends_or_fails {result : Except Failure Raw.AuthenticationResponse}
    (hsigning : Signing token request key history (.ofExcept result))
    (hcontrol : request.control ≠ .checkOnly) :
    (∃ counter, history.filterMap Said.raised? = [counter] ∧
        Spends token request key counter result) ∨
      ∃ failure, history = [.counted (.error failure)] ∧ result = .error failure := by
  generalize hend : Dialogue.ofExcept result = rest at hsigning
  cases hsigning with
  | checked hcheck => exact absurd hcheck hcontrol
  | begun => cases result <;> cases hend
  | counted => cases result <;> cases hend
  | uncounted failure _ =>
      obtain rfl : result = .error failure := Dialogue.ofExcept_injective hend
      exact Or.inr ⟨failure, rfl, rfl⟩
  | denied counter presence henforced _ =>
      obtain rfl : result = .error .presenceDenied := Dialogue.ofExcept_injective hend
      exact Or.inl ⟨counter, rfl, .denied henforced⟩
  | signed counter presence _ =>
      obtain rfl : result = .ok (token.authenticationOf request key presence counter) :=
        Dialogue.ofExcept_injective hend
      exact Or.inl ⟨counter, rfl, .signed presence⟩

end Signing

namespace Stage

theorem length_le (hstage : Stage token request history rest) : history.length ≤ 3 := by
  cases hstage with
  | found key _ hsigning => cases hsigning <;> exact Nat.le_of_ble_eq_true rfl
  | _ => exact Nat.le_of_ble_eq_true rfl

theorem length_raised_le (hstage : Stage token request history rest) :
    (history.filterMap Said.raised?).length ≤ 1 := by
  cases hstage with
  | found key _ hsigning => cases hsigning <;> exact Nat.le_of_ble_eq_true rfl
  | _ => exact Nat.zero_le 1

theorem not_kept (hstage : Stage token request history rest) :
    history.filterMap Said.kept? = [] := by
  cases hstage with
  | found key _ hsigning => cases hsigning <;> rfl
  | _ => rfl

/-- An authentication has ended, or asks what is always answered. -/
theorem ends_or_asks (hstage : Stage token request history rest) :
    (∃ result, rest = .ofExcept result) ∨
      ∃ inquiry next, rest = .ask inquiry next ∧ inquiry ≠ .newKeyPair := by
  cases hstage with
  | start next => exact Or.inr ⟨.key request.keyHandle, next, rfl, by simp⟩
  | unread failure => exact Or.inl ⟨.error failure, rfl⟩
  | unknown found next _ =>
      exact Or.inr ⟨.warn (.unknownKeyHandle request.keyHandle), next, rfl, by simp⟩
  | refused found _ => exact Or.inl ⟨.error .unknownKeyHandle, rfl⟩
  | found key _ hsigning =>
      cases hsigning with
      | checked _ => exact Or.inl ⟨.error .presenceTestRequired, rfl⟩
      | begun next _ => exact Or.inr ⟨.nextCounter, next, rfl, by simp⟩
      | uncounted failure _ => exact Or.inl ⟨.error failure, rfl⟩
      | counted counter next _ =>
          exact Or.inr ⟨.presence .authentication request.application, next, rfl, by simp⟩
      | denied counter presence _ _ => exact Or.inl ⟨.error .presenceDenied, rfl⟩
      | signed counter presence _ =>
          exact Or.inl ⟨.ok (token.authenticationOf request key presence counter), rfl⟩

/-- A response carries the value that the counter was raised to. -/
theorem raised_of_done {response : Raw.AuthenticationResponse}
    (hstage : Stage token request history (.done response)) :
    history.filterMap Said.raised? = [response.counter] := by
  cases hstage with
  | found key _ hsigning =>
      cases hsigning with
      | signed counter presence _ => rfl

/-- A mere check asks nothing of the counter. -/
theorem not_raised_of_checkOnly (hstage : Stage token request history rest)
    (hcontrol : request.control = .checkOnly) : history.filterMap Said.raised? = [] := by
  cases hstage with
  | found key _ hsigning =>
      cases hsigning with
      | denied counter presence henforced _ =>
          rw [hcontrol] at henforced
          contradiction
      | signed counter presence hmore => exact absurd hcontrol hmore
      | counted counter next hmore => exact absurd hcontrol hmore
      | _ => rfl
  | _ => rfl

theorem not_raised_of_unknown (hstage : Stage token request history rest)
    {found : Option TokenKey} (hfound : found ∈ history.filterMap Said.found?)
    (hunknown : (found.filter fun key => key.application = request.application) = none) :
    history.filterMap Said.raised? = [] := by
  cases hstage with
  | found key happlication hsigning =>
      obtain rfl := hsigning.eq_of_found hfound
      simp [happlication] at hunknown
  | _ => rfl

variable {result : Except Failure Raw.AuthenticationResponse}

/-- No authentication ends before its handle is looked up. -/
theorem exists_looked (hstage : Stage token request history (.ofExcept result)) :
    ∃ given, .looked request.keyHandle given ∈ history := by
  generalize hend : Dialogue.ofExcept result = rest at hstage
  cases hstage with
  | start next => cases result <;> cases hend
  | _ => exact ⟨_, List.mem_cons_self⟩

/-- An unknown handle is reported. -/
theorem eq_of_unknown (hstage : Stage token request history (.ofExcept result))
    {found : Option TokenKey} (hfound : found ∈ history.filterMap Said.found?)
    (hunknown : (found.filter fun key => key.application = request.application) = none) :
    result = .error .unknownKeyHandle := by
  generalize hend : Dialogue.ofExcept result = rest at hstage
  cases hstage with
  | start => cases hfound
  | unread => cases hfound
  | unknown => cases result <;> cases hend
  | refused => exact Dialogue.ofExcept_injective hend
  | found key happlication hsigning =>
      obtain rfl := hsigning.eq_of_found hfound
      simp [happlication] at hunknown

/-- A known key that was to sign spent a value, unless the store had none for it. -/
theorem spends_or_fails (hstage : Stage token request history (.ofExcept result))
    {key : TokenKey} (hfound : some key ∈ history.filterMap Said.found?)
    (happlication : key.application = request.application)
    (hcontrol : request.control ≠ .checkOnly) :
    (∃ counter, history.filterMap Said.raised? = [counter] ∧
        Spends token request key counter result) ∨
      ∃ failure, history.filterMap Said.raised? = [] ∧ .counted (.error failure) ∈ history ∧
        result = .error failure := by
  generalize hend : Dialogue.ofExcept result = rest at hstage
  cases hstage with
  | start => cases hfound
  | unread => cases hfound
  | unknown => cases result <;> cases hend
  | refused found hunknown =>
      obtain rfl := List.mem_singleton.1 hfound
      simp [happlication] at hunknown
  | found signer _ hsigning =>
      obtain rfl := Option.some.inj (hsigning.eq_of_found hfound)
      subst hend
      rcases hsigning.spends_or_fails hcontrol with ⟨counter, hraised, hspends⟩ |
        ⟨failure, rfl, hfailed⟩
      · exact Or.inl ⟨counter, hraised, hspends⟩
      · exact Or.inr ⟨failure, rfl, by simp, hfailed⟩

end Stage

end SecondFactor.Token
