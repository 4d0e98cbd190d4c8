import Mathlib.Data.List.Forall2
import SecondFactor.Proofs.RelyingParty.Verdict
import SecondFactor.Proofs.Table

/-!
The sessions that requests open. Every request has an id of its own that no session had before, and
its session holds what the request says, `ends_requestRegistration` and `ends_requestSignatures`.
-/

namespace SecondFactor

theorem Tape.exists_block_of_drawUntil {n attempts : Nat} {α : Type}
    {accept : Block n → Option α} {tape rest : Tape} {value : α}
    (hdraw : Tape.drawUntil n accept attempts tape = some (value, rest)) :
    ∃ block, accept block = some value := by
  induction attempts generalizing tape with
  | zero => cases hdraw
  | succ attempts ih =>
      rw [Tape.drawUntil] at hdraw
      obtain ⟨⟨block, tail⟩, _, hdraw⟩ := Option.bind_eq_some_iff.1 hdraw
      cases haccept : accept block with
      | none =>
          simp only [haccept] at hdraw
          exact ih hdraw
      | some given =>
          simp only [haccept] at hdraw
          cases hdraw
          exact ⟨block, haccept⟩

namespace AccountStore

theorem session?_eq_none_of_drawId {store : AccountStore} {tape rest : Tape} {id : String}
    (hdraw : store.drawId tape = some (id, rest)) : store.session? id = none := by
  obtain ⟨block, haccept⟩ := Tape.exists_block_of_drawUntil hdraw
  split at haccept
  · cases haccept
  · rename_i hcontains
    cases haccept
    simpa [Table.contains, session?] using hcontains

/-- A session that is opened under a new id and closed leaves nothing behind. -/
theorem closeSession_openSession {store : AccountStore} {id : String} (session : Web.Session)
    (hnone : store.session? id = none) :
    (store.openSession id session).closeSession id = store := by
  rw [openSession, closeSession, Table.erase_insert_of_get?_eq_none session hnone]

/-- Ids that no session has, each given once. -/
def Fresh (store : AccountStore) (ids : List String) : Prop :=
  ids.Nodup ∧ ∀ id ∈ ids, store.session? id = none

/-- Opens sessions one after the other, each under its id. -/
def openAll (store : AccountStore) : List (String × Web.Session) → AccountStore
  | [] => store
  | (id, session) :: rest => (store.openSession id session).openAll rest

theorem Fresh.cons {store : AccountStore} {id : String} {session : Web.Session}
    {ids : List String} (hid : store.session? id = none)
    (hids : (store.openSession id session).Fresh ids) : store.Fresh (id :: ids) := by
  have hother : ∀ other ∈ ids, other ≠ id ∧ store.session? other = none := by
    intro other hmem
    have hnone := hids.2 other hmem
    rw [session?_openSession] at hnone
    split at hnone
    · cases hnone
    · rename_i hne
      exact ⟨hne, hnone⟩
  refine ⟨List.nodup_cons.2 ⟨fun hmem => (hother id hmem).1 rfl, hids.1⟩, ?_⟩
  intro other hmem
  rcases List.mem_cons.1 hmem with rfl | hmem
  · exact hid
  · exact (hother other hmem).2

@[simp] theorem keys_openAll (store : AccountStore) (issued : List (String × Web.Session))
    (account : String) : (store.openAll issued).keys account = store.keys account := by
  induction issued generalizing store with
  | nil => rfl
  | cons issue rest ih => exact ih _

theorem session?_openAll {store : AccountStore} {issued : List (String × Web.Session)}
    (hnodup : (issued.map Prod.fst).Nodup) (id : String) (session : Web.Session) :
    (store.openAll issued).session? id = some session ↔
      (id, session) ∈ issued ∨
        id ∉ issued.map Prod.fst ∧ store.session? id = some session := by
  induction issued generalizing store with
  | nil => simp [openAll]
  | cons issue rest ih =>
      obtain ⟨first, opened⟩ := issue
      rw [List.map_cons, List.nodup_cons] at hnodup
      rw [openAll, ih hnodup.2, session?_openSession]
      by_cases hid : id = first
      · subst hid
        have hrest : (id, session) ∉ rest := fun hmem =>
          hnodup.1 (List.mem_map.2 ⟨_, hmem, rfl⟩)
        simp only [hrest, hnodup.1, not_false_eq_true, if_true, true_and, false_or,
          Option.some.injEq, List.mem_cons, Prod.mk.injEq, List.map_cons, not_true,
          false_and, or_false]
        exact eq_comm
      · simp [hid]

end AccountStore

namespace RelyingParty

/-- The operation can end in the result and leave the second store for the first, with some
challenge and some random bytes. -/
def Talk.Ends {α : Type} (talk : Talk α) (before : AccountStore) (result : Except Failure α)
    (after : AccountStore) : Prop :=
  ∃ source around, talk.outcome source around before = some (result, after)

theorem Talk.Ends.run {α : Type} {talk : Talk α} {before after : AccountStore}
    {result : Except Failure α} (hends : talk.Ends before result after) :
    ∃ source around left,
      talk.run (Memory.answer source) (before, around) = some (result, after, left) := by
  obtain ⟨source, around, houtcome⟩ := hends
  obtain ⟨⟨_, _, left⟩, hrun, heq⟩ := Option.map_eq_some_iff.1 houtcome
  cases heq
  exact ⟨source, around, left, hrun⟩

theorem Talk.ends_of_run {α : Type} {talk : Talk α} {source : ChallengeSource}
    {before after : AccountStore} {around left : Surroundings} {result : Except Failure α}
    (hrun : talk.run (Memory.answer source) (before, around) = some (result, after, left)) :
    talk.Ends before result after := by
  refine ⟨source, around, ?_⟩
  rw [outcome, hrun]
  rfl

theorem run_storeSession (source : ChallengeSource) (store : AccountStore)
    (around : Surroundings) (session : Web.Session) :
    (Talk.storeSession session).run (Memory.answer source) (store, around) =
      (store.drawId around.tape).bind fun (id, tape) =>
        some (.ok id, store.openSession id session, { around with tape := tape }) := by
  simp only [Talk.storeSession, Dialogue.run, Memory.answer, Memory.storeSession, Effect.draw,
    bind, StateT.bind]
  cases store.drawId around.tape <;> rfl

theorem run_challenge (source : ChallengeSource) (store : AccountStore)
    (around : Surroundings) (account : String) :
    (Talk.challenge account).run (Memory.answer source) (store, around) =
      (Memory.challenge source account around.tape).bind fun (challenge, tape) =>
        some (.ok challenge, store, { around with tape := tape }) := by
  simp only [Talk.challenge, Dialogue.run, Memory.answer, Effect.draw, bind, StateT.bind]
  cases Memory.challenge source account around.tape <;> rfl

/-- A session is opened under an id that no session had. -/
theorem storeSession_eq_some {source : ChallengeSource} {before after : AccountStore}
    {around left : Surroundings} {session : Web.Session} {result : Except Failure String}
    (hrun : (Talk.storeSession session).run (Memory.answer source) (before, around) =
      some (result, after, left)) :
    ∃ id, result = .ok id ∧ before.session? id = none ∧
      after = before.openSession id session := by
  rw [run_storeSession] at hrun
  obtain ⟨⟨id, tape⟩, hdraw, heq⟩ := Option.bind_eq_some_iff.1 hrun
  cases heq
  exact ⟨id, rfl, AccountStore.session?_eq_none_of_drawId hdraw, rfl⟩

theorem challenge_eq_some {source : ChallengeSource} {before after : AccountStore}
    {around left : Surroundings} {account : String} {result : Except Failure Bytes}
    (hrun : (Talk.challenge account).run (Memory.answer source) (before, around) =
      some (result, after, left)) : ∃ challenge, result = .ok challenge ∧ after = before := by
  rw [run_challenge] at hrun
  obtain ⟨⟨challenge, tape⟩, _, heq⟩ := Option.bind_eq_some_iff.1 hrun
  cases heq
  exact ⟨challenge, rfl, rfl⟩

theorem run_requestRegistration {source : ChallengeSource} {store : AccountStore}
    {around : Surroundings} {account id : String} {challenge : Bytes} {tape rest : Tape}
    (hchallenge : Memory.challenge source account around.tape = some (challenge, tape))
    (hid : store.drawId tape = some (id, rest)) (appId : String) :
    (requestRegistration account appId).run (Memory.answer source) (store, around) =
      some (.ok ⟨Raw.protocolVersion, challenge, appId, id⟩,
        store.openSession id ⟨account, appId, challenge, .enrol⟩,
        { around with tape := rest }) := by
  have hasked := run_challenge source store around account
  rw [hchallenge, Option.bind_some] at hasked
  have hstored := run_storeSession source store { around with tape := tape }
    ⟨account, appId, challenge, .enrol⟩
  rw [hid, Option.bind_some] at hstored
  unfold requestRegistration
  rw [Dialogue.run_bind_of_ok hasked, Dialogue.run_bind_of_ok hstored]
  rfl

/-- The session that a registration request opens. -/
def registrationSession (account appId : String) (request : Web.RegisterRequest) : Web.Session :=
  ⟨account, appId, request.challenge, .enrol⟩

theorem ends_requestRegistration {account appId : String} {before after : AccountStore}
    {result : Except Failure Web.RegisterRequest}
    (hends : (requestRegistration account appId).Ends before result after) :
    ∃ request, result = .ok request ∧ request.version = Raw.protocolVersion ∧
      request.appId = appId ∧ before.session? request.sessionId = none ∧
      after = before.openSession request.sessionId (registrationSession account appId request) := by
  obtain ⟨source, around, left, hrun⟩ := hends.run
  rcases Dialogue.run_bind_eq_some hrun with
    ⟨challenge, ⟨_, _⟩, hchallenge, hrest⟩ | ⟨failure, hchallenge, _⟩
  · obtain ⟨_, _, rfl⟩ := challenge_eq_some hchallenge
    rcases Dialogue.run_bind_eq_some hrest with
      ⟨id, ⟨_, _⟩, hstore, hdone⟩ | ⟨failure, hstore, _⟩
    · obtain ⟨_, hid, hfresh, rfl⟩ := storeSession_eq_some hstore
      cases hid
      cases hdone
      exact ⟨_, rfl, rfl, rfl, hfresh, rfl⟩
    · obtain ⟨_, heq, _⟩ := storeSession_eq_some hstore
      cases heq
  · obtain ⟨_, heq, _⟩ := challenge_eq_some hchallenge
    cases heq

/-- The sessions that signature requests open, one for each record. -/
def signatureSessions (account appId : String) (keys : List Web.Enrolment)
    (requests : List Web.SignRequest) : List (String × Web.Session) :=
  List.zipWith (fun key request => (request.sessionId,
    ⟨account, appId, request.challenge, .sign key.publicKey⟩)) keys requests

/-- A request asks for a signature of the record's key. -/
def RequestsKey (appId : String) (challenge : Bytes) (key : Web.Enrolment)
    (request : Web.SignRequest) : Prop :=
  request.version = Raw.protocolVersion ∧ request.challenge = challenge ∧
    request.appId = appId ∧ request.keyHandle = key.keyHandle

theorem requestEach_eq_some {source : ChallengeSource} {account appId : String}
    {challenge : Bytes} {keys : List Web.Enrolment} {before after : AccountStore}
    {around left : Surroundings} {result : Except Failure (List Web.SignRequest)}
    (hrun : (requestEach account appId challenge keys).run (Memory.answer source)
      (before, around) = some (result, after, left)) :
    ∃ requests, result = .ok requests ∧
      List.Forall₂ (RequestsKey appId challenge) keys requests ∧
      before.Fresh (requests.map Web.SignRequest.sessionId) ∧
      after = before.openAll (signatureSessions account appId keys requests) := by
  induction keys generalizing before after around left result with
  | nil =>
      cases hrun
      exact ⟨[], rfl, .nil, ⟨List.nodup_nil, by simp⟩, rfl⟩
  | cons key rest ih =>
      rcases Dialogue.run_bind_eq_some hrun with
        ⟨id, ⟨_, _⟩, hstore, hrest⟩ | ⟨failure, hstore, _⟩
      · obtain ⟨_, hid, hfresh, rfl⟩ := storeSession_eq_some hstore
        cases hid
        rcases Dialogue.run_bind_eq_some hrest with
          ⟨requests, ⟨_, _⟩, heach, hdone⟩ | ⟨failure, heach, _⟩
        · obtain ⟨_, hrequests, hall, hids, rfl⟩ := ih heach
          cases hrequests
          cases hdone
          exact ⟨_, rfl, .cons ⟨rfl, rfl, rfl, rfl⟩ hall, hids.cons hfresh, rfl⟩
        · obtain ⟨_, heq, _⟩ := ih heach
          cases heq
      · obtain ⟨_, heq, _⟩ := storeSession_eq_some hstore
        cases heq

theorem run_requestSignatures_of_nil (source : ChallengeSource) {store : AccountStore}
    (around : Surroundings) {account : String} (hkeys : store.keys account = [])
    (appId : String) :
    (requestSignatures account appId).run (Memory.answer source) (store, around) =
      some (.error .noRegisteredKeys, store, around) := by
  have hread : (Talk.keys account).run (Memory.answer source) (store, around) =
      some (.ok [], store, around) := by
    rw [← hkeys]
    rfl
  unfold requestSignatures
  rw [Dialogue.run_bind_of_ok hread]
  rfl

/-- Where there are keys, a challenge is drawn, and then one id for each of them. -/
theorem run_requestSignatures_of_ne_nil (source : ChallengeSource) {store : AccountStore}
    (around : Surroundings) {account : String} (hkeys : store.keys account ≠ [])
    (appId : String) :
    (requestSignatures account appId).run (Memory.answer source) (store, around) =
      (Memory.challenge source account around.tape).bind fun (challenge, tape) =>
        (requestEach account appId challenge (store.keys account)).run (Memory.answer source)
          (store, { around with tape := tape }) := by
  have hread : (Talk.keys account).run (Memory.answer source) (store, around) =
      some (.ok (store.keys account), store, around) := rfl
  unfold requestSignatures
  rw [Dialogue.run_bind_of_ok hread]
  simp only [List.isEmpty_eq_false_iff.2 hkeys, Bool.false_eq_true, if_false]
  refine (Dialogue.run_bind _ _ _).trans ?_
  rw [run_challenge]
  cases Memory.challenge source account around.tape <;> rfl

theorem ends_requestSignatures {account appId : String} {before after : AccountStore}
    {result : Except Failure (List Web.SignRequest)}
    (hends : (requestSignatures account appId).Ends before result after) :
    (before.keys account = [] ∧ result = .error .noRegisteredKeys ∧ after = before) ∨
      ∃ challenge requests, before.keys account ≠ [] ∧ result = .ok requests ∧
        List.Forall₂ (RequestsKey appId challenge) (before.keys account) requests ∧
        before.Fresh (requests.map Web.SignRequest.sessionId) ∧
        after =
          before.openAll (signatureSessions account appId (before.keys account) requests) := by
  obtain ⟨source, around, left, hrun⟩ := hends.run
  by_cases hkeys : before.keys account = []
  · rw [run_requestSignatures_of_nil source around hkeys] at hrun
    cases hrun
    exact Or.inl ⟨hkeys, rfl, rfl⟩
  · rw [run_requestSignatures_of_ne_nil source around hkeys] at hrun
    obtain ⟨⟨challenge, tape⟩, _, hrest⟩ := Option.bind_eq_some_iff.1 hrun
    obtain ⟨requests, hresult, hall, hids, hafter⟩ := requestEach_eq_some hrest
    exact Or.inr ⟨challenge, requests, hkeys, hresult, hall, hids, hafter⟩

end RelyingParty

end SecondFactor
