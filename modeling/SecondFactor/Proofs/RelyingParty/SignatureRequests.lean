import SecondFactor.Proofs.RelyingParty.Sessions

/-!
Requests for signatures. An account is asked once for each of its records, each time under an id
that is new, `signatures_requested`. The ids are the unused ones of those that are drawn, whatever
is drawn; other sessions stay as they are.
-/

namespace SecondFactor

namespace Tape

/-- A tape of blocks of one length. -/
def ofBlocks {n : Nat} (blocks : List (Block n)) : Tape :=
  blocks.flatMap Subtype.val

variable {n : Nat} {α : Type}

theorem draw_ofBlocks_cons (block : Block n) (blocks : List (Block n)) (rest : Tape) :
    draw n (ofBlocks (block :: blocks) ++ rest) = some (block, ofBlocks blocks ++ rest) := by
  rw [ofBlocks, List.flatMap_cons, List.append_assoc]
  exact splitBlock?_append block _

theorem length_le_length_ofBlocks (hn : 0 < n) (blocks : List (Block n)) :
    blocks.length ≤ (ofBlocks blocks).length := by
  induction blocks with
  | nil => exact Nat.le_refl 0
  | cons block blocks ih =>
      have hblock := block.property
      rw [ofBlocks, List.flatMap_cons, List.length_append, ← ofBlocks, List.length_cons]
      omega

/-- What is drawn is the first block that is accepted. -/
theorem drawUntil_ofBlocks {accept : Block n → Option α} {skipped later : List (Block n)}
    {block : Block n} {value : α} (hskipped : ∀ other ∈ skipped, accept other = none)
    (haccept : accept block = some value) (rest : Tape) {attempts : Nat}
    (henough : skipped.length < attempts) :
    drawUntil n accept attempts (ofBlocks (skipped ++ block :: later) ++ rest) =
      some (value, ofBlocks later ++ rest) := by
  induction skipped generalizing attempts with
  | nil =>
      obtain ⟨attempts, rfl⟩ := Nat.exists_eq_add_one_of_ne_zero (Nat.ne_of_gt henough)
      rw [List.nil_append, drawUntil, draw_ofBlocks_cons]
      simp only [bind, Option.bind, haccept]
      rfl
  | cons other skipped ih =>
      obtain ⟨attempts, rfl⟩ :=
        Nat.exists_eq_add_one_of_ne_zero (Nat.ne_of_gt (Nat.zero_lt_of_lt henough))
      rw [List.cons_append, drawUntil, draw_ofBlocks_cons]
      simp only [bind, Option.bind, hskipped other List.mem_cons_self]
      exact ih (fun given hmem => hskipped given (List.mem_cons_of_mem _ hmem))
        (Nat.lt_of_succ_lt_succ henough)

theorem drawFirst_ofBlocks (hn : 0 < n) {accept : Block n → Option α}
    {skipped later : List (Block n)} {block : Block n} {value : α}
    (hskipped : ∀ other ∈ skipped, accept other = none) (haccept : accept block = some value)
    (rest : Tape) :
    drawFirst n accept (ofBlocks (skipped ++ block :: later) ++ rest) =
      some (value, ofBlocks later ++ rest) := by
  refine drawUntil_ofBlocks hskipped haccept rest ?_
  have hlength := length_le_length_ofBlocks hn (skipped ++ block :: later)
  rw [List.length_append, List.length_cons] at hlength
  rw [List.length_append]
  omega

end Tape

namespace AccountStore

/-- Those of some ids that no session has, each in the place where it comes first. -/
def unusedIds (store : AccountStore) (drawn : List String) : List String :=
  (drawn.filter fun id => (store.session? id).isNone).eraseDups

theorem unusedIds_cons_of_used {store : AccountStore} {id : String} (drawn : List String)
    (hused : store.session? id ≠ none) : store.unusedIds (id :: drawn) = store.unusedIds drawn := by
  rw [unusedIds, List.filter_cons_of_neg (by simpa using hused), unusedIds]

/-- An id is not drawn again once a session is opened under it. -/
theorem unusedIds_cons_of_unused {store : AccountStore} {id : String} (drawn : List String)
    (hunused : store.session? id = none) (session : Web.Session) :
    store.unusedIds (id :: drawn) = id :: (store.openSession id session).unusedIds drawn := by
  rw [unusedIds, List.filter_cons_of_pos (by simp [hunused]), List.eraseDups_cons, unusedIds,
    List.filter_filter]
  congr 3
  funext other
  rw [session?_openSession]
  by_cases hother : other = id <;> simp [hother]

/-- Of some blocks, those before the first unused id are of ids in use. The other unused ids are
left behind it. -/
theorem exists_first_unused {store : AccountStore} {blocks : List (Block 16)} {id : String}
    {ids : List String} (hunused : store.unusedIds (blocks.map idOf) = id :: ids)
    (session : Web.Session) :
    ∃ skipped block later, blocks = skipped ++ block :: later ∧
      (∀ other ∈ skipped, store.session? (idOf other) ≠ none) ∧ idOf block = id ∧
      store.session? id = none ∧
      (store.openSession id session).unusedIds (later.map idOf) = ids := by
  induction blocks with
  | nil => cases hunused
  | cons block blocks ih =>
      rw [List.map_cons] at hunused
      cases hfree : store.session? (idOf block) with
      | none =>
          rw [unusedIds_cons_of_unused _ hfree session] at hunused
          obtain ⟨rfl, hids⟩ := List.cons.inj hunused
          exact ⟨[], block, blocks, rfl, by simp, rfl, hfree, hids⟩
      | some used =>
          have hused : store.session? (idOf block) ≠ none := by simp [hfree]
          rw [unusedIds_cons_of_used _ hused] at hunused
          obtain ⟨skipped, first, later, rfl, hskipped, hrest⟩ := ih hunused
          exact ⟨block :: skipped, first, later, rfl, List.forall_mem_cons.2 ⟨hused, hskipped⟩,
            hrest⟩

theorem exists_drawId {store : AccountStore} {blocks : List (Block 16)} {id : String}
    {ids : List String} (hunused : store.unusedIds (blocks.map idOf) = id :: ids) (rest : Tape)
    (session : Web.Session) :
    ∃ later, store.drawId (Tape.ofBlocks blocks ++ rest) = some (id, Tape.ofBlocks later ++ rest) ∧
      (store.openSession id session).unusedIds (later.map idOf) = ids := by
  obtain ⟨skipped, block, later, rfl, hskipped, rfl, hfree, hids⟩ :=
    exists_first_unused hunused session
  refine ⟨later, Tape.drawFirst_ofBlocks (by decide) (fun other hmem => ?_) ?_ rest, hids⟩
  · have hused := Option.isSome_iff_ne_none.2 (hskipped other hmem)
    exact if_pos hused
  · refine if_neg ?_
    rw [Table.contains, ← session?, hfree]
    decide

end AccountStore

namespace RelyingParty

variable {store after : AccountStore} {account appId : String} {challenge : Bytes}
  {keys : List Web.Enrolment} {requests : List Web.SignRequest}

/-- An account is asked for a signature by each of its records, in their order, with one challenge.
Each request is under an id that no session had, and a session waits there for the key of the
record. All other sessions, and all records, are as they were. -/
structure Requested (store : AccountStore) (account appId : String) (challenge : Bytes)
    (requests : List Web.SignRequest) (after : AccountStore) : Prop where
  each : List.Forall₂ (RequestsKey appId challenge) (store.keys account) requests
  fresh : store.Fresh (requests.map Web.SignRequest.sessionId)
  opened : List.Forall₂ (fun key request => after.session? request.sessionId =
    some ⟨account, appId, challenge, .sign key.publicKey⟩) (store.keys account) requests
  others : ∀ id, id ∉ requests.map Web.SignRequest.sessionId →
    after.session? id = store.session? id
  pending : after.pending = store.pending + requests.length
  keys : ∀ holder, after.keys holder = store.keys holder

theorem forall₂_mem_signatureSessions (account : String)
    (hall : List.Forall₂ (RequestsKey appId challenge) keys requests) :
    List.Forall₂ (fun key request => (request.sessionId,
      ⟨account, appId, challenge, .sign key.publicKey⟩) ∈
        signatureSessions account appId keys requests) keys requests := by
  induction hall with
  | nil => exact .nil
  | cons hasks _ ih =>
      obtain ⟨_, rfl, _, _⟩ := hasks
      exact .cons List.mem_cons_self (ih.imp fun _ _ hmem => List.mem_cons_of_mem _ hmem)

theorem length_signatureSessions (account : String)
    (hall : List.Forall₂ (RequestsKey appId challenge) keys requests) :
    (signatureSessions account appId keys requests).length = requests.length := by
  rw [← List.length_map Prod.fst, map_fst_signatureSessions account appId hall, List.length_map]

theorem requested_openAll
    (hall : List.Forall₂ (RequestsKey appId challenge) (store.keys account) requests)
    (hfresh : store.Fresh (requests.map Web.SignRequest.sessionId)) :
    Requested store account appId challenge requests
      (store.openAll (signatureSessions account appId (store.keys account) requests)) := by
  have hids := map_fst_signatureSessions account appId hall
  have hissued : store.Fresh
      ((signatureSessions account appId (store.keys account) requests).map Prod.fst) := by
    rwa [hids]
  exact {
    each := hall
    fresh := hfresh
    opened := (forall₂_mem_signatureSessions account hall).imp fun key request hmem =>
      (AccountStore.session?_openAll hissued.1 _ _).2 (.inl hmem)
    others := by
      intro id hother
      refine Option.ext fun session => (AccountStore.session?_openAll hissued.1 id session).trans ?_
      rw [hids]
      constructor
      · rintro (hmem | ⟨_, hsession⟩)
        · exact absurd (hids ▸ List.mem_map.2 ⟨_, hmem, rfl⟩) hother
        · exact hsession
      · exact fun hsession => .inr ⟨hother, hsession⟩
    pending := by rw [pending_openAll hissued, length_signatureSessions account hall]
    keys := AccountStore.keys_openAll store _ }

/-- The ids are the first unused ones, one for each record. -/
theorem exists_run_requestEach (source : ChallengeSource) (account appId : String)
    (challenge : Bytes) {keys : List Web.Enrolment} {store : AccountStore}
    {blocks : List (Block 16)} {around : Surroundings} {rest : Tape}
    (htape : around.tape = Tape.ofBlocks blocks ++ rest)
    (henough : keys.length ≤ (store.unusedIds (blocks.map AccountStore.idOf)).length) :
    ∃ requests after left,
      (requestEach account appId challenge keys).run (Memory.answer source) (store, around) =
        some (.ok requests, after, left) ∧
      requests.map Web.SignRequest.sessionId =
        (store.unusedIds (blocks.map AccountStore.idOf)).take keys.length := by
  induction keys generalizing store blocks around with
  | nil => exact ⟨[], store, around, rfl, by simp⟩
  | cons key keys ih =>
      obtain ⟨id, ids, hunused⟩ := List.exists_cons_of_length_pos
        (Nat.lt_of_lt_of_le (Nat.succ_pos _) henough)
      obtain ⟨later, hdraw, hids⟩ := AccountStore.exists_drawId hunused rest
        ⟨account, appId, challenge, .sign key.publicKey⟩
      rw [← htape] at hdraw
      rw [hunused, List.length_cons, List.length_cons, Nat.succ_le_succ_iff, ← hids] at henough
      obtain ⟨requests, after, left, hrun, hrequests⟩ :=
        @ih _ later { around with tape := Tape.ofBlocks later ++ rest } rfl henough
      have hstored := run_storeSession source store around
        ⟨account, appId, challenge, .sign key.publicKey⟩
      rw [hdraw, Option.bind_some] at hstored
      refine ⟨⟨Raw.protocolVersion, challenge, appId, key.keyHandle, id⟩ :: requests, after, left,
        ?_, ?_⟩
      · rw [requestEach, Dialogue.run_bind_of_ok hstored, Dialogue.run_bind_of_ok hrun]
        rfl
      · rw [List.map_cons, hrequests, hunused, hids, List.length_cons, List.take_succ_cons]

theorem exists_requested_of_outcome {source : ChallengeSource} {around : Surroundings}
    {result : Except Failure (List Web.SignRequest)} (hkeys : store.keys account ≠ [])
    (houtcome : (requestSignatures account appId).outcome source around store =
      some (result, after)) :
    ∃ challenge tape requests,
      Memory.challenge source account around.tape = some (challenge, tape) ∧
      result = .ok requests ∧ Requested store account appId challenge requests after := by
  obtain ⟨left, hrun⟩ := exists_run_of_outcome_eq houtcome
  rw [run_requestSignatures_of_ne_nil source around hkeys] at hrun
  obtain ⟨⟨challenge, tape⟩, hchallenge, heach⟩ := Option.bind_eq_some_iff.1 hrun
  obtain ⟨requests, hresult, hall, hfresh, hafter⟩ := requestEach_eq_some heach
  simp only at hafter
  subst hafter
  exact ⟨challenge, tape, requests, hchallenge, hresult, requested_openAll hall hfresh⟩

/-- An account without records is refused, and nothing changes. For any other, whatever is drawn,
all that a call can come to is one request for each record; and it comes to that where as many
unused ids are drawn, which are the ids of the requests. -/
theorem signatures_requested (store : AccountStore) (account appId : String)
    (source : ChallengeSource) (around : Surroundings) :
    (store.keys account = [] → (requestSignatures account appId).outcome source around store =
      some (.error .noRegisteredKeys, store)) ∧
    (store.keys account ≠ [] →
      (∀ result after,
        (requestSignatures account appId).outcome source around store = some (result, after) →
          ∃ challenge tape requests,
            Memory.challenge source account around.tape = some (challenge, tape) ∧
            result = .ok requests ∧ Requested store account appId challenge requests after) ∧
      ∀ challenge blocks rest, Memory.challenge source account around.tape =
          some (challenge, Tape.ofBlocks blocks ++ rest) →
        (store.keys account).length ≤ (store.unusedIds (blocks.map AccountStore.idOf)).length →
          ∃ requests after,
            (requestSignatures account appId).outcome source around store =
              some (.ok requests, after) ∧
            requests.map Web.SignRequest.sessionId =
              (store.unusedIds (blocks.map AccountStore.idOf)).take
                (store.keys account).length) := by
  refine ⟨fun hkeys => ?_, fun hkeys =>
    ⟨fun result after houtcome => exists_requested_of_outcome hkeys houtcome, ?_⟩⟩
  · exact outcome_eq_of_run ⟨around, run_requestSignatures_of_nil source around hkeys appId⟩
  · intro challenge blocks rest hchallenge henough
    obtain ⟨requests, after, left, heach, hids⟩ := @exists_run_requestEach source account appId
      challenge _ _ _ { around with tape := Tape.ofBlocks blocks ++ rest } _ rfl henough
    refine ⟨requests, after, outcome_eq_of_run ⟨left, ?_⟩, hids⟩
    rw [run_requestSignatures_of_ne_nil source around hkeys, hchallenge, Option.bind_some]
    exact heach

/-! Two keys of one account are asked for. Of the ids that are drawn, the first is in use, and the
third is the second again. -/

def sampleBlock (byte : UInt8) : Block 16 := ⟨List.replicate 16 byte, List.length_replicate⟩

def twoKeyStore : AccountStore :=
  ((AccountStore.empty.addKey "ann" ⟨[0], [1], [], 0, 0⟩).addKey "ann"
    ⟨[2], [3], [], 0, 0⟩).openSession (AccountStore.idOf (sampleBlock 0))
    ⟨"bob", "https://a.b", [], .enrol⟩

theorem signatures_requested_of_two_keys :
    ∃ requests after,
      (requestSignatures "ann" "https://a.b").outcome (.fixed fun _ => [7])
        (.ofTape (Tape.ofBlocks [sampleBlock 0, sampleBlock 1, sampleBlock 1, sampleBlock 2]))
        twoKeyStore = some (.ok requests, after) ∧
      requests.map Web.SignRequest.sessionId =
        [AccountStore.idOf (sampleBlock 1), AccountStore.idOf (sampleBlock 2)] ∧
      Requested twoKeyStore "ann" "https://a.b" [7] requests after ∧
      (requestSignatures "bob" "https://a.b").outcome .random (.ofTape []) twoKeyStore =
        some (.error .noRegisteredKeys, twoKeyStore) := by
  have hkeys : twoKeyStore.keys "ann" ≠ [] := by decide +kernel
  have hunused : twoKeyStore.unusedIds ([sampleBlock 0, sampleBlock 1, sampleBlock 1,
      sampleBlock 2].map AccountStore.idOf) =
      [AccountStore.idOf (sampleBlock 1), AccountStore.idOf (sampleBlock 2)] := by decide +kernel
  have hasked := (signatures_requested twoKeyStore "ann" "https://a.b" (.fixed fun _ => [7])
    (.ofTape (Tape.ofBlocks [sampleBlock 0, sampleBlock 1, sampleBlock 1, sampleBlock 2]))).2 hkeys
  obtain ⟨requests, after, houtcome, hids⟩ := hasked.2 [7]
    [sampleBlock 0, sampleBlock 1, sampleBlock 1, sampleBlock 2] [] (by rw [List.append_nil]; rfl)
    (by decide +kernel)
  obtain ⟨challenge, _, _, hchallenge, heq, hrequested⟩ := hasked.1 _ _ houtcome
  cases heq
  cases hchallenge
  refine ⟨requests, after, houtcome, ?_, hrequested, ?_⟩
  · rw [hids, hunused]
    decide +kernel
  · exact (signatures_requested twoKeyStore "bob" "https://a.b" .random (.ofTape [])).1
      (by decide +kernel)

end RelyingParty

end SecondFactor
