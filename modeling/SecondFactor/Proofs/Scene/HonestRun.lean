import SecondFactor.Proofs.Scene.Authentication
import SecondFactor.Proofs.Scene.Registration

/-!
Runs of honest visits, from empty accounts and empty rings on. The invariant, `Kept`, is that every
record is of a key that a token made, with a counter no greater than that of its ring, and that a
ring holds only what its tokens made. So a visit that uses a key never meets a failure which says
that something is wrong with it, `authenticate_of_honestRun`.
-/

namespace SecondFactor.Scene

open RelyingParty (ChallengeSource askedStore batchParty enrolmentAsked enrolmentResponse)

/-- Nothing happened yet. The tokens may have used up counters before. -/
structure Chronicle.Pristine (chronicle : Chronicle) : Prop where
  accounts : chronicle.scene.accounts = .empty
  rings : ∀ ring, (chronicle.scene.rings ring).keys = .empty
  calls : chronicle.calls = []

/-- A finished act: a visit with its result, or the removal of a key. -/
inductive Act where
  | register (visitor : Visitor) (account origin : String) (now : UInt64)
    (result : Except Failure Web.Enrolment)
  | authenticate (visitor : Visitor) (account origin : String)
    (result : Except Failure Web.Enrolment)
  | removeKey (account : String) (publicKey : Bytes) (result : Except Failure Bool)

/-- One act after the other. Every visitor is honest, and no two of them need have anything in
common but the party. -/
inductive Act.Step (party : RelyingParty) : Chronicle → Act → Chronicle → Prop
  | register {visitor : Visitor} {source : ChallengeSource} {account origin : String}
      {now : UInt64} {before after : Chronicle} {around left : Surroundings}
      {result : Except Failure Web.Enrolment} :
      visitor.Honest party origin →
      visitor.visit party source (visitor.client.register account origin now) (before, around) =
        some (result, after, left) →
        Step party before (.register visitor account origin now result) after
  | authenticate {visitor : Visitor} {source : ChallengeSource} {account origin : String}
      {before after : Chronicle} {around left : Surroundings}
      {result : Except Failure Web.Enrolment} :
      visitor.Honest party origin →
      visitor.visit party source (visitor.client.authenticate account origin) (before, around) =
        some (result, after, left) →
        Step party before (.authenticate visitor account origin result) after
  | removeKey {account : String} {publicKey : Bytes} {before : Chronicle}
      {accounts : AccountStore} {result : Except Failure Bool} :
      (RelyingParty.Event.removeKey account publicKey result).Leads party before.scene.accounts
        accounts →
        Step party before (.removeKey account publicKey result) (before.addParty
          ⟨before.scene.accounts, .removeKey account publicKey result, accounts⟩)

/-- What honest visits keep. -/
structure Kept (chronicle : Chronicle) : Prop where
  rings : ∀ ring handle key, (chronicle.scene.rings ring).key? handle = some key →
    ∃ making ∈ makings chronicle.calls,
      making.ring = ring ∧ making.handle = handle ∧ making.key = key
  records : ∀ account, ∀ record ∈ chronicle.scene.accounts.keys account,
    ∃ making ∈ makings chronicle.calls, making.handle = record.keyHandle ∧
      making.keyPair.publicKey.bytes = record.publicKey ∧
      record.counter.toNat ≤ (chronicle.scene.rings making.ring).counter.toNat
  distinct : ∀ account,
    ((chronicle.scene.accounts.keys account).map Web.Enrolment.publicKey).Nodup

variable {party : RelyingParty} {visitor : Visitor} {account origin : String} {now : UInt64}
  {source : ChallengeSource} {before after first last : Chronicle} {around left : Surroundings}
  {result : Except Failure Web.Enrolment} {act : Act} {acts : List Act}

/-! A change of one ring among all. -/

theorem key?_update_addKey {rings : Nat → KeyRing} {ring other : Nat} {handle given : Bytes}
    {key found : TokenKey}
    (hkey : (Function.update rings ring ((rings ring).addKey handle key) other).key? given =
      some found) :
    (other = ring ∧ given = handle ∧ found = key) ∨ (rings other).key? given = some found := by
  by_cases hother : other = ring
  · subst hother
    rw [Function.update_self, KeyRing.key?_addKey] at hkey
    split at hkey
    · rename_i hgiven
      exact Or.inl ⟨rfl, hgiven, (Option.some.inj hkey).symm⟩
    · exact Or.inr hkey
  · rw [Function.update_of_ne hother] at hkey
    exact Or.inr hkey

theorem counter_update_addKey (rings : Nat → KeyRing) (ring other : Nat) (handle : Bytes)
    (key : TokenKey) :
    (Function.update rings ring ((rings ring).addKey handle key) other).counter =
      (rings other).counter := by
  by_cases hother : other = ring
  · rw [hother, Function.update_self]
    rfl
  · rw [Function.update_of_ne hother]

theorem keys_update_counter (rings : Nat → KeyRing) (ring other : Nat) (counter : UInt32) :
    (Function.update rings ring { rings ring with counter } other).keys = (rings other).keys := by
  by_cases hother : other = ring
  · rw [hother, Function.update_self]
  · rw [Function.update_of_ne hother]

theorem counter_le_update {rings : Nat → KeyRing} {ring : Nat} {counter : UInt32}
    (hcounter : (rings ring).counter.toNat ≤ counter.toNat) (other : Nat) :
    (rings other).counter.toNat ≤
      (Function.update rings ring { rings ring with counter } other).counter.toNat := by
  by_cases hother : other = ring
  · rw [hother, Function.update_self]
    exact hcounter
  · rw [Function.update_of_ne hother]

theorem kept_of_pristine (hfirst : first.Pristine) : Kept first where
  rings ring handle key hkey := by
    rw [KeyRing.key?, hfirst.rings, Table.get?_empty] at hkey
    cases hkey
  records account record hrecord := by
    rw [hfirst.accounts] at hrecord
    cases hrecord
  distinct account := by
    rw [hfirst.accounts]
    exact List.nodup_nil

namespace Kept

/-- The record of a key that a token knows is the one that was made with it. -/
theorem exists_making (hkept : Kept before) (hsound : Sound party before.calls)
    {record : Web.Enrolment} {key : TokenKey}
    (hrecord : record ∈ before.scene.accounts.keys account)
    (hkey : visitor.keyFor? party origin before.scene record = some key) :
    ∃ making ∈ makings before.calls, making.ring = visitor.ring ∧ making.key = key ∧
      making.handle = record.keyHandle ∧
      making.keyPair.publicKey.bytes = record.publicKey ∧
      record.counter.toNat ≤ (before.scene.rings visitor.ring).counter.toNat := by
  obtain ⟨making, hmaking, hring, hhandle, hmade⟩ :=
    hkept.rings _ _ _ (KeyRing.keyFor?_eq_some_iff.1 hkey).1
  obtain ⟨other, hother, hsame, hpublicKey, hcounter⟩ := hkept.records account record hrecord
  obtain rfl := hsound.eq_of_handle_eq hmaking hother (hhandle.trans hsame.symm)
  rw [hring] at hcounter
  exact ⟨making, hmaking, hring, hmade, hhandle, hpublicKey, hcounter⟩

theorem agrees (hkept : Kept before) (hsound : Sound party before.calls) :
    visitor.Agrees party account origin before.scene where
  distinct := hkept.distinct account
  publicKey record hrecord key hkey := by
    obtain ⟨making, _, _, rfl, _, hpublicKey, _⟩ := hkept.exists_making hsound hrecord hkey
    exact hpublicKey.symm
  counter record hrecord key hkey := by
    obtain ⟨_, _, _, _, _, _, hcounter⟩ := hkept.exists_making hsound hrecord hkey
    exact hcounter

/-! One lemma for each kind of change. -/

/-- Records go, and counters of rings rise. -/
theorem shrink (hkept : Kept before)
    (haccounts : ∀ account,
      (after.scene.accounts.keys account).Sublist (before.scene.accounts.keys account))
    (hkeys : ∀ ring, (after.scene.rings ring).keys = (before.scene.rings ring).keys)
    (hcounters : ∀ ring,
      (before.scene.rings ring).counter.toNat ≤ (after.scene.rings ring).counter.toNat)
    (hmakings : makings after.calls = makings before.calls) : Kept after where
  rings ring handle key hkey := by
    rw [hmakings]
    rw [KeyRing.key?, hkeys] at hkey
    exact hkept.rings ring handle key hkey
  records account record hrecord := by
    rw [hmakings]
    obtain ⟨making, hmaking, hhandle, hpublicKey, hcounter⟩ :=
      hkept.records account record ((haccounts account).subset hrecord)
    exact ⟨making, hmaking, hhandle, hpublicKey, hcounter.trans (hcounters making.ring)⟩
  distinct account := (hkept.distinct account).sublist ((haccounts account).map _)

theorem unchanged (hkept : Kept before)
    (haccounts : ∀ holder, after.scene.accounts.keys holder = before.scene.accounts.keys holder)
    (hrings : after.scene.rings = before.scene.rings)
    (hmakings : makings after.calls = makings before.calls) : Kept after :=
  hkept.shrink (fun holder => by rw [haccounts]) (fun ring => by rw [hrings])
    (fun ring => by rw [hrings]) hmakings

/-- The counter of a ring rises. -/
theorem count (hkept : Kept before) {ring : Nat} {counter : UInt32}
    (hcounter : (before.scene.rings ring).counter.toNat ≤ counter.toNat)
    (haccounts : ∀ holder, after.scene.accounts.keys holder = before.scene.accounts.keys holder)
    (hrings : after.scene.rings = Function.update before.scene.rings ring
      { before.scene.rings ring with counter })
    (hmakings : makings after.calls = makings before.calls) : Kept after := by
  refine hkept.shrink (fun holder => by rw [haccounts]) (fun other => ?_) (fun other => ?_) hmakings
  · rw [hrings, keys_update_counter]
  · rw [hrings]
    exact counter_le_update hcounter other

/-- A counter of a record rises, up to that of its ring. -/
theorem raise (hkept : Kept before) {earlier later : List Web.Enrolment} {record : Web.Enrolment}
    {counter : UInt32}
    (hsplit : before.scene.accounts.keys account = earlier ++ record :: later)
    (haccounts : ∀ holder, after.scene.accounts.keys holder =
      if holder = account then earlier ++ { record with counter } :: later
      else before.scene.accounts.keys holder)
    (hcounter : ∀ making ∈ makings before.calls, making.handle = record.keyHandle →
      counter.toNat ≤ (before.scene.rings making.ring).counter.toNat)
    (hrings : after.scene.rings = before.scene.rings)
    (hmakings : makings after.calls = makings before.calls) : Kept after where
  rings := by
    rw [hrings, hmakings]
    exact hkept.rings
  records holder given hgiven := by
    rw [hrings, hmakings]
    rw [haccounts] at hgiven
    split at hgiven
    · have hother : ∀ other ∈ earlier ++ record :: later, _ :=
        fun other hother => hkept.records account other (hsplit ▸ hother)
      rcases List.mem_append.1 hgiven with hmem | hmem
      · exact hother given (List.mem_append_left _ hmem)
      · rcases List.mem_cons.1 hmem with rfl | hmem
        · obtain ⟨making, hmaking, hhandle, hpublicKey, _⟩ :=
            hother record (List.mem_append_right _ List.mem_cons_self)
          exact ⟨making, hmaking, hhandle, hpublicKey, hcounter making hmaking hhandle⟩
        · exact hother given (List.mem_append_right _ (List.mem_cons_of_mem _ hmem))
    · exact hkept.records holder given hgiven
  distinct holder := by
    rw [haccounts]
    split
    · have hdistinct := hkept.distinct account
      rw [hsplit] at hdistinct
      simpa using hdistinct
    · exact hkept.distinct holder

/-- A key is made, and its record is put last. -/
theorem enrol (hkept : Kept before) (hsound : Sound party after.calls) {making : Making}
    {record : Web.Enrolment} (hhandle : making.handle = record.keyHandle)
    (hpublicKey : making.keyPair.publicKey.bytes = record.publicKey) (hcounter : record.counter = 0)
    (haccounts : ∀ holder, after.scene.accounts.keys holder =
      if holder = account then before.scene.accounts.keys account ++ [record]
      else before.scene.accounts.keys holder)
    (hrings : after.scene.rings = Function.update before.scene.rings making.ring
      ((before.scene.rings making.ring).addKey record.keyHandle making.key))
    (hmakings : makings after.calls = makings before.calls ++ [making]) : Kept after where
  rings ring handle key hkey := by
    rw [hmakings]
    rw [hrings] at hkey
    rcases key?_update_addKey hkey with ⟨hring, hsame, hmade⟩ | hold
    · exact ⟨making, List.mem_append_right _ List.mem_cons_self, hring.symm,
        hhandle.trans hsame.symm, hmade.symm⟩
    · obtain ⟨other, hother, hmade⟩ := hkept.rings ring handle key hold
      exact ⟨other, List.mem_append_left _ hother, hmade⟩
  records holder given hgiven := by
    simp only [hmakings, hrings, counter_update_addKey]
    have hold : ∀ holder, given ∈ before.scene.accounts.keys holder → _ :=
      fun holder hmem => hkept.records holder given hmem
    rw [haccounts] at hgiven
    split at hgiven
    · rcases List.mem_append.1 hgiven with hmem | hmem
      · obtain ⟨other, hother, hmade⟩ := hold account hmem
        exact ⟨other, List.mem_append_left _ hother, hmade⟩
      · obtain rfl := List.mem_singleton.1 hmem
        refine ⟨making, List.mem_append_right _ List.mem_cons_self, hhandle, hpublicKey, ?_⟩
        rw [hcounter]
        exact Nat.zero_le _
    · obtain ⟨other, hother, hmade⟩ := hold holder hgiven
      exact ⟨other, List.mem_append_left _ hother, hmade⟩
  distinct holder := by
    rw [haccounts]
    split
    · rw [List.map_append, List.nodup_append]
      refine ⟨hkept.distinct account, List.nodup_singleton _, ?_⟩
      intro publicKey hmem other hother
      obtain ⟨given, hgiven, rfl⟩ := List.mem_map.1 hmem
      obtain rfl := List.mem_singleton.1 hother
      obtain ⟨older, holder, _, holderKey, _⟩ := hkept.records account given hgiven
      rw [← holderKey, ← hpublicKey]
      exact hsound.publicKey_ne_of_last hmakings holder
    · exact hkept.distinct holder

/-- A visit that enrols a key keeps what is kept. -/
theorem of_enrolled (hkept : Kept before) (honest : visitor.Honest party origin)
    (hsound : Sound party after.calls)
    (henrolled : visitor.Enrolled party account origin now before after result) : Kept after := by
  cases henrolled with
  | denied _ haccounts hrings hmakings =>
      exact hkept.unchanged haccounts hrings hmakings
  | enrolled keyPair haccounts hrings hmakings =>
      refine hkept.enrol hsound ?_ rfl rfl haccounts hrings hmakings
      rw [Visitor.record, honest.token]
      rfl

/-- A visit that uses a key keeps what is kept. -/
theorem of_authenticated (hkept : Kept before) (hsound : Sound party before.calls)
    (hmakings : makings after.calls = makings before.calls)
    (hauthenticated : visitor.Authenticated party account origin before.scene after.scene result) :
    Kept after := by
  cases hauthenticated with
  | unenrolled _ haccounts hrings => exact hkept.unchanged haccounts hrings hmakings
  | unknown _ _ haccounts hrings => exact hkept.unchanged haccounts hrings hmakings
  | exhausted _ _ haccounts hrings => exact hkept.unchanged haccounts hrings hmakings
  | denied _ hcounter _ haccounts hrings =>
      refine hkept.count ?_ haccounts hrings hmakings
      rw [KeyRing.toNat_counter_succ hcounter]
      exact Nat.le_succ _
  | signed hfirst hcounter _ haccounts hrings =>
      have hcounted : Kept ⟨⟨before.scene.accounts, after.scene.rings⟩, after.calls⟩ := by
        refine hkept.count ?_ (fun _ => rfl) hrings hmakings
        rw [KeyRing.toNat_counter_succ hcounter]
        exact Nat.le_succ _
      refine hcounted.raise hfirst.split haccounts ?_ rfl rfl
      intro making hmaking hhandle
      obtain ⟨maker, hmaker, hring, _, hsame, _⟩ :=
        hkept.exists_making hsound hfirst.mem hfirst.known
      rw [hmakings] at hmaking
      obtain rfl := hsound.eq_of_handle_eq hmaker hmaking (hsame.trans hhandle.symm)
      rw [hrings, hring, Function.update_self]

end Kept

/-! A run of honest visits. -/

theorem Act.Step.calls (hstep : Act.Step party before act after) :
    ∃ calls, after.calls = before.calls ++ calls := by
  cases hstep with
  | register honest hvisit =>
      obtain ⟨calls, hcalls, _⟩ := Visitor.run_visit honest.token hvisit
      exact ⟨calls, hcalls⟩
  | authenticate honest hvisit =>
      obtain ⟨calls, hcalls, _⟩ := Visitor.run_visit honest.token hvisit
      exact ⟨calls, hcalls⟩
  | removeKey _ => exact ⟨_, rfl⟩

theorem Act.Step.sound (hstep : Act.Step party before act after)
    (hsound : Sound party after.calls) : Sound party before.calls := by
  obtain ⟨calls, hcalls⟩ := hstep.calls
  rw [hcalls] at hsound
  exact hsound.of_append

/-- What an honest visit that uses a key comes to. -/
theorem authenticated_of_visit (hkept : Kept before) (honest : visitor.Honest party origin)
    (hvisit : visitor.visit party source (visitor.client.authenticate account origin)
      (before, around) = some (result, after, left))
    (hsound : Sound party after.calls) :
    makings after.calls = makings before.calls ∧
      visitor.Authenticated party account origin before.scene after.scene result := by
  have hbefore := (Act.Step.authenticate honest hvisit).sound hsound
  obtain ⟨given, accounts, asked, hrequests⟩ := exists_requests_of_visit hvisit
  obtain ⟨_, _, _, hsame, hmakings, hauthenticated⟩ := exists_visit_authenticate honest hrequests
  rw [hvisit] at hsame
  cases hsame
  exact ⟨hmakings, hauthenticated (hkept.agrees hbefore) hsound⟩

/-- Each act keeps what is kept. -/
theorem Act.Step.kept (hstep : Act.Step party before act after) (hkept : Kept before)
    (hsound : Sound party after.calls) : Kept after := by
  have hbefore := hstep.sound hsound
  cases hstep with
  | register honest hvisit =>
      exact hkept.of_enrolled honest hsound (enrolled_of_visit honest hvisit hsound)
  | authenticate honest hvisit =>
      obtain ⟨hmakings, hauthenticated⟩ := authenticated_of_visit hkept honest hvisit hsound
      exact hkept.of_authenticated hbefore hmakings hauthenticated
  | @removeKey account publicKey before accounts result hleads =>
      obtain ⟨_, rfl⟩ := RelyingParty.leads_removeKey hleads
      refine hkept.shrink (fun holder => ?_) (fun _ => rfl) (fun _ => le_rfl) (makings_addParty ..)
      change ((before.scene.accounts.removeKey account publicKey).keys holder).Sublist _
      rw [AccountStore.keys_removeKey]
      split
      · rename_i hholder
        rw [hholder]
        exact List.filter_sublist
      · exact List.Sublist.refl _

theorem kept_of_honestRun (hkept : Kept first) (hrun : Run (Act.Step party) first acts last)
    (hsound : Sound party last.calls) : Kept last := by
  refine hrun.invariant (fun chronicle => Sound party chronicle.calls → Kept chronicle) ?_
    (fun _ => hkept) hsound
  intro act _ before after hstep hbefore hafter
  exact hstep.kept (hbefore (hstep.sound hafter)) hafter

/-! The authentication. -/

/-- What an honest visit that uses a key comes to, with its user there and a counter left: the
result, and the rings. -/
def Visitor.expected (visitor : Visitor) (party : RelyingParty) (account origin : String)
    (scene : Scene) : Except Failure Web.Enrolment × (Nat → KeyRing) :=
  let keys := scene.accounts.keys account
  match keys.find? fun record => (visitor.keyFor? party origin scene record).isSome with
  | some record =>
    let counter := (scene.rings visitor.ring).counter + 1
    (.ok { record with counter }, Function.update scene.rings visitor.ring
      { scene.rings visitor.ring with counter })
  | none => (.error (if keys.isEmpty then .noRegisteredKeys else .unknownKeyHandle), scene.rings)

theorem Visitor.Authenticated.eq_expected {before after : Scene}
    (hauthenticated : visitor.Authenticated party account origin before after result)
    (hpresent : visitor.sensor.authentication.userPresent = true)
    (hcounter : (before.rings visitor.ring).counter.toNat + 1 < UInt32.size) :
    (result, after.rings) = visitor.expected party account origin before := by
  cases hauthenticated with
  | unenrolled hkeys _ hrings => simp [Visitor.expected, hkeys, hrings]
  | unknown hkeys hunknown _ hrings =>
      have hfind : (before.accounts.keys account).find? (fun record =>
          (visitor.keyFor? party origin before record).isSome) = none := by
        simpa using hunknown
      simp [Visitor.expected, hfind, hkeys, hrings]
  | exhausted _ hexhausted => exact absurd hcounter hexhausted
  | denied _ _ habsent =>
      rw [hpresent] at habsent
      cases habsent
  | signed hfirst _ _ _ hrings =>
      have hfind := find?_eq_some_iff_firstKnown.2 ⟨_, _, _, hfirst⟩
      simp only [Visitor.expected, hfind, hrings]

/-- After any run of honest visits and removals of keys, an honest visit that uses a key has an end,
as long as the random bytes of the party last. If the cryptography did in all of it what it is
taken to do, the visit fails only when there is no key, no user or no counter, and never for a
counter that did not rise. With its user there and a counter left, it comes to the first record
whose key the token knows, with the next counter of the token. -/
theorem authenticate_of_honestRun (hfirst : first.Pristine)
    (hrun : Run (Act.Step party) first acts before) (honest : visitor.Honest party origin)
    (account : String) (source : ChallengeSource) (around : Surroundings)
    (hdrawn : ((RelyingParty.requestSignatures account origin).run
      (RelyingParty.Memory.answer source) (before.scene.accounts, around)).isSome) :
    ∃ result after left,
      visitor.visit party source (visitor.client.authenticate account origin) (before, around) =
        some (result, after, left) ∧
      (Sound party after.calls →
        (∀ failure, result = .error failure → failure ∈ [.noRegisteredKeys, .unknownKeyHandle,
          .presenceDenied, .storage "counter exhausted"]) ∧
        (visitor.sensor.authentication.userPresent = true →
          (before.scene.rings visitor.ring).counter.toNat + 1 < UInt32.size →
          (result, after.scene.rings) = visitor.expected party account origin before.scene)) := by
  obtain ⟨⟨given, accounts, asked⟩, hrequests⟩ := Option.isSome_iff_exists.1 hdrawn
  obtain ⟨result, after, left, hvisit, _⟩ := exists_visit_authenticate honest hrequests
  refine ⟨result, after, left, hvisit, fun hsound => ?_⟩
  have hkept := kept_of_honestRun (kept_of_pristine hfirst) hrun
    ((Act.Step.authenticate honest hvisit).sound hsound)
  obtain ⟨_, hauthenticated⟩ := authenticated_of_visit hkept honest hvisit hsound
  refine ⟨?_, hauthenticated.eq_expected⟩
  rintro failure rfl
  cases hauthenticated <;> simp

/-! The key whose secret is one is enrolled, and used. -/

def batchRecord : Web.Enrolment := batchVisitor.record "https://a.b" KeyPair.base 0

/-- The request that the key is enrolled for. -/
def keyRequested : Web.RegisterRequest :=
  ⟨Raw.protocolVersion, [], "https://a.b", enrolmentResponse.sessionId⟩

/-- The request for a signature of the key. -/
def signatureRequested : Web.SignRequest :=
  ⟨Raw.protocolVersion, [], "https://a.b", batchRecord.keyHandle, enrolmentResponse.sessionId⟩

def signedMessage : Bytes := batchVisitor.signedBytes "https://a.b" signatureRequested 1

theorem sign_signedMessage : Suite.standard.sign KeyPair.base signedMessage =
    RelyingParty.firstResponse.signatureData.drop Raw.AuthenticationResponse.headerLength := by
  decide +kernel

theorem vouches_signature : Suite.standard.Vouches KeyPair.base signedMessage where
  framed := by
    rw [sign_signedMessage]
    exact Raw.isSequence_of_toOption (by decide +kernel)
  verified := by
    rw [sign_signedMessage]
    decide +kernel

/-- The chronicle of the enrolment, up to what the client submitted. -/
def registeredChronicle : Chronicle :=
  (emptyChronicle.addParty enrolmentAsked).addToken 0 (batchVisitor.registered "https://a.b"
    keyRequested KeyPair.base (.ofTape (bytesOfNat 32 1)) (.ofCounter 0))

theorem exists_visit_batchRecord : ∃ submitted left,
    submitted.after = AccountStore.empty.addKey "ann" batchRecord ∧
      batchVisitor.visit batchParty (.fixed fun _ => [])
        (batchVisitor.client.register "ann" "https://a.b" 0)
        (emptyChronicle, .ofTape (List.replicate 16 0 ++ bytesOfNat 32 1)) =
          some (.ok batchRecord, registeredChronicle.addParty submitted, left) := by
  have hid : AccountStore.empty.drawId (List.replicate 16 0 ++ bytesOfNat 32 1) =
      some (enrolmentResponse.sessionId, bytesOfNat 32 1) := by
    decide +kernel
  have hchallenge : RelyingParty.Memory.challenge (.fixed fun _ => []) "ann"
      (Surroundings.ofTape (List.replicate 16 0 ++ bytesOfNat 32 1)).tape = some ([], _) := rfl
  have hrequest : (RelyingParty.requestRegistration "ann" "https://a.b").run
      (RelyingParty.Memory.answer (.fixed fun _ => [])) (emptyChronicle.scene.accounts, _) =
        some (.ok keyRequested, askedStore, .ofTape (bytesOfNat 32 1)) :=
    RelyingParty.run_requestRegistration hchallenge hid "https://a.b"
  exact visit_register_of_asked honest_batchVisitor (asked_of_run batchVisitor batchParty hrequest)
    rfl Tape.drawKeyPair_base vouches_attestation 0

def batchKey : TokenKey := ⟨Suite.standard.digestText "https://a.b", KeyPair.base⟩

theorem requestsKey_batchRecord :
    RelyingParty.RequestsKey "https://a.b" [] batchRecord signatureRequested :=
  ⟨rfl, rfl, rfl, rfl⟩

theorem rings_registeredChronicle : registeredChronicle.scene.rings 0 =
    (KeyRing.ofCounter 0).addKey batchRecord.keyHandle batchKey := by
  have hrecord : RelyingParty.enrolmentOf
      (batchVisitor.registration "https://a.b" keyRequested KeyPair.base) 0 = batchRecord :=
    enrolmentOf_registration honest_batchVisitor rfl KeyPair.base 0
  rw [← hrecord]
  exact Function.update_self 0 _ emptyChronicle.scene.rings

theorem keyFor?_batchRecord : batchVisitor.keyFor? batchParty "https://a.b"
    registeredChronicle.scene batchRecord = some batchKey := by
  refine KeyRing.keyFor?_eq_some_iff.2 ⟨?_, rfl⟩
  change (registeredChronicle.scene.rings 0).key? _ = _
  rw [rings_registeredChronicle, KeyRing.key?_addKey, if_pos rfl]

theorem signing_batchRecord : batchVisitor.signing "https://a.b" signatureRequested
    (registeredChronicle.scene.rings 0) =
      (.ok (batchVisitor.authentication "https://a.b" signatureRequested batchKey 1),
        { registeredChronicle.scene.rings 0 with counter := 1 }) := by
  have hcounter : (registeredChronicle.scene.rings 0).counter = 0 := rfl
  rcases signing_cases honest_batchVisitor requestsKey_batchRecord keyFor?_batchRecord with
    ⟨hexhausted, _⟩ | ⟨_, ⟨habsent, _⟩ | ⟨_, hsigning⟩⟩
  · change ¬ (registeredChronicle.scene.rings 0).counter.toNat + 1 < _ at hexhausted
    rw [hcounter] at hexhausted
    exact absurd (by decide) hexhausted
  · cases habsent
  · exact hsigning

/-- The calls of a visit that uses the key. -/
theorem exists_visit_signature {submitted : RelyingParty.Moment}
    (hsubmitted : submitted.after = AccountStore.empty.addKey "ann" batchRecord) :
    ∃ requested around accepted result left,
      batchVisitor.visit batchParty (.fixed fun _ => [])
        (batchVisitor.client.authenticate "ann" "https://a.b")
        (registeredChronicle.addParty submitted, .ofTape (List.replicate 16 0)) = some (result,
          (batchVisitor.called "https://a.b" signatureRequested around
            ((registeredChronicle.addParty submitted).addParty requested)).addParty accepted,
              left) := by
  have hrequests : (RelyingParty.requestSignatures "ann" "https://a.b").run
      (RelyingParty.Memory.answer (.fixed fun _ => []))
      ((registeredChronicle.addParty submitted).scene.accounts, .ofTape (List.replicate 16 0)) =
        some (.ok [signatureRequested], (AccountStore.empty.addKey "ann" batchRecord).openSession
          enrolmentResponse.sessionId (signatureSession "ann" "https://a.b" [] batchRecord),
            .ofTape []) := by
    have haccounts : (registeredChronicle.addParty submitted).scene.accounts = _ := hsubmitted
    rw [haccounts]
    rfl
  have hcall := run_requestSignatures_of_run batchVisitor batchParty hrequests
  obtain ⟨requested, hrequested⟩ : ∃ requested, batchVisitor.visit batchParty (.fixed fun _ => [])
      (batchVisitor.client.authenticate "ann" "https://a.b")
      (registeredChronicle.addParty submitted, .ofTape (List.replicate 16 0)) =
        batchVisitor.visit batchParty (.fixed fun _ => [])
          (batchVisitor.client.answerFirst "https://a.b" [signatureRequested])
          ((registeredChronicle.addParty submitted).addParty requested, .ofTape []) :=
    ⟨_, Dialogue.run_bind_of_ok hcall _⟩
  obtain ⟨result, accounts, left, _, hvisit, _⟩ := exists_visit_of_signed
    ((registeredChronicle.addParty submitted).addParty requested) honest_batchVisitor
    requestsKey_batchRecord signing_batchRecord [] (.fixed fun _ => []) (.ofTape [])
  exact ⟨requested, _, _, result, left, hrequested.trans hvisit⟩

theorem drawKeyPair_batchVisitor : Tape.drawKeyPair batchVisitor.token.suite
    (Surroundings.ofTape (bytesOfNat 32 1)).tape = some (KeyPair.base, []) :=
  Tape.drawKeyPair_base

theorem makings_registeredChronicle : makings registeredChronicle.calls =
    [⟨0, batchToken, Suite.standard.digestText "https://a.b", KeyPair.base⟩] :=
  makings_registered rfl drawKeyPair_batchVisitor "https://a.b" keyRequested
    (emptyChronicle.addParty enrolmentAsked) (.ofCounter 0)

theorem sound_of_visit_signature {submitted : RelyingParty.Moment}
    (hsubmitted : submitted.after = AccountStore.empty.addKey "ann" batchRecord)
    {result : Except Failure Web.Enrolment}
    (hvisit : batchVisitor.visit batchParty (.fixed fun _ => [])
      (batchVisitor.client.authenticate "ann" "https://a.b")
      (registeredChronicle.addParty submitted, .ofTape (List.replicate 16 0)) =
        some (result, after, left)) : Sound batchParty after.calls := by
  obtain ⟨requested, around, accepted, _, _, hsame⟩ := exists_visit_signature hsubmitted
  rw [hvisit] at hsame
  cases hsame
  have hmakings : makings ((batchVisitor.called "https://a.b" signatureRequested around
      ((registeredChronicle.addParty submitted).addParty requested)).addParty accepted).calls =
        [⟨0, batchToken, Suite.standard.digestText "https://a.b", KeyPair.base⟩] := by
    rw [makings_addParty, makings_called, makings_addParty, makings_addParty,
      makings_registeredChronicle]
  refine ⟨?_, ?_, ?_, ?_⟩
  · intro ring moment hmem keyPair message hsigns
    simp only [Chronicle.addParty, Visitor.called, Chronicle.addToken, registeredChronicle,
      emptyChronicle, List.mem_append, List.mem_singleton, List.not_mem_nil, false_or, or_false,
      reduceCtorEq, Moment.token.injEq] at hmem
    rcases hmem with ⟨rfl, rfl⟩ | ⟨rfl, rfl⟩
    · obtain ⟨rfl, rfl⟩ := hsigns.eq
        (signs_registered rfl drawKeyPair_batchVisitor "https://a.b" keyRequested _)
      exact vouches_attestation
    · obtain ⟨rfl, rfl⟩ := hsigns.eq (signs_challenged honest_batchVisitor
        requestsKey_batchRecord keyFor?_batchRecord signing_batchRecord around)
      exact vouches_signature
  · rw [hmakings]
    exact List.nodup_singleton _
  · rw [hmakings]
    simp
  · rw [hmakings]
    simp

theorem authenticate_of_honestRun_enrolment : ∃ before,
    Run (Act.Step batchParty) emptyChronicle
      [.register batchVisitor "ann" "https://a.b" 0 (.ok batchRecord)] before ∧
    ∃ after left, batchVisitor.visit batchParty (.fixed fun _ => [])
      (batchVisitor.client.authenticate "ann" "https://a.b")
      (before, .ofTape (List.replicate 16 0)) =
        some (.ok { batchRecord with counter := 1 }, after, left) := by
  obtain ⟨submitted, _, hsubmitted, hregister⟩ := exists_visit_batchRecord
  have hrun : Run (Act.Step batchParty) emptyChronicle
      [.register batchVisitor "ann" "https://a.b" 0 (.ok batchRecord)]
      (registeredChronicle.addParty submitted) :=
    .step (.register honest_batchVisitor hregister) (.done _)
  have hpristine : emptyChronicle.Pristine := ⟨rfl, fun _ => rfl, rfl⟩
  have haccounts : (registeredChronicle.addParty submitted).scene.accounts =
      AccountStore.empty.addKey "ann" batchRecord := hsubmitted
  obtain ⟨result, after, left, hvisit, hsettled⟩ := authenticate_of_honestRun hpristine hrun
    honest_batchVisitor "ann" (.fixed fun _ => []) (.ofTape (List.replicate 16 0))
    (by rw [haccounts]; rfl)
  obtain ⟨_, hexpected⟩ := hsettled (sound_of_visit_signature hsubmitted hvisit)
  have hcounter : ((registeredChronicle.addParty submitted).scene.rings 0).counter = 0 := rfl
  have hresult := hexpected rfl (by
    change ((registeredChronicle.addParty submitted).scene.rings 0).counter.toNat + 1 < _
    rw [hcounter]
    decide)
  have hkeys : (registeredChronicle.addParty submitted).scene.accounts.keys "ann" =
      [batchRecord] := by
    rw [haccounts]
    rfl
  have hknown : batchVisitor.keyFor? batchParty "https://a.b"
      (registeredChronicle.addParty submitted).scene batchRecord = some batchKey :=
    keyFor?_batchRecord
  simp only [Visitor.expected, hkeys, List.find?_cons, hknown, Option.isSome_some] at hresult
  refine ⟨_, hrun, after, left, ?_⟩
  rw [hvisit, (Prod.mk.inj hresult).1]
  rfl

end SecondFactor.Scene
