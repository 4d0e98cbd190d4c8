import SecondFactor.Proofs.RelyingParty.Serial
import SecondFactor.Proofs.RelyingParty.Sessions
import SecondFactor.Proofs.Scene.Makings
import SecondFactor.Proofs.Token.Outcome

/-!
An honest visit that uses a key. The client passes over the records whose keys the token does not
know; with the first that it knows the token signs, and the party takes the signature, if the
records agree with the ring. All such a visit can come to is `Visitor.Authenticated`.
-/

namespace SecondFactor.Scene

open RelyingParty (ChallengeSource RequestsKey)

namespace Visitor

/-- The key of a record, if the token of a visitor knows it for a page. -/
def keyFor? (visitor : Visitor) (party : RelyingParty) (origin : String) (scene : Scene)
    (record : Web.Enrolment) : Option TokenKey :=
  (scene.rings visitor.ring).keyFor? (party.suite.digestText origin) record.keyHandle

/-- The first record of an account, in the order of enrolment, whose key the token knows. -/
structure FirstKnown (visitor : Visitor) (party : RelyingParty) (account origin : String)
    (scene : Scene) (earlier : List Web.Enrolment) (record : Web.Enrolment)
    (later : List Web.Enrolment) (key : TokenKey) : Prop where
  split : scene.accounts.keys account = earlier ++ record :: later
  passed : ∀ other ∈ earlier, visitor.keyFor? party origin scene other = none
  known : visitor.keyFor? party origin scene record = some key

/-- The records of an account agree with the keys that the token of a visitor knows for a page. -/
structure Agrees (visitor : Visitor) (party : RelyingParty) (account origin : String)
    (scene : Scene) : Prop where
  distinct : ((scene.accounts.keys account).map Web.Enrolment.publicKey).Nodup
  publicKey : ∀ record ∈ scene.accounts.keys account, ∀ key,
    visitor.keyFor? party origin scene record = some key →
      record.publicKey = key.keyPair.publicKey.bytes
  counter : ∀ record ∈ scene.accounts.keys account, ∀ key,
    visitor.keyFor? party origin scene record = some key →
      record.counter.toNat ≤ (scene.rings visitor.ring).counter.toNat

/-- All that an honest visit which uses a key of an account can come to. -/
inductive Authenticated (visitor : Visitor) (party : RelyingParty) (account origin : String)
    (before after : Scene) : Except Failure Web.Enrolment → Prop
  | unenrolled :
      before.accounts.keys account = [] →
      (∀ holder, after.accounts.keys holder = before.accounts.keys holder) →
      after.rings = before.rings →
        Authenticated visitor party account origin before after (.error .noRegisteredKeys)
  | unknown :
      before.accounts.keys account ≠ [] →
      (∀ record ∈ before.accounts.keys account,
        visitor.keyFor? party origin before record = none) →
      (∀ holder, after.accounts.keys holder = before.accounts.keys holder) →
      after.rings = before.rings →
        Authenticated visitor party account origin before after (.error .unknownKeyHandle)
  | exhausted {earlier later : List Web.Enrolment} {record : Web.Enrolment} {key : TokenKey} :
      visitor.FirstKnown party account origin before earlier record later key →
      ¬ (before.rings visitor.ring).counter.toNat + 1 < UInt32.size →
      (∀ holder, after.accounts.keys holder = before.accounts.keys holder) →
      after.rings = before.rings →
        Authenticated visitor party account origin before after
          (.error (.storage "counter exhausted"))
  | denied {earlier later : List Web.Enrolment} {record : Web.Enrolment} {key : TokenKey} :
      visitor.FirstKnown party account origin before earlier record later key →
      (before.rings visitor.ring).counter.toNat + 1 < UInt32.size →
      visitor.sensor.authentication.userPresent = false →
      (∀ holder, after.accounts.keys holder = before.accounts.keys holder) →
      after.rings = Function.update before.rings visitor.ring
        { before.rings visitor.ring with
          counter := (before.rings visitor.ring).counter + 1 } →
        Authenticated visitor party account origin before after (.error .presenceDenied)
  | signed {earlier later : List Web.Enrolment} {record : Web.Enrolment} {key : TokenKey} :
      visitor.FirstKnown party account origin before earlier record later key →
      (before.rings visitor.ring).counter.toNat + 1 < UInt32.size →
      visitor.sensor.authentication.userPresent = true →
      (∀ holder, after.accounts.keys holder =
        if holder = account then
          earlier ++ { record with counter := (before.rings visitor.ring).counter + 1 } :: later
        else before.accounts.keys holder) →
      after.rings = Function.update before.rings visitor.ring
        { before.rings visitor.ring with
          counter := (before.rings visitor.ring).counter + 1 } →
        Authenticated visitor party account origin before after
          (.ok { record with counter := (before.rings visitor.ring).counter + 1 })

/-- What comes of the token's call for a request. -/
def signing (visitor : Visitor) (origin : String) (request : Web.SignRequest) (ring : KeyRing) :
    Except Failure Raw.AuthenticationResponse × KeyRing :=
  visitor.token.authenticationOutcome visitor.sensor ring
    (visitor.client.signatureCall origin request)

/-- That call of the token. -/
def challenged (visitor : Visitor) (origin : String) (request : Web.SignRequest)
    (around : Surroundings) (before : KeyRing) : Token.Moment where
  token := visitor.token
  sensor := visitor.sensor
  around := around
  before := before
  call := .authenticate (visitor.client.signatureCall origin request)
    (visitor.signing origin request before).1
  after := (visitor.signing origin request before).2

/-- The chronicle with that call. -/
def called (visitor : Visitor) (origin : String) (request : Web.SignRequest)
    (around : Surroundings) (before : Chronicle) : Chronicle :=
  before.addToken visitor.ring
    (visitor.challenged origin request around (before.scene.rings visitor.ring))

/-- The answer of the token with a key and a counter. -/
def authentication (visitor : Visitor) (origin : String) (request : Web.SignRequest)
    (key : TokenKey) (counter : UInt32) : Raw.AuthenticationResponse :=
  visitor.token.authenticationOf (visitor.client.signatureCall origin request) key
    visitor.sensor.authentication counter

/-- What the token signs with a counter. -/
def signedBytes (visitor : Visitor) (origin : String) (request : Web.SignRequest)
    (counter : UInt32) : Bytes :=
  Raw.authenticationSignedBytes (visitor.client.signatureCall origin request).application
    visitor.sensor.authentication counter (visitor.client.signatureCall origin request).challenge

/-- What the client submits for a request. -/
def signResponse (visitor : Visitor) (origin : String) (request : Web.SignRequest)
    (authentication : Raw.AuthenticationResponse) : Web.SignResponse :=
  ⟨request.keyHandle, authentication.encode, visitor.client.signatureData origin request,
    request.sessionId⟩

end Visitor

/-- The session that a signature for a record is to answer. -/
def signatureSession (account origin : String) (challenge : Bytes) (record : Web.Enrolment) :
    Web.Session :=
  ⟨account, origin, challenge, .sign record.publicKey⟩

variable {party : RelyingParty} {visitor : Visitor} {origin account : String}
  {source : ChallengeSource} {before after : Chronicle} {around left : Surroundings}
  {request : Web.SignRequest} {challenge : Bytes} {key : TokenKey} {counter : UInt32}
  {record : Web.Enrolment} {earlier later : List Web.Enrolment}
  {requests : List Web.SignRequest}

/-! The requests, one after the other. -/

/-- The request that a record has among those for all of them. -/
theorem exists_request_of_append {relates : Web.Enrolment → Web.SignRequest → Prop}
    (hall : List.Forall₂ relates (earlier ++ record :: later) requests) :
    ∃ passed request rest, requests = passed ++ request :: rest ∧
      List.Forall₂ relates earlier passed ∧ relates record request := by
  induction earlier generalizing requests with
  | nil =>
      obtain ⟨request, rest, hrecord, _, rfl⟩ := List.forall₂_cons_left_iff.1 hall
      exact ⟨[], request, rest, rfl, .nil, hrecord⟩
  | cons other others ih =>
      obtain ⟨first, requests, hother, hothers, rfl⟩ := List.forall₂_cons_left_iff.1 hall
      obtain ⟨passed, request, rest, rfl, hpassed, hrecord⟩ := ih hothers
      exact ⟨first :: passed, request, rest, rfl, .cons hother hpassed, hrecord⟩

/-- The session of that request waits for a signature of the record's key. -/
theorem waiting?_openAll {store : AccountStore} {rest passed : List Web.SignRequest}
    (hall : List.Forall₂ (RequestsKey origin challenge) (earlier ++ record :: later)
      (passed ++ request :: rest))
    (hfresh : store.Fresh ((passed ++ request :: rest).map Web.SignRequest.sessionId))
    (hpassed : List.Forall₂ (RequestsKey origin challenge) earlier passed)
    (hrequest : RequestsKey origin challenge record request) (account : String) :
    (store.openAll (RelyingParty.signatureSessions account origin (earlier ++ record :: later)
      (passed ++ request :: rest))).waiting? .authentication request.sessionId =
        some (signatureSession account origin challenge record) := by
  have hnodup := hfresh.1
  rw [← RelyingParty.map_fst_signatureSessions account origin hall] at hnodup
  rw [AccountStore.waiting?_eq_some_iff, AccountStore.session?_openAll hnodup]
  refine ⟨Or.inl ?_, rfl⟩
  rw [RelyingParty.signatureSessions, List.zipWith_append hpassed.length_eq, signatureSession,
    ← hrequest.2.1]
  exact List.mem_append_right _ List.mem_cons_self

theorem application_signatureCall (honest : visitor.Honest party origin)
    (happId : request.appId = origin) :
    (visitor.client.signatureCall origin request).application = party.suite.digestText origin := by
  rw [Client.signatureCall, honest.client, happId]

/-- The token looks for the key of the record that a request is for. -/
theorem keyFor?_signatureCall (honest : visitor.Honest party origin)
    (hrequest : RequestsKey origin challenge record request) (scene : Scene) :
    (scene.rings visitor.ring).keyFor? (visitor.client.signatureCall origin request).application
      (visitor.client.signatureCall origin request).keyHandle =
        visitor.keyFor? party origin scene record := by
  obtain ⟨_, _, happId, hhandle⟩ := hrequest
  rw [application_signatureCall honest happId, Visitor.keyFor?, ← hhandle]
  rfl

theorem signing_of_unknown (honest : visitor.Honest party origin)
    (hrequest : RequestsKey origin challenge record request) {scene : Scene}
    (hunknown : visitor.keyFor? party origin scene record = none) :
    visitor.signing origin request (scene.rings visitor.ring) =
      (.error .unknownKeyHandle, scene.rings visitor.ring) := by
  rw [← keyFor?_signatureCall honest hrequest] at hunknown
  exact Token.authenticationOutcome_of_none hunknown

/-- The token is called for the first request. -/
theorem exists_visit_answerFirst_cons (honest : visitor.Honest party origin)
    (hrequest : RequestsKey origin challenge record request)
    (rest : List Web.SignRequest) (source : ChallengeSource) (before : Chronicle)
    (around : Surroundings) :
    ∃ left, visitor.visit party source (visitor.client.answerFirst origin (request :: rest))
        (before, around) =
      visitor.visit party source (visitor.client.afterSignature origin request rest
        (visitor.signing origin request (before.scene.rings visitor.ring)).1)
        (visitor.called origin request around before, left) := by
  obtain ⟨hversion, _, happId, _⟩ := hrequest
  have hadmits : visitor.client.checkRequest request.version request.appId origin = .ok () := by
    rw [happId]
    exact Client.admits_iff.2 ⟨hversion, honest.checked⟩
  obtain ⟨left, hrun⟩ := visitor.token.run_authenticate visitor.token.suite visitor.sensor
    (before.scene.rings visitor.ring) around (visitor.client.signatureCall origin request)
  have hcall : Chronicle.callToken visitor.token visitor.sensor visitor.ring
      (.authenticate (visitor.client.signatureCall origin request))
      (visitor.token.authenticate (visitor.client.signatureCall origin request))
      (before, around) = some (_, visitor.called origin request around before, left) :=
    Chronicle.callToken_eq_some_iff.2 ⟨_, hrun, rfl⟩
  have hasked : (Client.Talk.authenticate (visitor.client.signatureCall origin request)).run
      (visitor.answer party source) (before, around) = _ := Visitor.run_authenticate _ _
  rw [hcall] at hasked
  refine ⟨left, ?_⟩
  unfold Visitor.visit Client.answerFirst
  rw [hadmits, Dialogue.run_bind_of_ok (Dialogue.run_ofExcept _ _)]
  exact Dialogue.run_bind_of_ok hasked _

/-- No key is made when a key is used. -/
theorem makings_called (visitor : Visitor) (origin : String) (request : Web.SignRequest)
    (around : Surroundings) (before : Chronicle) :
    makings (visitor.called origin request around before).calls = makings before.calls := by
  rw [Visitor.called, Chronicle.addToken, makings_append]
  exact List.append_nil _

theorem scene_called {result : Except Failure Raw.AuthenticationResponse} {ring : KeyRing}
    (hsigning : visitor.signing origin request (before.scene.rings visitor.ring) = (result, ring))
    (around : Surroundings) :
    (visitor.called origin request around before).scene =
      { before.scene with rings := Function.update before.scene.rings visitor.ring ring } := by
  simp only [Visitor.called, Chronicle.addToken, Visitor.challenged, hsigning]

/-- Requests for keys that the token does not know are passed over. -/
theorem exists_visit_answerFirst_append (honest : visitor.Honest party origin)
    {passed : List Web.SignRequest}
    (hpassed : List.Forall₂ (RequestsKey origin challenge) earlier passed)
    (hunknown : ∀ other ∈ earlier, visitor.keyFor? party origin before.scene other = none)
    (rest : List Web.SignRequest) (source : ChallengeSource) (around : Surroundings) :
    ∃ between left, between.scene = before.scene ∧ makings between.calls = makings before.calls ∧
      visitor.visit party source (visitor.client.answerFirst origin (passed ++ rest))
        (before, around) =
      visitor.visit party source (visitor.client.answerFirst origin rest) (between, left) := by
  induction hpassed generalizing before around with
  | nil => exact ⟨before, around, rfl, rfl, rfl⟩
  | @cons other request others passed hrequest _ ih =>
      obtain ⟨left, hvisit⟩ := exists_visit_answerFirst_cons honest hrequest (passed ++ rest)
        source before around
      have hsigning := signing_of_unknown honest hrequest (hunknown other List.mem_cons_self)
      have hscene : (visitor.called origin request around before).scene = before.scene := by
        rw [scene_called hsigning, Function.update_eq_self]
      rw [hsigning] at hvisit
      have hstill : ∀ given ∈ others, visitor.keyFor? party origin
          (visitor.called origin request around before).scene given = none := by
        rw [hscene]
        exact fun given hgiven => hunknown given (List.mem_cons_of_mem _ hgiven)
      obtain ⟨between, last, hbetween, hmakings, hothers⟩ := ih hstill left
      exact ⟨between, last, hbetween.trans hscene, hmakings.trans (makings_called ..),
        hvisit.trans hothers⟩

/-- A call for a key that the token knows has one of three ends. -/
theorem signing_cases (honest : visitor.Honest party origin)
    (hrequest : RequestsKey origin challenge record request) {scene : Scene}
    (hknown : visitor.keyFor? party origin scene record = some key) :
    (¬ (scene.rings visitor.ring).counter.toNat + 1 < UInt32.size ∧
        visitor.signing origin request (scene.rings visitor.ring) =
          (.error (.storage "counter exhausted"), scene.rings visitor.ring)) ∨
      (scene.rings visitor.ring).counter.toNat + 1 < UInt32.size ∧
        ((visitor.sensor.authentication.userPresent = false ∧
            visitor.signing origin request (scene.rings visitor.ring) =
              (.error .presenceDenied, { scene.rings visitor.ring with
                counter := (scene.rings visitor.ring).counter + 1 })) ∨
          visitor.sensor.authentication.userPresent = true ∧
            visitor.signing origin request (scene.rings visitor.ring) =
              (.ok (visitor.authentication origin request key
                ((scene.rings visitor.ring).counter + 1)), { scene.rings visitor.ring with
                  counter := (scene.rings visitor.ring).counter + 1 })) := by
  rw [← keyFor?_signatureCall honest hrequest] at hknown
  exact Token.authenticationOutcome_cases hknown rfl

/-! The signature. -/

/-- What the token signs is what the party checks. -/
theorem signed_signResponse (account : String) (honest : visitor.Honest party origin)
    (hrequest : RequestsKey origin challenge record request)
    (hpresent : visitor.sensor.authentication.userPresent = true)
    (hkey : record.publicKey = key.keyPair.publicKey.bytes)
    (hvouches : party.suite.Vouches key.keyPair (visitor.signedBytes origin request counter)) :
    party.Signed (signatureSession account origin challenge record) record
      (visitor.signResponse origin request (visitor.authentication origin request key counter))
      (visitor.authentication origin request key counter)
      (visitor.client.clientData .authentication request.challenge origin)
      key.keyPair.publicKey where
  parsed := Web.ClientData.parse_bytes _
  answers := by
    rw [← hrequest.2.1]
    exact honest.answers (signatureSession account origin request.challenge record) .authentication
  decoded := by
    refine Raw.AuthenticationResponse.decode_eq_ok_iff.2 ⟨?_, rfl⟩
    have hframed := hvouches.framed
    rw [← honest.token] at hframed
    exact hframed
  present := hpresent
  keyRead := by rw [hkey, PublicKey.decode?_bytes]
  verified := by
    have hmessage : party.signedBytes (signatureSession account origin challenge record)
        (visitor.signResponse origin request (visitor.authentication origin request key counter))
        (visitor.authentication origin request key counter) =
          visitor.signedBytes origin request counter := by
      simp only [RelyingParty.signedBytes, signatureSession, Visitor.signResponse, Visitor.signedBytes,
        Client.signatureCall, honest.client, hrequest.2.2.1]
      rfl
    have hsignature : (visitor.authentication origin request key counter).signature =
        party.suite.sign key.keyPair (visitor.signedBytes origin request counter) := by
      rw [← honest.token]
      rfl
    rw [hmessage, hsignature]
    exact hvouches.verified

/-- The party takes the signature of the account's first record of the key, if its counter is
greater than that of the record. -/
theorem exists_run_acceptSignature (honest : visitor.Honest party origin)
    (hrequest : RequestsKey origin challenge record request) {store : AccountStore}
    (hwaiting : store.waiting? .authentication request.sessionId =
      some (signatureSession account origin challenge record))
    (hkeys : store.keys account = earlier ++ record :: later)
    (hearlier : ∀ other ∈ earlier, other.publicKey ≠ record.publicKey)
    (hpresent : visitor.sensor.authentication.userPresent = true)
    (hkey : record.publicKey = key.keyPair.publicKey.bytes) (hcounter : record.counter < counter)
    (hvouches : party.suite.Vouches key.keyPair (visitor.signedBytes origin request counter))
    (source : ChallengeSource) (around : Surroundings) :
    ∃ left, (party.acceptSignature (visitor.signResponse origin request
        (visitor.authentication origin request key counter))).run
      (RelyingParty.Memory.answer source) (store, around) =
        some (.ok { record with counter }, (store.closeSession request.sessionId).setKeys account
          (earlier ++ { record with counter } :: later), left) := by
  have hread := RelyingParty.readAuthentication_eq_ok_iff.2
    ⟨_, _, signed_signResponse account honest hrequest hpresent hkey hvouches⟩
  have hfirst : ∀ other, (store.keys account).find?
      (fun other => other.publicKey = record.publicKey) = some other →
        other.keyHandle = request.keyHandle := by
    intro other hother
    rw [hkeys, AccountStore.find?_append_cons_of_first hearlier rfl] at hother
    cases hother
    exact hrequest.2.2.2.symm
  have hverdict := RelyingParty.signatureVerdict_of_read rfl hread hfirst
  have hraise : AccountStore.raiseFirst record.publicKey counter (store.keys account) =
      .ok ({ record with counter }, earlier ++ { record with counter } :: later) := by
    rw [hkeys]
    exact AccountStore.raiseFirst_of_first hearlier rfl hcounter
  have houtcome := party.outcome_acceptSignature (visitor.signResponse origin request
    (visitor.authentication origin request key counter)) source around store
  rw [RelyingParty.signatureOutcome_of_ok hwaiting (hverdict.trans hraise)] at houtcome
  exact RelyingParty.exists_run_of_outcome_eq houtcome

/-- The token refuses to sign for the first request. -/
theorem exists_visit_of_refused (honest : visitor.Honest party origin)
    (hrequest : RequestsKey origin challenge record request) {failure : Failure} {ring : KeyRing}
    (hsigning : visitor.signing origin request (before.scene.rings visitor.ring) =
      (.error failure, ring)) (hfailure : failure ≠ .unknownKeyHandle)
    (rest : List Web.SignRequest) (source : ChallengeSource) (around : Surroundings) :
    ∃ after left,
      visitor.visit party source (visitor.client.answerFirst origin (request :: rest))
        (before, around) = some (.error failure, after, left) ∧
      makings after.calls = makings before.calls ∧
      after.scene =
        { before.scene with rings := Function.update before.scene.rings visitor.ring ring } := by
  obtain ⟨left, hvisit⟩ :=
    exists_visit_answerFirst_cons honest hrequest rest source before around
  refine ⟨_, left, hvisit.trans ?_, makings_called .., scene_called hsigning around⟩
  rw [hsigning]
  cases failure with
  | unknownKeyHandle => exact absurd rfl hfailure
  | _ => rfl

theorem signs_challenged (honest : visitor.Honest party origin)
    (hrequest : RequestsKey origin challenge record request) {scene : Scene} {ring : KeyRing}
    (hknown : visitor.keyFor? party origin scene record = some key)
    (hsigning : visitor.signing origin request (scene.rings visitor.ring) =
      (.ok (visitor.authentication origin request key counter), ring))
    (around : Surroundings) :
    (visitor.challenged origin request around (scene.rings visitor.ring)).Signs key.keyPair
      (visitor.signedBytes origin request counter) := by
  rw [← keyFor?_signatureCall honest hrequest] at hknown
  obtain ⟨left, hrun⟩ := visitor.token.run_authenticate visitor.token.suite visitor.sensor
    (scene.rings visitor.ring) around (visitor.client.signatureCall origin request)
  have hends : (visitor.challenged origin request around (scene.rings visitor.ring)).Ends
      (visitor.token.authenticate (visitor.client.signatureCall origin request))
      (.ok (visitor.authentication origin request key counter)) := by
    refine ⟨left, hrun.trans ?_⟩
    change some ((visitor.signing origin request (scene.rings visitor.ring)).1,
      (visitor.signing origin request (scene.rings visitor.ring)).2, left) =
        some (_, (visitor.signing origin request (scene.rings visitor.ring)).2, left)
    rw [hsigning]
  exact .authentication ⟨rfl, hends⟩ (KeyRing.keyFor?_eq_some_iff.1 hknown).1

/-- The token signs for the first request, and the party is given its signature. -/
theorem exists_visit_of_signed (before : Chronicle) (honest : visitor.Honest party origin)
    (hrequest : RequestsKey origin challenge record request) {ring : KeyRing}
    (hsigning : visitor.signing origin request (before.scene.rings visitor.ring) =
      (.ok (visitor.authentication origin request key counter), ring))
    (rest : List Web.SignRequest) (source : ChallengeSource) (around : Surroundings) :
    ∃ result accounts left asked,
      visitor.visit party source (visitor.client.answerFirst origin (request :: rest))
        (before, around) =
          some (result, (visitor.called origin request around before).addParty
            ⟨before.scene.accounts, .acceptSignature (visitor.signResponse origin request
              (visitor.authentication origin request key counter)) result, accounts⟩, left) ∧
      (party.acceptSignature (visitor.signResponse origin request
        (visitor.authentication origin request key counter))).run
          (RelyingParty.Memory.answer source) (before.scene.accounts, asked) =
            some (result, accounts, left) := by
  obtain ⟨asked, hvisit⟩ :=
    exists_visit_answerFirst_cons honest hrequest rest source before around
  obtain ⟨left, hrun⟩ := RelyingParty.exists_run_of_outcome_eq
    (party.outcome_acceptSignature (visitor.signResponse origin request
      (visitor.authentication origin request key counter)) source asked before.scene.accounts)
  rw [hsigning] at hvisit
  exact ⟨_, _, left, asked, hvisit.trans <| (Visitor.run_submitSignature _ _).trans <|
    Chronicle.callParty_eq_some_iff.2 ⟨_, hrun, rfl⟩, hrun⟩

/-! The visit. -/

/-- The first record whose key the token knows, if there is one. -/
theorem find?_eq_some_iff_firstKnown {scene : Scene} :
    (scene.accounts.keys account).find? (fun other =>
        (visitor.keyFor? party origin scene other).isSome) = some record ↔
      ∃ earlier later key,
        visitor.FirstKnown party account origin scene earlier record later key := by
  rw [List.find?_eq_some_iff_append]
  constructor
  · rintro ⟨hknown, earlier, later, hsplit, hearlier⟩
    obtain ⟨key, hkey⟩ := Option.isSome_iff_exists.1 hknown
    refine ⟨earlier, later, key, hsplit, ?_, hkey⟩
    intro other hother
    simpa using hearlier other hother
  · rintro ⟨earlier, later, key, hfirst⟩
    refine ⟨by rw [hfirst.known]; rfl, earlier, later, hfirst.split, ?_⟩
    intro other hother
    rw [hfirst.passed other hother]
    rfl

theorem Visitor.FirstKnown.mem {scene : Scene}
    (hfirst : visitor.FirstKnown party account origin scene earlier record later key) :
    record ∈ scene.accounts.keys account := by
  rw [hfirst.split]
  exact List.mem_append_right _ List.mem_cons_self

theorem Visitor.Agrees.publicKey_ne {scene : Scene}
    (hagrees : visitor.Agrees party account origin scene)
    (hfirst : visitor.FirstKnown party account origin scene earlier record later key) :
    ∀ other ∈ earlier, other.publicKey ≠ record.publicKey := by
  intro other hother
  have hdistinct := hagrees.distinct
  rw [hfirst.split, List.map_append, List.nodup_append] at hdistinct
  exact hdistinct.2.2 _ (List.mem_map_of_mem hother) _ List.mem_cons_self

/-- The next counter of the token is greater than that of the record. -/
theorem Visitor.Agrees.counter_lt {scene : Scene}
    (hagrees : visitor.Agrees party account origin scene)
    (hfirst : visitor.FirstKnown party account origin scene earlier record later key)
    (hcounter : (scene.rings visitor.ring).counter.toNat + 1 < UInt32.size) :
    record.counter < (scene.rings visitor.ring).counter + 1 := by
  rw [UInt32.lt_iff_toNat_lt, KeyRing.toNat_counter_succ hcounter]
  exact Nat.lt_succ_of_le (hagrees.counter record hfirst.mem key hfirst.known)

/-- The token is called for the first record whose key it knows. -/
theorem exists_visit_of_known (honest : visitor.Honest party origin) {scene : Scene}
    (hfirst : visitor.FirstKnown party account origin scene earlier record later key)
    (hrequest : RequestsKey origin challenge record request)
    (hrings : before.scene.rings = scene.rings)
    (hkeys : ∀ holder, before.scene.accounts.keys holder = scene.accounts.keys holder)
    (hwaiting : before.scene.accounts.waiting? .authentication request.sessionId =
      some (signatureSession account origin challenge record))
    (rest : List Web.SignRequest) (source : ChallengeSource) (around : Surroundings) :
    ∃ result after left,
      visitor.visit party source (visitor.client.answerFirst origin (request :: rest))
        (before, around) = some (result, after, left) ∧
      makings after.calls = makings before.calls ∧
      (visitor.Agrees party account origin scene → Sound party after.calls →
        visitor.Authenticated party account origin scene after.scene result) := by
  have hknown : visitor.keyFor? party origin before.scene record = some key := by
    rw [Visitor.keyFor?, hrings]
    exact hfirst.known
  have hcases := signing_cases honest hrequest hknown
  rw [hrings] at hcases
  rcases hcases with ⟨hcounter, hsigning⟩ |
    ⟨hcounter, ⟨habsent, hsigning⟩ | ⟨hpresent, hsigning⟩⟩ <;> rw [← hrings] at hsigning
  · obtain ⟨after, left, hvisit, hmakings, hafter⟩ :=
      exists_visit_of_refused honest hrequest hsigning (by simp) rest source around
    refine ⟨_, after, left, hvisit, hmakings, fun _ _ => ?_⟩
    rw [hafter, Function.update_eq_self]
    exact .exhausted hfirst hcounter hkeys hrings
  · obtain ⟨after, left, hvisit, hmakings, hafter⟩ :=
      exists_visit_of_refused honest hrequest hsigning (by simp) rest source around
    refine ⟨_, after, left, hvisit, hmakings, fun _ _ => ?_⟩
    rw [hafter, hrings]
    exact .denied hfirst hcounter habsent hkeys rfl
  · obtain ⟨result, accounts, left, asked, hvisit, hrun⟩ :=
      exists_visit_of_signed before honest hrequest hsigning rest source around
    refine ⟨_, _, left, hvisit, (makings_addParty ..).trans (makings_called ..),
      fun hagrees hsound => ?_⟩
    have hvouches := hsound.vouches visitor.ring _
      (List.mem_append_left _ (List.mem_append_right _ (List.mem_singleton_self _))) _ _
      (signs_challenged honest hrequest hknown hsigning around)
    rw [hrings] at hvouches
    obtain ⟨_, haccepted⟩ := exists_run_acceptSignature honest hrequest hwaiting
      ((hkeys account).trans hfirst.split) (hagrees.publicKey_ne hfirst) hpresent
      (hagrees.publicKey record hfirst.mem key hfirst.known) (hagrees.counter_lt hfirst hcounter)
      hvouches source asked
    rw [hrings, haccepted] at hrun
    cases hrun
    refine .signed hfirst hcounter hpresent (fun holder => ?_) ?_
    · change ((before.scene.accounts.closeSession request.sessionId).setKeys account _).keys _ = _
      rw [AccountStore.keys_setKeys, AccountStore.keys_closeSession, hkeys]
    · change (visitor.called origin request around before).scene.rings = _
      rw [scene_called hsigning, hrings]

/-- With the requests of the party, the client gets to the first record whose key the token
knows. -/
theorem exists_visit_answerFirst (honest : visitor.Honest party origin) {scene : Scene}
    (hkeys : scene.accounts.keys account ≠ [])
    (hall : List.Forall₂ (RequestsKey origin challenge) (scene.accounts.keys account) requests)
    (hfresh : scene.accounts.Fresh (requests.map Web.SignRequest.sessionId))
    (hopened : before.scene = { scene with
      accounts := scene.accounts.openAll (RelyingParty.signatureSessions account origin
        (scene.accounts.keys account) requests) })
    (source : ChallengeSource) (around : Surroundings) :
    ∃ result after left,
      visitor.visit party source (visitor.client.answerFirst origin requests) (before, around) =
        some (result, after, left) ∧
      makings after.calls = makings before.calls ∧
      (visitor.Agrees party account origin scene → Sound party after.calls →
        visitor.Authenticated party account origin scene after.scene result) := by
  have hsame : ∀ other, visitor.keyFor? party origin before.scene other =
      visitor.keyFor? party origin scene other := by
    intro other
    rw [hopened]
    rfl
  cases hfind : (scene.accounts.keys account).find? fun other =>
      (visitor.keyFor? party origin scene other).isSome with
  | none =>
      have hunknown : ∀ other ∈ scene.accounts.keys account,
          visitor.keyFor? party origin scene other = none := by
        simpa using hfind
      obtain ⟨after, left, hscene, hmakings, hvisit⟩ := exists_visit_answerFirst_append honest hall
        (fun other hother => (hsame other).trans (hunknown other hother)) [] source around
      rw [List.append_nil] at hvisit
      refine ⟨_, after, left, hvisit.trans rfl, hmakings, fun _ _ => ?_⟩
      rw [hscene, hopened]
      exact .unknown hkeys hunknown (fun holder => AccountStore.keys_openAll ..) rfl
  | some record =>
      obtain ⟨earlier, later, key, hfirst⟩ := find?_eq_some_iff_firstKnown.1 hfind
      rw [hfirst.split] at hall hopened
      obtain ⟨passed, request, rest, rfl, hpassed, hrequest⟩ := exists_request_of_append hall
      obtain ⟨between, asked, hscene, hpassing, hpass⟩ := exists_visit_answerFirst_append honest
        hpassed (fun other hother => (hsame other).trans (hfirst.passed other hother))
        (request :: rest) source around
      rw [hopened] at hscene
      have hkept : ∀ holder, between.scene.accounts.keys holder = scene.accounts.keys holder := by
        intro holder
        rw [hscene]
        exact AccountStore.keys_openAll ..
      have hwaiting := waiting?_openAll hall hfresh hpassed hrequest account
      obtain ⟨result, after, left, hvisit, hmakings, hauthenticated⟩ := exists_visit_of_known honest
        hfirst hrequest (by rw [hscene]) hkept (by rw [hscene]; exact hwaiting) rest source
        asked
      exact ⟨result, after, left, hpass.trans hvisit, hmakings.trans hpassing, hauthenticated⟩

theorem run_requestSignatures_of_run (visitor : Visitor) (party : RelyingParty)
    {given : Except Failure (List Web.SignRequest)} {accounts : AccountStore}
    (hrequests : (RelyingParty.requestSignatures account origin).run
      (RelyingParty.Memory.answer source) (before.scene.accounts, around) =
        some (given, accounts, left)) :
    (Client.Talk.requestSignatures account origin).run (visitor.answer party source)
      (before, around) = some (given, before.addParty
        ⟨before.scene.accounts, .requestSignatures account origin given, accounts⟩, left) :=
  (Visitor.run_requestSignatures _ _ _).trans
    (Chronicle.callParty_eq_some_iff.2 ⟨accounts, hrequests, rfl⟩)

theorem exists_requests_of_visit {result : Except Failure Web.Enrolment}
    (hvisit : visitor.visit party source (visitor.client.authenticate account origin)
      (before, around) = some (result, after, left)) :
    ∃ given accounts asked, (RelyingParty.requestSignatures account origin).run
      (RelyingParty.Memory.answer source) (before.scene.accounts, around) =
        some (given, accounts, asked) := by
  rcases Dialogue.run_bind_eq_some hvisit with
    ⟨requests, ⟨_, _⟩, hrequests, _⟩ | ⟨failure, hrequests, _⟩
  all_goals
    rw [Visitor.run_requestSignatures] at hrequests
    obtain ⟨accounts, hrun, _⟩ := Chronicle.callParty_eq_some_iff.1 hrequests
    exact ⟨_, accounts, _, hrun⟩

/-- An honest visit that uses a key has an end, and no key is made in it. -/
theorem exists_visit_authenticate (honest : visitor.Honest party origin)
    {given : Except Failure (List Web.SignRequest)} {accounts : AccountStore}
    {asked : Surroundings}
    (hrequests : (RelyingParty.requestSignatures account origin).run
      (RelyingParty.Memory.answer source) (before.scene.accounts, around) =
        some (given, accounts, asked)) :
    ∃ result after left,
      visitor.visit party source (visitor.client.authenticate account origin) (before, around) =
        some (result, after, left) ∧
      makings after.calls = makings before.calls ∧
      (visitor.Agrees party account origin before.scene → Sound party after.calls →
        visitor.Authenticated party account origin before.scene after.scene result) := by
  have hcall := run_requestSignatures_of_run visitor party hrequests
  rcases RelyingParty.ends_requestSignatures (RelyingParty.Talk.ends_of_run hrequests) with
    ⟨hkeys, rfl, rfl⟩ | ⟨challenge, requests, hkeys, rfl, hall, hfresh, rfl⟩
  · exact ⟨_, _, _, Dialogue.run_bind_of_error hcall _, makings_addParty .., fun _ _ =>
      .unenrolled hkeys (fun _ => rfl) rfl⟩
  have hopened : (before.addParty ⟨before.scene.accounts,
      .requestSignatures account origin (.ok requests), _⟩).scene = { before.scene with
        accounts := before.scene.accounts.openAll (RelyingParty.signatureSessions account origin
          (before.scene.accounts.keys account) requests) } := rfl
  obtain ⟨result, after, left, hvisit, hmakings, hauthenticated⟩ :=
    exists_visit_answerFirst honest hkeys hall hfresh hopened source asked
  exact ⟨result, after, left, (Dialogue.run_bind_of_ok hcall _).trans hvisit,
    hmakings.trans (makings_addParty ..), hauthenticated⟩

end SecondFactor.Scene
