import SecondFactor.Proofs.RelyingParty.Issue
import SecondFactor.Proofs.Scene.EnrolmentOrigin
import SecondFactor.Proofs.Token.Outcome
import SecondFactor.Proofs.Token.Requests

/-!
The key handles that a token gave out. As long as the keyed digest takes different values for them,
a ring holds under each of them a key pair of the public key it was given out with, and nothing
else, `holds_of_run`: so each is good for its own application ever after, and for no other
(`handles_of_run`).
-/

namespace SecondFactor

/-- The key pair is one of a secret. -/
def Suite.Makes (suite : Suite) (keyPair : KeyPair) : Prop :=
  ∃ secret, suite.keyPair? secret = some keyPair

theorem Suite.makes_of_drawKeyPair {suite : Suite} {tape rest : Tape} {keyPair : KeyPair}
    (hdraw : Tape.drawKeyPair suite tape = some (keyPair, rest)) : suite.Makes keyPair := by
  obtain ⟨block, hmade⟩ := Tape.exists_block_of_drawUntil hdraw
  exact ⟨_, hmade⟩

namespace Token

variable {token : Token} {sensor : Sensor} {ring : KeyRing} {moment : Moment}

/-! What a call does to the keys of its ring. -/

theorem keys_nextCounter (ring : KeyRing) : ring.nextCounter.2.keys = ring.keys := by
  unfold KeyRing.nextCounter
  split <;> rfl

theorem keys_authenticationOutcome (token : Token) (sensor : Sensor) (ring : KeyRing)
    (request : Raw.AuthenticationRequest) :
    (token.authenticationOutcome sensor ring request).2.keys = ring.keys := by
  have hnext := keys_nextCounter ring
  unfold authenticationOutcome
  cases ring.keyFor? request.application request.keyHandle with
  | none => rfl
  | some key =>
      by_cases hcontrol : request.control = .checkOnly
      · simp only [if_pos hcontrol]
      · simp only [if_neg hcontrol]
        generalize ring.nextCounter = counted at hnext ⊢
        obtain ⟨failure | counter, left⟩ := counted
        · exact hnext
        · dsimp only
          split <;> exact hnext

theorem Moment.Ends.after_eq {α : Type} {talk : Talk α} {result other : Except Failure α}
    {left : KeyRing × Surroundings} (hends : moment.Ends talk result)
    (hrun : talk.run (Memory.answer moment.token.suite moment.sensor)
      (moment.before, moment.around) = some (other, left)) : moment.after = left.1 := by
  obtain ⟨around, hsame⟩ := hends
  rw [hrun] at hsame
  have hleft := (Prod.mk.inj (Option.some.inj hsame)).2
  exact congrArg Prod.fst hleft.symm

/-- What is done with the value of a talk changes nothing, if it asks nothing. -/
theorem Moment.exists_ends_bind_iff {α β : Type} {talk : Talk α} {rest : α → Talk β}
    (hrest : ∀ value, ∃ given, rest value = .ofExcept given) :
    (∃ result, moment.Ends (talk >>= rest) result) ↔ ∃ result, moment.Ends talk result := by
  constructor
  · rintro ⟨result, left, hrun⟩
    rcases Dialogue.run_bind_eq_some hrun with ⟨value, between, hfirst, hlast⟩ | ⟨failure, hfirst, _⟩
    · obtain ⟨given, hgiven⟩ := hrest value
      rw [hgiven, Dialogue.run_ofExcept] at hlast
      cases hlast
      exact ⟨.ok value, left, hfirst⟩
    · exact ⟨.error failure, left, hfirst⟩
  · rintro ⟨failure | value, left, hrun⟩
    · exact ⟨.error failure, left, Dialogue.run_bind_of_error hrun rest⟩
    · obtain ⟨given, hgiven⟩ := hrest value
      refine ⟨given, left, ?_⟩
      rw [Dialogue.run_bind_of_ok hrun, hgiven, Dialogue.run_ofExcept]

theorem Moment.exists_ends_register_iff {request : Raw.RegistrationRequest} :
    (∃ result, moment.Ends (moment.token.perform (.register request)) result) ↔
      ∃ result, moment.Ends (moment.token.register request) result := by
  apply Moment.exists_ends_bind_iff
  intro response
  cases response.encode with
  | error fault => exact ⟨.error (.format fault), rfl⟩
  | ok bytes => exact ⟨.ok bytes, rfl⟩

theorem Moment.exists_ends_authenticate_iff {request : Raw.AuthenticationRequest} :
    (∃ result, moment.Ends (moment.token.perform (.authenticate request)) result) ↔
      ∃ result, moment.Ends (moment.token.authenticate request) result := by
  apply Moment.exists_ends_bind_iff
  intro response
  exact ⟨.ok response.encode, rfl⟩

/-- A call ends as what it has the token do, whether it was made by command or not. -/
theorem Moment.ends_perform {payload : Raw.Payload} (hhappens : moment.Happens)
    (hpayload : moment.call.payload? = some payload) :
    ∃ performed, moment.Ends (moment.token.perform payload) performed := by
  unfold Happens at hhappens
  generalize moment.call = call at hhappens hpayload
  cases call with
  | register request result =>
      cases hpayload
      exact Moment.exists_ends_register_iff.2 ⟨result, hhappens⟩
  | authenticate request result =>
      cases hpayload
      exact Moment.exists_ends_authenticate_iff.2 ⟨result, hhappens⟩
  | respond command result =>
      obtain ⟨decoded, hdecoded, rfl⟩ := Option.map_eq_some_iff.1 hpayload
      obtain ⟨left, hrun⟩ := hhappens
      rw [run_respond (eq_ok_of_toOption_eq_some hdecoded)] at hrun
      obtain ⟨⟨performed, kept, left⟩, hperform, hresult⟩ := Option.map_eq_some_iff.1 hrun
      cases hresult
      exact ⟨performed, left, hperform⟩

/-- A command that means nothing does nothing. -/
theorem Moment.after_eq_of_none (hhappens : moment.Happens)
    (hpayload : moment.call.payload? = none) : moment.after = moment.before := by
  unfold Happens at hhappens
  generalize moment.call = call at hhappens hpayload
  cases call with
  | register request result => contradiction
  | authenticate request result => contradiction
  | respond command result =>
      change moment.Ends (moment.token.respond command) result at hhappens
      unfold Token.respond at hhappens
      cases hdecode : Raw.Command.decode command with
      | error status =>
          rw [hdecode] at hhappens
          exact hhappens.after_eq rfl
      | ok decoded =>
          rw [Call.payload?, hdecode] at hpayload
          contradiction

/-- A call adds the key pair that it answers for to the keys of its ring, or leaves them. -/
theorem Moment.keys_cases (hhappens : moment.Happens) :
    (∃ request keyPair,
        moment.Registers request (moment.token.registrationOf request keyPair) ∧
          moment.token.suite.Makes keyPair ∧
          moment.after = moment.before.addKey
            (moment.token.registrationOf request keyPair).keyHandle
            ⟨request.application, keyPair⟩) ∨
      (∀ request response, ¬ moment.Registers request response) ∧
        moment.after.keys = moment.before.keys := by
  cases hpayload : moment.call.payload? with
  | none =>
      refine Or.inr ⟨?_, congrArg KeyRing.keys (Moment.after_eq_of_none hhappens hpayload)⟩
      intro request response hregisters
      cases hpayload.symm.trans hregisters.1
  | some payload =>
      have hperform := Moment.ends_perform hhappens hpayload
      cases payload with
      | register request =>
          obtain ⟨result, left, hrun⟩ := Moment.exists_ends_register_iff.1 hperform
          rcases run_register_eq_some hrun with
            ⟨_, rfl, hafter⟩ | ⟨keyPair, tape, _, hdraw, rfl, hafter⟩
          · refine Or.inr ⟨?_, congrArg KeyRing.keys hafter⟩
            intro other response hregisters
            cases hpayload.symm.trans hregisters.1
            cases hregisters.2.eq ⟨left, hrun⟩
          · exact Or.inl ⟨request, keyPair, ⟨hpayload, left, hrun⟩,
              Suite.makes_of_drawKeyPair hdraw, hafter⟩
      | authenticate request =>
          obtain ⟨result, hends⟩ := Moment.exists_ends_authenticate_iff.1 hperform
          obtain ⟨left, hrun⟩ := run_authenticate moment.token moment.token.suite moment.sensor
            moment.before moment.around request
          refine Or.inr ⟨?_, ?_⟩
          · intro other response hregisters
            cases hpayload.symm.trans hregisters.1
          · rw [hends.after_eq hrun, keys_authenticationOutcome]
      | version =>
          obtain ⟨performed, hends⟩ := hperform
          refine Or.inr ⟨?_, congrArg KeyRing.keys (hends.after_eq rfl)⟩
          intro request response hregisters
          cases hpayload.symm.trans hregisters.1

/-- A call of one token, over its own ring. -/
inductive Step (token : Token) : KeyRing → Moment → KeyRing → Prop
  | call {moment : Moment} : moment.token = token → moment.Happens →
      Step token moment.before moment moment.after

/-- In some call the handle was given out for the application, with the public key. -/
def GivenOut (history : List Moment) (application : Digest) (handle : Bytes)
    (publicKey : Raw.PublicKey) : Prop :=
  ∃ moment ∈ history, ∃ request response, moment.Registers request response ∧
    request.application = application ∧ response.keyHandle = handle ∧
      response.publicKey = publicKey

/-- What handles were derived from differs only where they do. -/
def DistinctHandles (token : Token) (history : List Moment) : Prop :=
  ∀ application other handle handle' publicKey publicKey',
    GivenOut history application handle publicKey → GivenOut history other handle' publicKey' →
      token.keyHandle application publicKey = token.keyHandle other publicKey' →
        application = other ∧ publicKey = publicKey'

/-- A ring holds the keys that were given out, each under the handle that was derived for it. -/
structure Holds (token : Token) (history : List Moment) (ring : KeyRing) : Prop where
  made : ∀ handle key, ring.key? handle = some key →
    GivenOut history key.application handle key.keyPair.publicKey.toRaw ∧
      token.suite.Makes key.keyPair
  kept : ∀ application handle publicKey, GivenOut history application handle publicKey →
    handle = token.keyHandle application publicKey ∧ ∃ key, ring.key? handle = some key

variable {history : List Moment} {before after first last : KeyRing} {application : Digest}
  {handle : Bytes} {publicKey : Raw.PublicKey}

theorem GivenOut.of_registers {request : Raw.RegistrationRequest}
    {response : Raw.RegistrationResponse} (hregisters : moment.Registers request response) :
    GivenOut (history ++ [moment]) request.application response.keyHandle response.publicKey :=
  ⟨moment, List.mem_append_right _ (List.mem_singleton_self moment), request, response, hregisters,
    rfl, rfl, rfl⟩

theorem GivenOut.mono (hgiven : GivenOut history application handle publicKey) :
    GivenOut (history ++ [moment]) application handle publicKey := by
  obtain ⟨earlier, hmem, hregisters⟩ := hgiven
  exact ⟨earlier, List.mem_append_left _ hmem, hregisters⟩

theorem GivenOut.cases (hgiven : GivenOut (history ++ [moment]) application handle publicKey) :
    GivenOut history application handle publicKey ∨
      ∃ request response, moment.Registers request response ∧ request.application = application ∧
        response.keyHandle = handle ∧ response.publicKey = publicKey := by
  obtain ⟨given, hmem, hregisters⟩ := hgiven
  rcases List.mem_append.1 hmem with hearlier | hlast
  · exact Or.inl ⟨given, hearlier, hregisters⟩
  · exact Or.inr (List.mem_singleton.1 hlast ▸ hregisters)

theorem Moment.Registers.eq {request other : Raw.RegistrationRequest}
    {response response' : Raw.RegistrationResponse} (hregisters : moment.Registers request response)
    (hother : moment.Registers other response') : request = other ∧ response = response' := by
  cases hregisters.1.symm.trans hother.1
  cases hregisters.2.eq hother.2
  exact ⟨rfl, rfl⟩

theorem holds_of_keys_eq (hholds : Holds token history before)
    (hnone : ∀ request response, ¬ moment.Registers request response)
    (hkeys : after.keys = before.keys) : Holds token (history ++ [moment]) after := by
  have hkey? : ∀ handle, after.key? handle = before.key? handle := by
    intro handle
    rw [KeyRing.key?, hkeys, KeyRing.key?]
  constructor
  · intro handle key hkey
    obtain ⟨hgiven, hmakes⟩ := hholds.made handle key (hkey? handle ▸ hkey)
    exact ⟨hgiven.mono, hmakes⟩
  · intro application handle publicKey hgiven
    rcases hgiven.cases with hgiven | ⟨request, response, hregisters, _⟩
    · rw [hkey?]
      exact hholds.kept application handle publicKey hgiven
    · exact absurd hregisters (hnone request response)

theorem holds_addKey (hholds : Holds token history before) {request : Raw.RegistrationRequest}
    {keyPair : KeyPair}
    (hregisters : moment.Registers request (token.registrationOf request keyPair))
    (hmakes : token.suite.Makes keyPair) :
    Holds token (history ++ [moment])
      (before.addKey (token.registrationOf request keyPair).keyHandle
        ⟨request.application, keyPair⟩) := by
  constructor
  · intro handle key hkey
    rw [KeyRing.key?_addKey] at hkey
    split at hkey
    · rename_i hhandle
      cases hkey
      exact ⟨hhandle ▸ GivenOut.of_registers hregisters, hmakes⟩
    · obtain ⟨hgiven, hmade⟩ := hholds.made handle key hkey
      exact ⟨hgiven.mono, hmade⟩
  · intro application handle publicKey hgiven
    rw [KeyRing.key?_addKey]
    rcases hgiven.cases with hgiven | ⟨other, response, hother, rfl, rfl, rfl⟩
    · obtain ⟨hderived, hkey⟩ := hholds.kept application handle publicKey hgiven
      refine ⟨hderived, ?_⟩
      split
      · exact ⟨_, rfl⟩
      · exact hkey
    · obtain ⟨rfl, rfl⟩ := hregisters.eq hother
      exact ⟨rfl, _, if_pos rfl⟩

theorem Step.holds (hstep : Step token before moment after) (hholds : Holds token history before) :
    Holds token (history ++ [moment]) after := by
  cases hstep with
  | call htoken hhappens =>
      rcases Moment.keys_cases hhappens with
        ⟨request, keyPair, hregisters, hmakes, hafter⟩ | ⟨hnone, hkeys⟩
      · rw [htoken] at hregisters hmakes hafter
        rw [hafter]
        exact holds_addKey hholds hregisters hmakes
      · exact holds_of_keys_eq hholds hnone hkeys

theorem holds_ofCounter (token : Token) (counter : UInt32) :
    Holds token [] (.ofCounter counter) := by
  constructor
  · intro handle key hkey
    contradiction
  · rintro application handle publicKey ⟨moment, hmem, _⟩
    contradiction

theorem holds_of_run {earlier : List Moment} (hrun : Run (Step token) first history last)
    (hholds : Holds token earlier first) : Holds token (earlier ++ history) last := by
  induction hrun generalizing earlier with
  | done state =>
      rw [List.append_nil]
      exact hholds
  | step hstep _ ih =>
      have hnext := ih (hstep.holds hholds)
      rw [List.append_assoc] at hnext
      exact hnext

/-! What the token answers over such a ring. -/

/-- A challenge is answered with the result, directly and by command, whatever is around. -/
def Answers (token : Token) (sensor : Sensor) (challenge : Raw.AuthenticationRequest)
    (before : KeyRing) (result : Except Failure Raw.AuthenticationResponse) (after : KeyRing) :
    Prop :=
  ∀ (request : Request) (around : Surroundings),
    request.payload? = some (.authenticate challenge) →
      ∃ call left, (request.talk token).run (Memory.answer token.suite sensor) (before, around) =
          some (.ok call, after, left) ∧
        call.Returns result

theorem answers_authenticationOutcome (token : Token) (sensor : Sensor)
    (challenge : Raw.AuthenticationRequest) (ring : KeyRing) :
    Answers token sensor challenge ring (token.authenticationOutcome sensor ring challenge).1
      (token.authenticationOutcome sensor ring challenge).2 := by
  intro request around hpayload
  obtain ⟨finish, htalk, hreturns⟩ := Request.exists_talk_eq token hpayload
  obtain ⟨left, hrun⟩ := run_authenticate token token.suite sensor ring around challenge
  refine ⟨_, left, ?_, hreturns (token.authenticationOutcome sensor ring challenge).1⟩
  rw [htalk, Dialogue.run_map_attempt, hrun]
  rfl

variable {challenge : Raw.AuthenticationRequest} {key : TokenKey}

theorem answers_of_unknown (sensor : Sensor)
    (hnone : ring.keyFor? challenge.application challenge.keyHandle = none) :
    Answers token sensor challenge ring (.error .unknownKeyHandle) ring := by
  have hanswers := answers_authenticationOutcome token sensor challenge ring
  rw [authenticationOutcome_of_none hnone] at hanswers
  exact hanswers

theorem answers_of_checkOnly (sensor : Sensor)
    (hkey : ring.keyFor? challenge.application challenge.keyHandle = some key)
    (hcontrol : challenge.control = .checkOnly) :
    Answers token sensor challenge ring (.error .presenceTestRequired) ring := by
  have houtcome : token.authenticationOutcome sensor ring challenge =
      (.error .presenceTestRequired, ring) := by
    simp [authenticationOutcome, hkey, hcontrol]
  have hanswers := answers_authenticationOutcome token sensor challenge ring
  rw [houtcome] at hanswers
  exact hanswers

/-- A known key signs, with its user or without one where none is asked for. -/
theorem answers_of_known (hkey : ring.keyFor? challenge.application challenge.keyHandle = some key)
    (hcontrol : challenge.control ≠ .checkOnly)
    (hpresent : challenge.control = .enforcePresence → sensor.authentication.userPresent = true)
    (hcounter : ring.counter.toNat + 1 < UInt32.size) :
    Answers token sensor challenge ring
      (.ok (token.authenticationOf challenge key sensor.authentication (ring.counter + 1)))
      { ring with counter := ring.counter + 1 } := by
  have hgranted : (challenge.control = .enforcePresence &&
      !(sensor.presence .authentication).userPresent) = false := by
    by_cases henforced : challenge.control = .enforcePresence
    · simp [Sensor.presence, hpresent henforced]
    · simp [henforced]
  have houtcome : token.authenticationOutcome sensor ring challenge =
      (.ok (token.authenticationOf challenge key sensor.authentication (ring.counter + 1)),
        { ring with counter := ring.counter + 1 }) := by
    simp [authenticationOutcome, hkey, hcontrol, KeyRing.nextCounter_of_lt hcounter, hgranted]
  have hanswers := answers_authenticationOutcome token sensor challenge ring
  rw [houtcome] at hanswers
  exact hanswers

/-- The call says that its user was missed for a new key. -/
def Call.Refuses (registration : Raw.RegistrationRequest) : Call → Prop
  | .register request result => request = registration ∧ result = .error .presenceDenied
  | .authenticate .. => False
  | .respond _ result => result = .ok (answerBytes (.error .presenceDenied))

theorem run_register_of_absent (token : Token) (ring : KeyRing)
    (registration : Raw.RegistrationRequest) (around : Surroundings)
    (habsent : sensor.registration.userPresent = false) :
    (token.register registration).run (Memory.answer token.suite sensor) (ring, around) =
      some (.error .presenceDenied, ring, around.ask .registration registration.application) := by
  unfold register
  rw [Dialogue.run_bind_of_ok (run_presence _ _)]
  simp only [Sensor.presence, habsent, Bool.not_false, if_true]
  rfl

theorem exists_refused_of_absent {request : Request} {registration : Raw.RegistrationRequest}
    (around : Surroundings) (hpayload : request.payload? = some (.register registration))
    (habsent : sensor.registration.userPresent = false) :
    ∃ call left, (request.talk token).run (Memory.answer token.suite sensor) (ring, around) =
        some (.ok call, ring, left) ∧
      call.Refuses registration := by
  have hrefused := run_register_of_absent token ring registration around habsent
  cases request with
  | register given =>
      cases hpayload
      refine ⟨.register registration (.error .presenceDenied),
        around.ask .registration registration.application, ?_, rfl, rfl⟩
      rw [Request.talk, Dialogue.run_map_attempt, hrefused]
      rfl
  | authenticate given => simp [Request.payload?] at hpayload
  | respond command =>
      obtain ⟨decoded, hdecoded, hregister⟩ := Option.map_eq_some_iff.1 hpayload
      refine ⟨.respond command (.ok (answerBytes (.error .presenceDenied))),
        around.ask .registration registration.application, ?_, rfl⟩
      rw [Request.talk, Dialogue.run_map_attempt, run_respond (eq_ok_of_toOption_eq_some hdecoded),
        hregister, perform, Dialogue.run_bind_of_error hrefused]
      rfl

/-- What the handles that a token gave out are good for, over the ring that its calls left. -/
structure HandlesGood (token : Token) (history : List Moment) (ring : KeyRing) : Prop where
  /-- A check of a handle asks for the user. -/
  checked : ∀ challenge publicKey sensor,
    GivenOut history challenge.application challenge.keyHandle publicKey →
      challenge.control = .checkOnly →
        Answers token sensor challenge ring (.error .presenceTestRequired) ring
  /-- A challenge is signed with the key pair of the public key that was returned. -/
  signed : ∀ application handle publicKey, GivenOut history application handle publicKey →
    ∃ keyPair, token.suite.Makes keyPair ∧ keyPair.publicKey.toRaw = publicKey ∧
      ∀ challenge sensor, challenge.application = application → challenge.keyHandle = handle →
        challenge.control ≠ .checkOnly →
          (challenge.control = .enforcePresence → sensor.authentication.userPresent = true) →
            ring.counter.toNat + 1 < UInt32.size →
              Answers token sensor challenge ring
                (.ok ⟨sensor.authentication, ring.counter + 1, token.suite.sign keyPair
                  (Raw.authenticationSignedBytes application sensor.authentication
                    (ring.counter + 1) challenge.challenge)⟩)
                { ring with counter := ring.counter + 1 }
  /-- To any other application a handle is unknown. -/
  foreign : ∀ challenge application publicKey sensor,
    GivenOut history application challenge.keyHandle publicKey →
      challenge.application ≠ application →
        Answers token sensor challenge ring (.error .unknownKeyHandle) ring
  never : ∀ challenge sensor,
    (∀ application publicKey, ¬ GivenOut history application challenge.keyHandle publicKey) →
      Answers token sensor challenge ring (.error .unknownKeyHandle) ring
  /-- Without its user, a registration keeps nothing. -/
  refused : ∀ (request : Request) registration (sensor : Sensor) around,
    request.payload? = some (.register registration) → sensor.registration.userPresent = false →
      ∃ call left, (request.talk token).run (Memory.answer token.suite sensor) (ring, around) =
          some (.ok call, ring, left) ∧
        call.Refuses registration

/-- A handle stands for a key pair of the public key that it was given out with. -/
theorem Holds.exists_keyFor? (hholds : Holds token history ring)
    (hdistinct : DistinctHandles token history)
    (hgiven : GivenOut history application handle publicKey) :
    ∃ keyPair, token.suite.Makes keyPair ∧ keyPair.publicKey.toRaw = publicKey ∧
      ring.key? handle = some ⟨application, keyPair⟩ := by
  obtain ⟨hderived, ⟨owner, keyPair⟩, hkey⟩ := hholds.kept application handle publicKey hgiven
  obtain ⟨hother, hmakes⟩ := hholds.made handle ⟨owner, keyPair⟩ hkey
  obtain ⟨hsame, _⟩ := hholds.kept _ _ _ hother
  obtain ⟨rfl, hpublic⟩ := hdistinct _ _ _ _ _ _ hother hgiven (hsame.symm.trans hderived)
  exact ⟨keyPair, hmakes, hpublic, hkey⟩

/-- Over a run from an empty ring, handles stay good for the application they were given out for,
and are good for no other. -/
theorem handles_of_run {counter : UInt32}
    (hrun : Run (Step token) (.ofCounter counter) history last)
    (hdistinct : DistinctHandles token history) : HandlesGood token history last := by
  have hholds := holds_of_run hrun (holds_ofCounter token counter)
  constructor
  case checked =>
    intro challenge publicKey sensor hgiven hcontrol
    obtain ⟨keyPair, _, _, hkey⟩ := hholds.exists_keyFor? hdistinct hgiven
    exact answers_of_checkOnly sensor (KeyRing.keyFor?_eq_some_iff.2 ⟨hkey, rfl⟩) hcontrol
  case signed =>
    intro application handle publicKey hgiven
    obtain ⟨keyPair, hmakes, hpublic, hkey⟩ := hholds.exists_keyFor? hdistinct hgiven
    refine ⟨keyPair, hmakes, hpublic, ?_⟩
    rintro challenge sensor rfl rfl hcontrol hpresent hcounter
    exact answers_of_known (KeyRing.keyFor?_eq_some_iff.2 ⟨hkey, rfl⟩) hcontrol hpresent hcounter
  case foreign =>
    intro challenge application publicKey sensor hgiven hne
    obtain ⟨keyPair, _, _, hkey⟩ := hholds.exists_keyFor? hdistinct hgiven
    apply answers_of_unknown
    rw [KeyRing.keyFor?, hkey]
    simp [Ne.symm hne]
  case never =>
    intro challenge sensor hnever
    apply answers_of_unknown
    cases hkey : last.key? challenge.keyHandle with
    | none => rw [KeyRing.keyFor?, hkey, Option.filter_none]
    | some key => exact absurd (hholds.made _ key hkey).1 (hnever _ _)
  case refused =>
    intro request registration sensor around hpayload habsent
    exact exists_refused_of_absent around hpayload habsent

/-! One key pair, enrolled for two applications. -/

open Scene (batchToken enrolmentRequest enrolmentMade)

def secondRequest : Raw.RegistrationRequest :=
  { enrolmentRequest with application := blockOfNat 32 0 }

def secondMade : Moment where
  token := batchToken
  sensor := ⟨.confirmed, .absent⟩
  around := .ofTape (bytesOfNat 32 1)
  before := enrolmentMade.after
  call := .register secondRequest (.ok (batchToken.registrationOf secondRequest KeyPair.base))
  after := enrolmentMade.after.addKey
    (batchToken.registrationOf secondRequest KeyPair.base).keyHandle
    ⟨secondRequest.application, KeyPair.base⟩

theorem ends_secondMade : secondMade.Ends (batchToken.register secondRequest)
    (.ok (batchToken.registrationOf secondRequest KeyPair.base)) :=
  run_register_of_present (by decide) Tape.drawKeyPair_base

theorem givenOut_enrolments
    (hgiven : GivenOut [enrolmentMade, secondMade] application handle publicKey) :
    (application = enrolmentRequest.application ∨ application = secondRequest.application) ∧
      publicKey = KeyPair.base.publicKey.toRaw := by
  obtain ⟨moment, hmem, request, response, hregisters, rfl, rfl, rfl⟩ := hgiven
  rcases List.mem_cons.1 hmem with rfl | hmem
  · obtain ⟨rfl, rfl⟩ := hregisters.eq ⟨rfl, Scene.ends_enrolmentMade⟩
    exact ⟨Or.inl rfl, rfl⟩
  · obtain rfl := List.mem_singleton.1 hmem
    obtain ⟨rfl, rfl⟩ := hregisters.eq ⟨rfl, ends_secondMade⟩
    exact ⟨Or.inr rfl, rfl⟩

theorem distinctHandles_enrolments : DistinctHandles batchToken [enrolmentMade, secondMade] := by
  intro application other handle handle' publicKey publicKey' hgiven hother hsame
  obtain ⟨happlication, rfl⟩ := givenOut_enrolments hgiven
  obtain ⟨happlication', rfl⟩ := givenOut_enrolments hother
  have hdiffer : batchToken.keyHandle enrolmentRequest.application KeyPair.base.publicKey.toRaw ≠
      batchToken.keyHandle secondRequest.application KeyPair.base.publicKey.toRaw := by
    decide +kernel
  refine ⟨?_, rfl⟩
  rcases happlication with rfl | rfl
  · rcases happlication' with rfl | rfl
    · rfl
    · exact absurd hsame hdiffer
  · rcases happlication' with rfl | rfl
    · exact absurd hsame.symm hdiffer
    · rfl

theorem handles_of_run_two_applications :
    HandlesGood batchToken [enrolmentMade, secondMade] secondMade.after := by
  have hfirst : enrolmentMade.Happens := Scene.ends_enrolmentMade
  have hsecond : secondMade.Happens := ends_secondMade
  have hrun : Run (Step batchToken) (.ofCounter 0) [enrolmentMade, secondMade] secondMade.after :=
    .step (.call rfl hfirst) (.step (.call rfl hsecond) (.done _))
  exact handles_of_run hrun distinctHandles_enrolments

end Token

end SecondFactor
