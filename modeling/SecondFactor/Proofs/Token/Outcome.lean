import SecondFactor.Proofs.Token.Calls

/-!
What becomes of a challenge that a token is asked to sign, as a function of the ring it meets:
over a ring in memory the operation always ends just so (`run_authenticate`), and raises the
counter by one at most (`counter_authenticationOutcome`).
-/

namespace SecondFactor

namespace KeyRing

/-- The key that a handle stands for, to an application. -/
def keyFor? (ring : KeyRing) (application : Digest) (handle : Bytes) : Option TokenKey :=
  (ring.key? handle).filter fun key => key.application = application

theorem keyFor?_eq_some_iff {ring : KeyRing} {application : Digest} {handle : Bytes}
    {key : TokenKey} :
    ring.keyFor? application handle = some key ↔
      ring.key? handle = some key ∧ key.application = application := by
  simp [keyFor?, Option.filter_eq_some_iff]

theorem nextCounter_of_lt {ring : KeyRing} (h : ring.counter.toNat + 1 < UInt32.size) :
    ring.nextCounter = (.ok (ring.counter + 1), { ring with counter := ring.counter + 1 }) :=
  if_pos h

theorem nextCounter_of_not_lt {ring : KeyRing} (h : ¬ ring.counter.toNat + 1 < UInt32.size) :
    ring.nextCounter = (.error (.storage "counter exhausted"), ring) :=
  if_neg h

theorem toNat_counter_succ {counter : UInt32} (h : counter.toNat + 1 < UInt32.size) :
    (counter + 1).toNat = counter.toNat + 1 := by
  rw [UInt32.toNat_add]
  exact Nat.mod_eq_of_lt h

end KeyRing

namespace Token

variable {token : Token} {suite : Suite} {sensor : Sensor} {request : Raw.AuthenticationRequest}

/-- The result of a challenge, and the ring it leaves. -/
def authenticationOutcome (token : Token) (sensor : Sensor) (ring : KeyRing)
    (request : Raw.AuthenticationRequest) : Except Failure Raw.AuthenticationResponse × KeyRing :=
  match ring.keyFor? request.application request.keyHandle with
  | none => (.error .unknownKeyHandle, ring)
  | some key =>
    if request.control = .checkOnly then (.error .presenceTestRequired, ring)
    else
      match ring.nextCounter with
      | (.error failure, ring) => (.error failure, ring)
      | (.ok counter, ring) =>
        if request.control = .enforcePresence &&
            !(sensor.presence .authentication).userPresent then
          (.error .presenceDenied, ring)
        else (.ok (token.authenticationOf request key sensor.authentication counter), ring)

theorem authenticationOutcome_of_none {ring : KeyRing}
    (h : ring.keyFor? request.application request.keyHandle = none) :
    token.authenticationOutcome sensor ring request = (.error .unknownKeyHandle, ring) := by
  simp [authenticationOutcome, h]

/-- A known key signs with the next counter, when its user is there. -/
theorem authenticationOutcome_of_present {ring : KeyRing} {key : TokenKey}
    (h : ring.keyFor? request.application request.keyHandle = some key)
    (hcontrol : request.control ≠ .checkOnly)
    (hcounter : ring.counter.toNat + 1 < UInt32.size)
    (hpresent : sensor.authentication.userPresent = true) :
    token.authenticationOutcome sensor ring request =
      (.ok (token.authenticationOf request key sensor.authentication (ring.counter + 1)),
        { ring with counter := ring.counter + 1 }) := by
  simp [authenticationOutcome, h, hcontrol, KeyRing.nextCounter_of_lt hcounter,
    Sensor.presence, hpresent]

/-- A known key that is to sign does so, or there is no further counter, or no user, which costs a
counter. -/
theorem authenticationOutcome_cases {ring : KeyRing} {key : TokenKey}
    (h : ring.keyFor? request.application request.keyHandle = some key)
    (hcontrol : request.control = .enforcePresence) :
    (¬ ring.counter.toNat + 1 < UInt32.size ∧
        token.authenticationOutcome sensor ring request =
          (.error (.storage "counter exhausted"), ring)) ∨
      ring.counter.toNat + 1 < UInt32.size ∧
        ((sensor.authentication.userPresent = false ∧
            token.authenticationOutcome sensor ring request =
              (.error .presenceDenied, { ring with counter := ring.counter + 1 })) ∨
          sensor.authentication.userPresent = true ∧
            token.authenticationOutcome sensor ring request =
              (.ok (token.authenticationOf request key sensor.authentication (ring.counter + 1)),
                { ring with counter := ring.counter + 1 })) := by
  have hmore : request.control ≠ .checkOnly := by simp [hcontrol]
  by_cases hcounter : ring.counter.toNat + 1 < UInt32.size
  · refine Or.inr ⟨hcounter, ?_⟩
    cases hpresent : sensor.authentication.userPresent with
    | false =>
        refine Or.inl ⟨rfl, ?_⟩
        simp [authenticationOutcome, h, hcontrol, KeyRing.nextCounter_of_lt hcounter,
          Sensor.presence, hpresent]
    | true => exact Or.inr ⟨rfl, authenticationOutcome_of_present h hmore hcounter hpresent⟩
  · refine Or.inl ⟨hcounter, ?_⟩
    simp [authenticationOutcome, h, hcontrol, KeyRing.nextCounter_of_not_lt hcounter]

theorem run_findKey (suite : Suite) (sensor : Sensor) (ring : KeyRing) (around : Surroundings)
    (application : Digest) (handle : Bytes) :
    ∃ left, (findKey application handle).run (Memory.answer suite sensor) (ring, around) =
      some ((ring.keyFor? application handle).elim (.error .unknownKeyHandle) .ok, ring,
        left) := by
  have hlook : (Talk.key? handle).run (Memory.answer suite sensor) (ring, around) =
      some (.ok (ring.key? handle), ring, around) := rfl
  unfold findKey
  rw [Dialogue.run_bind_of_ok hlook, ← KeyRing.keyFor?]
  cases ring.keyFor? application handle with
  | none => exact ⟨_, rfl⟩
  | some key => exact ⟨around, rfl⟩

theorem run_authenticate (token : Token) (suite : Suite) (sensor : Sensor) (ring : KeyRing)
    (around : Surroundings) (request : Raw.AuthenticationRequest) :
    ∃ left, (token.authenticate request).run (Memory.answer suite sensor) (ring, around) =
      some ((token.authenticationOutcome sensor ring request).1,
        (token.authenticationOutcome sensor ring request).2, left) := by
  obtain ⟨found, hfind⟩ :=
    run_findKey suite sensor ring around request.application request.keyHandle
  unfold authenticate authenticationOutcome
  cases hkey : ring.keyFor? request.application request.keyHandle with
  | none =>
      rw [hkey] at hfind
      exact ⟨found, Dialogue.run_bind_of_error hfind _⟩
  | some key =>
      rw [hkey] at hfind
      rw [Dialogue.run_bind_of_ok hfind]
      by_cases hcontrol : request.control = .checkOnly
      · simp only [if_pos hcontrol]
        exact ⟨found, rfl⟩
      simp only [if_neg hcontrol]
      have hcount : Talk.nextCounter.run (Memory.answer suite sensor) (ring, found) =
          some (ring.nextCounter.1, ring.nextCounter.2, found) :=
        run_nextCounter
      cases hnext : ring.nextCounter with
      | mk result after =>
          rw [hnext] at hcount
          cases result with
          | error failure => exact ⟨found, Dialogue.run_bind_of_error hcount _⟩
          | ok counter =>
              rw [Dialogue.run_bind_of_ok hcount, Dialogue.run_bind_of_ok (run_presence _ _)]
              by_cases hdenied : (request.control = .enforcePresence &&
                  !(sensor.presence .authentication).userPresent) = true
              · rw [if_pos hdenied]
                dsimp only
                rw [if_pos hdenied]
                exact ⟨_, rfl⟩
              · rw [if_neg hdenied]
                dsimp only
                rw [if_neg hdenied]
                exact ⟨_, rfl⟩

/-- A challenge raises the counter by one at most, and leaves a ring without its key as it was. -/
theorem counter_authenticationOutcome (token : Token) (sensor : Sensor) (ring : KeyRing)
    (request : Raw.AuthenticationRequest) :
    (token.authenticationOutcome sensor ring request).2.counter.toNat ≤ ring.counter.toNat + 1 ∧
      ((token.authenticationOutcome sensor ring request).1 = .error .unknownKeyHandle →
        (token.authenticationOutcome sensor ring request).2 = ring) := by
  unfold authenticationOutcome
  cases ring.keyFor? request.application request.keyHandle with
  | none => simp
  | some key =>
      by_cases hcontrol : request.control = .checkOnly
      · simp [hcontrol]
      by_cases hcounter : ring.counter.toNat + 1 < UInt32.size
      · simp only [if_neg hcontrol, KeyRing.nextCounter_of_lt hcounter]
        split <;> simp [KeyRing.toNat_counter_succ hcounter]
      · simp [if_neg hcontrol, KeyRing.nextCounter_of_not_lt hcounter]

/-- A registration is refused without its user, and else keeps the key pair it draws. -/
theorem run_register_eq_some {request : Raw.RegistrationRequest} {before after : KeyRing}
    {around left : Surroundings} {result : Except Failure Raw.RegistrationResponse}
    (hrun : (token.register request).run (Memory.answer suite sensor) (before, around) =
      some (result, after, left)) :
    (sensor.registration.userPresent = false ∧ result = .error .presenceDenied ∧
        after = before) ∨
      ∃ keyPair tape, sensor.registration.userPresent = true ∧
        Tape.drawKeyPair suite around.tape = some (keyPair, tape) ∧
        result = .ok (token.registrationOf request keyPair) ∧
        after = before.addKey (token.registrationOf request keyPair).keyHandle
          ⟨request.application, keyPair⟩ := by
  unfold register at hrun
  rw [Dialogue.run_bind_of_ok (run_presence _ _)] at hrun
  simp only [Sensor.presence] at hrun
  cases hpresent : sensor.registration.userPresent with
  | false =>
      simp only [hpresent, Bool.not_false, if_true] at hrun
      cases hrun
      exact Or.inl ⟨rfl, rfl, rfl⟩
  | true =>
      simp only [hpresent, Bool.not_true, Bool.false_eq_true, if_false] at hrun
      rcases Dialogue.run_bind_eq_some hrun with
        ⟨keyPair, ⟨_, _⟩, hpair, hrest⟩ | ⟨_, hpair, _⟩
      · rw [run_newKeyPair] at hpair
        obtain ⟨⟨drawn, tape⟩, hdraw, hdrawn⟩ := Option.bind_eq_some_iff.1 hpair
        cases hdrawn
        cases hrest
        exact Or.inr ⟨keyPair, tape, rfl, hdraw, rfl, rfl⟩
      · rw [run_newKeyPair] at hpair
        obtain ⟨⟨drawn, tape⟩, _, hdrawn⟩ := Option.bind_eq_some_iff.1 hpair
        cases hdrawn

end Token

end SecondFactor
