import Mathlib.Data.Fin.VecNotation
import Mathlib.Data.List.Nodup
import SecondFactor.Proofs.PublicKey
import SecondFactor.Proofs.Token.Stages

/-!
The counter of a ring that calls of several tokens share while they interleave. It tells how many
values were given out, one at most to a call, and no two responses carry one value. What an
authentication does to it follows from what the ring held when the handle was looked up, and no
authentication ends before it was (`counted_of_run`).
-/

namespace SecondFactor.Token

/-- The values given out, each with the caller that got it, in order. -/
def raises {n : Nat} (accesses : List (Access n)) : List (Fin n × UInt32) :=
  accesses.filterMap fun access =>
    (Said.raised? access.exchange).map fun counter => (access.caller, counter)

/-- No step taken for the caller changes what is seen of the ring. -/
def Spares {n : Nat} {α : Type} (tokens : Fin n → Token) (first : Traffic n)
    (accesses : List (Access n)) (caller : Fin n) (view : KeyRing → α) : Prop :=
  ∀ earlier access later before after, accesses = earlier ++ access :: later →
    access.caller = caller → Run (Traffic.Step tokens) first earlier before →
      Traffic.Step tokens before access after → view after.state = view before.state

/-- The caller has a handle looked up while the ring is such, and is told what the ring holds. -/
def LooksUp {n : Nat} (tokens : Fin n → Token) (first : Traffic n) (accesses : List (Access n))
    (caller : Fin n) (handle : Bytes) (ring : KeyRing) : Prop :=
  ∃ earlier later before,
    accesses = earlier ++ ⟨caller, .key handle, .ok (ring.key? handle)⟩ :: later ∧
      Run (Traffic.Step tokens) first earlier before ∧ before.state = ring

/-- What is true of the counter of a ring after any steps of the calls that share it. -/
structure Counted {n : Nat} (tokens : Fin n → Token) (requests : Fin n → Request) (ring : KeyRing)
    (accesses : List (Access n)) (last : Traffic n) : Prop where
  /-- The counter never starts again. -/
  total : last.state.counter.toNat = ring.counter.toNat + (raises accesses).length
  above : ∀ raise ∈ raises accesses, ring.counter < raise.2
  rising : (raises accesses).Pairwise fun raise later => raise.2 < later.2
  /-- A call raises the counter once at most. -/
  once : ((raises accesses).map Prod.fst).Nodup
  /-- An authentication is never stuck, asks three questions at most, and returns a result. -/
  ends : ∀ caller request, (requests caller).payload? = some (.authenticate request) →
    (said accesses caller).length ≤ 3 ∧
      ((∃ call result, last.talks caller = .done call ∧ call.Returns result) ∨
        ∃ access after, access.caller = caller ∧ Traffic.Step tokens last access after)
  /-- A response carries the value that its own call got. -/
  carried : ∀ caller request call response,
    (requests caller).payload? = some (.authenticate request) → last.talks caller = .done call →
      call.Returns (.ok response) → (caller, response.counter) ∈ raises accesses
  distinct : ∀ caller other, caller ≠ other → ∀ request request' call call' response response',
    (requests caller).payload? = some (.authenticate request) →
      (requests other).payload? = some (.authenticate request') →
        last.talks caller = .done call → last.talks other = .done call' →
          call.Returns (.ok response) → call'.Returns (.ok response') →
            response.counter ≠ response'.counter
  /-- A call that is not to sign leaves the counter as it is. -/
  idle : ∀ caller, (∀ request, (requests caller).payload? = some (.authenticate request) →
    request.control = .checkOnly) → Spares tokens (.ofRequests tokens requests ring) accesses caller
      KeyRing.counter
  /-- No authentication ends before it has looked its handle up. -/
  looked : ∀ caller request call, (requests caller).payload? = some (.authenticate request) →
    last.talks caller = .done call →
      ∃ met, LooksUp tokens (.ofRequests tokens requests ring) accesses caller request.keyHandle met
  /-- One whose handle is unknown there, or stands for a key of another application, leaves the ring
  as it is, and fails. -/
  unknown : ∀ caller request met, (requests caller).payload? = some (.authenticate request) →
    LooksUp tokens (.ofRequests tokens requests ring) accesses caller request.keyHandle met →
      met.keyFor? request.application request.keyHandle = none →
        Spares tokens (.ofRequests tokens requests ring) accesses caller id ∧
          ∀ call, last.talks caller = .done call → call.Returns (.error .unknownKeyHandle)
  /-- One that is to sign with a key that is known there uses a value up, or the counter is at its
  greatest. -/
  known : ∀ caller request met key call,
    (requests caller).payload? = some (.authenticate request) → request.control ≠ .checkOnly →
      LooksUp tokens (.ofRequests tokens requests ring) accesses caller request.keyHandle met →
        met.keyFor? request.application request.keyHandle = some key →
          last.talks caller = .done call →
            (∃ counter result, (caller, counter) ∈ raises accesses ∧
              Spends (tokens caller) request key counter result ∧ call.Returns result) ∨
            last.state.counter.toNat + 1 = UInt32.size ∧
              call.Returns (.error (.storage "counter exhausted")) ∧
              Spares tokens (.ofRequests tokens requests ring) accesses caller id
  /-- A signature that is refused for want of a user uses a value up. -/
  denied : ∀ caller request call,
    (requests caller).payload? = some (.authenticate request) → request.control ≠ .checkOnly →
      last.talks caller = .done call → call.Returns (.error .presenceDenied) →
        ∃ counter, (caller, counter) ∈ raises accesses
  /-- A call that is to sign with a known key, and has no value when the counter is at its greatest,
  fails, and leaves the ring as it is. -/
  exhausted : ∀ earlier later middle caller request met key call, accesses = earlier ++ later →
    Run (Traffic.Step tokens) (.ofRequests tokens requests ring) earlier middle →
      Run (Traffic.Step tokens) middle later last → middle.state.counter.toNat + 1 = UInt32.size →
        (∀ counter, (caller, counter) ∉ raises earlier) →
          (requests caller).payload? = some (.authenticate request) →
            request.control ≠ .checkOnly →
              LooksUp tokens (.ofRequests tokens requests ring) accesses caller request.keyHandle
                  met →
                met.keyFor? request.application request.keyHandle = some key →
                  last.talks caller = .done call →
                    call.Returns (.error (.storage "counter exhausted")) ∧
                      Spares tokens (.ofRequests tokens requests ring) accesses caller id

variable {n : Nat} {tokens : Fin n → Token} {requests : Fin n → Request} {ring : KeyRing}
  {accesses : List (Access n)} {access : Access n} {first last before after : Traffic n}
  {caller : Fin n} {token : Token} {request : Raw.AuthenticationRequest} {history : List Said}
  {rest : Talk Raw.AuthenticationResponse}

/-! One step, and from it a run. -/

theorem Traffic.Step.counter (hstep : Step tokens before access after) :
    (Said.raised? access.exchange = none ∧
        after.state.counter = before.state.counter) ∨
      Said.raised? access.exchange = some after.state.counter ∧
        after.state.counter.toNat = before.state.counter.toNat + 1 := by
  have hreplies := hstep.replies
  obtain ⟨asker, inquiry, given⟩ := access
  generalize after.state = left at hreplies ⊢
  cases hreplies with
  | raised hcounter => exact Or.inr ⟨rfl, KeyRing.toNat_counter_succ hcounter⟩
  | _ => exact Or.inl ⟨rfl, rfl⟩

/-- The values given out in a run are all that follow the counter it began with. -/
theorem raises_of_run (hrun : Run (Traffic.Step tokens) first accesses last) :
    last.state.counter.toNat = first.state.counter.toNat + (raises accesses).length ∧
      (raises accesses).map (fun raise => raise.2.toNat) =
        List.range' (first.state.counter.toNat + 1) (raises accesses).length := by
  induction hrun with
  | done state => exact ⟨rfl, rfl⟩
  | @step first between last access rest hstep _ ih =>
      obtain ⟨hlast, hvalues⟩ := ih
      rcases hstep.counter with ⟨hnone, hsame⟩ | ⟨hraised, hcounter⟩
      · have hraises : raises (access :: rest) = raises rest := by
          rw [raises, List.filterMap_cons, hnone]
          rfl
        rw [hraises, ← hsame]
        exact ⟨hlast, hvalues⟩
      · have hraises : raises (access :: rest) =
            (access.caller, between.state.counter) :: raises rest := by
          rw [raises, List.filterMap_cons, hraised]
          rfl
        rw [hraises, List.length_cons, List.map_cons, List.range'_succ, ← hcounter]
        exact ⟨by omega, congrArg _ hvalues⟩

theorem filterMap_raised?_said (accesses : List (Access n)) (caller : Fin n) :
    (said accesses caller).filterMap Said.raised? =
      ((raises accesses).filter fun raise => raise.1 = caller).map Prod.snd := by
  induction accesses with
  | nil => rfl
  | cons access rest ih =>
      by_cases hcaller : access.caller = caller
      · subst hcaller
        rw [said_cons_self, List.filterMap_cons, raises, List.filterMap_cons]
        cases Said.raised? access.exchange with
        | none => exact ih
        | some counter =>
            rw [Option.map_some, List.filter_cons_of_pos (by simp)]
            exact congrArg (counter :: ·) ih
      · rw [said_cons_of_ne _ hcaller, raises, List.filterMap_cons]
        cases Said.raised? access.exchange with
        | none => exact ih
        | some counter =>
            rw [Option.map_some, List.filter_cons_of_neg (by simpa using hcaller)]
            exact ih

theorem mem_raises_iff {counter : UInt32} :
    (caller, counter) ∈ raises accesses ↔
      counter ∈ (said accesses caller).filterMap Said.raised? := by
  rw [filterMap_raised?_said]
  simp

theorem LooksUp.found {handle : Bytes} {met : KeyRing}
    (hlooks : LooksUp tokens first accesses caller handle met) :
    met.key? handle ∈ (said accesses caller).filterMap Said.found? := by
  obtain ⟨earlier, later, before, rfl, _, _⟩ := hlooks
  refine List.mem_filterMap.2 ⟨⟨.key handle, .ok (met.key? handle)⟩, mem_said_iff.2 ?_, rfl⟩
  exact List.mem_append_right earlier List.mem_cons_self

theorem Memory.exists_answer (suite : Suite) (sensor : Sensor) {inquiry : Inquiry}
    (hinquiry : inquiry ≠ .newKeyPair) (before : KeyRing × Surroundings) :
    ∃ given after, answer suite sensor inquiry before = some (given, after) := by
  cases inquiry with
  | newKeyPair => contradiction
  | _ => exact ⟨_, _, rfl⟩

/-! What the steps of a call do to the ring. -/

theorem Traffic.Step.ring_eq (hstep : Step tokens before access after)
    (hraised : Said.raised? access.exchange = none)
    (hkept : Said.kept? access.exchange = none) : after.state = before.state := by
  have hreplies := hstep.replies
  obtain ⟨asker, inquiry, given⟩ := access
  generalize after.state = left at hreplies ⊢
  cases hreplies with
  | raised _ => contradiction
  | keepKey handle key => contradiction
  | _ => rfl

theorem said_of_split {earlier later : List (Access n)}
    (hsplit : accesses = earlier ++ access :: later) :
    access.exchange ∈ said accesses access.caller := by
  apply mem_said_iff.2
  rw [hsplit]
  exact List.mem_append_right earlier List.mem_cons_self

theorem spares_counter (hraised : (said accesses caller).filterMap Said.raised? = []) :
    Spares tokens first accesses caller KeyRing.counter := by
  intro earlier access later before after hsplit hcaller _ hstep
  have hnone := List.filterMap_eq_nil_iff.1 hraised _ (hcaller ▸ said_of_split hsplit)
  rcases hstep.counter with ⟨_, hsame⟩ | ⟨hsome, _⟩
  · exact hsame
  · rw [hnone] at hsome
    contradiction

theorem spares_ring (hraised : (said accesses caller).filterMap Said.raised? = [])
    (hkept : (said accesses caller).filterMap Said.kept? = []) :
    Spares tokens first accesses caller id := by
  intro earlier access later before after hsplit hcaller _ hstep
  have hsaid := hcaller ▸ said_of_split hsplit
  apply hstep.ring_eq
  · exact List.filterMap_eq_nil_iff.1 hraised _ hsaid
  · exact List.filterMap_eq_nil_iff.1 hkept _ hsaid

theorem asks_register (token : Token) (request : Raw.RegistrationRequest) :
    (token.register request).Asks (· ≠ .nextCounter) := by
  unfold register
  apply Dialogue.Asks.bind (.ask (by simp) fun presence => .done _)
  intro presence
  split
  · exact .fail _
  apply Dialogue.Asks.bind (.ask (by simp) fun keyPair => .done _)
  intro keyPair
  apply Dialogue.Asks.bind (.ask (by simp) fun kept => .ofExcept _)
  intro kept
  exact .done _

/-- Only to sign is the counter asked for. -/
theorem Request.asks_talk (token : Token) {request : Request}
    (hpayload : ∀ challenge, request.payload? ≠ some (.authenticate challenge)) :
    (request.talk token).Asks (· ≠ .nextCounter) := by
  cases request with
  | register request => exact (asks_register token request).attempt.map _
  | authenticate request => exact absurd rfl (hpayload request)
  | respond command =>
      apply Dialogue.Asks.map
      apply Dialogue.Asks.attempt
      unfold Token.respond
      cases hdecode : Raw.Command.decode command with
      | error status => exact .ask (by simp) fun _ => .done _
      | ok decoded =>
          apply Dialogue.Asks.map
          apply Dialogue.Asks.attempt
          cases hdecoded : decoded.payload with
          | register request =>
              apply (asks_register token request).bind
              intro response
              cases response.encode with
              | error fault => exact .fail _
              | ok bytes => exact .done _
          | authenticate request =>
              refine absurd ?_ (hpayload request)
              rw [payload?, hdecode, ← hdecoded]
              rfl
          | version => exact .done _

theorem not_raised_of_run
    (hrun : Run (Traffic.Step tokens) (.ofRequests tokens requests ring) accesses last)
    (hcheck : ∀ request, (requests caller).payload? = some (.authenticate request) →
      request.control = .checkOnly) :
    (said accesses caller).filterMap Said.raised? = [] := by
  by_cases hpayload : ∃ request, (requests caller).payload? = some (.authenticate request)
  · obtain ⟨request, hpayload⟩ := hpayload
    obtain ⟨_, rest, hstage, _⟩ := stage_of_run hrun hpayload
    exact hstage.not_raised_of_checkOnly (hcheck request hpayload)
  · have hasks := Request.asks_talk (tokens caller) fun request h => hpayload ⟨request, h⟩
    apply List.filterMap_eq_nil_iff.2
    rintro ⟨inquiry, given⟩ hsaid
    have hquestion := hasks.of_after (after_of_run hrun caller) _ hsaid
    cases inquiry with
    | nextCounter => exact absurd rfl hquestion
    | _ => rfl

theorem length_raised_le_of_run
    (hrun : Run (Traffic.Step tokens) (.ofRequests tokens requests ring) accesses last)
    (caller : Fin n) : ((said accesses caller).filterMap Said.raised?).length ≤ 1 := by
  by_cases hpayload : ∃ request, (requests caller).payload? = some (.authenticate request)
  · obtain ⟨request, hpayload⟩ := hpayload
    obtain ⟨_, rest, hstage, _⟩ := stage_of_run hrun hpayload
    exact hstage.length_raised_le
  · rw [not_raised_of_run hrun fun request h => absurd ⟨request, h⟩ hpayload]
    exact Nat.zero_le 1

theorem nodup_callers_of_run
    (hrun : Run (Traffic.Step tokens) (.ofRequests tokens requests ring) accesses last) :
    ((raises accesses).map Prod.fst).Nodup := by
  apply List.nodup_iff_count_le_one.2
  intro caller
  have hcount := length_raised_le_of_run hrun caller
  rw [filterMap_raised?_said, List.length_map, ← List.countP_eq_length_filter] at hcount
  rw [List.count, List.countP_map]
  refine le_trans (le_of_eq ?_) hcount
  exact List.countP_congr fun raise _ => by simp

theorem ends_of_run
    (hrun : Run (Traffic.Step tokens) (.ofRequests tokens requests ring) accesses last)
    (hpayload : (requests caller).payload? = some (.authenticate request)) :
    (∃ call result, last.talks caller = .done call ∧ call.Returns result) ∨
      ∃ access after, access.caller = caller ∧ Traffic.Step tokens last access after := by
  obtain ⟨finish, rest, hstage, htalk, hreturns⟩ := stage_of_run hrun hpayload
  rcases hstage.ends_or_asks with ⟨result, rfl⟩ | ⟨inquiry, next, rfl, hinquiry⟩
  · rw [Dialogue.map_attempt_ofExcept] at htalk
    exact Or.inl ⟨_, result, htalk, hreturns result⟩
  · obtain ⟨given, ⟨after, left⟩, hanswer⟩ := Memory.exists_answer (tokens caller).suite .absent
      hinquiry (last.state, .ofTape [])
    exact Or.inr ⟨_, _, rfl, .answer htalk hanswer⟩

theorem carried_of_run
    (hrun : Run (Traffic.Step tokens) (.ofRequests tokens requests ring) accesses last)
    (hpayload : (requests caller).payload? = some (.authenticate request)) {call : Call}
    {response : Raw.AuthenticationResponse} (hdone : last.talks caller = .done call)
    (hreturns : call.Returns (.ok response)) : (caller, response.counter) ∈ raises accesses := by
  obtain ⟨result, hstage, hresult⟩ := stage_of_done hrun hpayload hdone
  obtain ⟨given, rfl, hcounter⟩ := hresult.exists_eq_ok hreturns
  apply mem_raises_iff.2
  rw [hstage.raised_of_done, hcounter]
  exact List.mem_singleton_self _

theorem rising_of_run (hrun : Run (Traffic.Step tokens) first accesses last) :
    (∀ raise ∈ raises accesses, first.state.counter < raise.2) ∧
      (raises accesses).Pairwise fun raise later => raise.2 < later.2 := by
  obtain ⟨_, hvalues⟩ := raises_of_run hrun
  constructor
  · intro raise hraise
    have hvalue : raise.2.toNat ∈ (raises accesses).map fun raise => raise.2.toNat :=
      List.mem_map_of_mem hraise
    rw [hvalues, List.mem_range'_1] at hvalue
    exact UInt32.lt_iff_toNat_lt.2 hvalue.1
  · have hrising : ((raises accesses).map fun raise => raise.2.toNat).Pairwise (· < ·) := by
      rw [hvalues]
      exact List.pairwise_lt_range'
    apply (List.pairwise_map.1 hrising).imp
    intro raise later hlt
    exact UInt32.lt_iff_toNat_lt.2 hlt

/-- A value is given to one caller. -/
theorem caller_eq_of_mem_raises (hrun : Run (Traffic.Step tokens) first accesses last)
    {other : Fin n} {counter : UInt32} (hraise : (caller, counter) ∈ raises accesses)
    (hother : (other, counter) ∈ raises accesses) : caller = other := by
  have hvalues : ((raises accesses).map Prod.snd).Nodup := by
    apply List.pairwise_map.2
    apply (rising_of_run hrun).2.imp
    intro raise later hlt
    exact UInt32.ne_of_lt hlt
  exact congrArg Prod.fst (List.inj_on_of_nodup_map hvalues hraise hother rfl)

/-- Behind the greatest value nothing is given out. -/
theorem raises_eq_nil_of_greatest (hrun : Run (Traffic.Step tokens) first accesses last)
    (hgreatest : first.state.counter.toNat + 1 = UInt32.size) : raises accesses = [] := by
  have hlast := (raises_of_run hrun).1
  have hbound := last.state.counter.toNat_lt_size
  apply List.eq_nil_of_length_eq_zero
  omega

/-- The counter fails only where it has no greater value, and then it stays there. -/
theorem greatest_of_uncounted (hrun : Run (Traffic.Step tokens) first accesses last)
    {failure : Failure} (hsaid : Said.counted (.error failure) ∈ said accesses caller) :
    failure = .storage "counter exhausted" ∧ last.state.counter.toNat + 1 = UInt32.size := by
  obtain ⟨earlier, later, rfl⟩ := List.append_of_mem (mem_said_iff.1 hsaid)
  obtain ⟨before, after, _, hstep, hlater⟩ := hrun.cut_at
  have hlast := (raises_of_run hlater).1
  have hbound := last.state.counter.toNat_lt_size
  have hreplies := hstep.replies
  generalize after.state = left at hreplies hlast
  generalize before.state = met at hreplies
  cases hreplies with
  | exhausted hcounter =>
      refine ⟨rfl, ?_⟩
      omega

theorem looksUp_of_done
    (hrun : Run (Traffic.Step tokens) (.ofRequests tokens requests ring) accesses last)
    (hpayload : (requests caller).payload? = some (.authenticate request)) {call : Call}
    (hdone : last.talks caller = .done call) :
    ∃ met, LooksUp tokens (.ofRequests tokens requests ring) accesses caller request.keyHandle
      met := by
  obtain ⟨result, hstage, _⟩ := stage_of_done hrun hpayload hdone
  obtain ⟨given, hlooked⟩ := hstage.exists_looked
  obtain ⟨earlier, later, hsplit⟩ := List.append_of_mem (mem_said_iff.1 hlooked)
  obtain ⟨before, after, hearlier, hstep, _⟩ := (hsplit ▸ hrun).cut_at
  have hanswer : given = .ok (before.state.key? request.keyHandle) := by
    have hreplies := hstep.replies
    generalize after.state = left at hreplies
    cases hreplies
    rfl
  exact ⟨before.state, earlier, later, before, hanswer ▸ hsplit, hearlier, rfl⟩

theorem unknown_of_run
    (hrun : Run (Traffic.Step tokens) (.ofRequests tokens requests ring) accesses last)
    (hpayload : (requests caller).payload? = some (.authenticate request)) {met : KeyRing}
    (hlooks : LooksUp tokens first accesses caller request.keyHandle met)
    (hunknown : met.keyFor? request.application request.keyHandle = none) :
    Spares tokens first accesses caller id ∧
      ∀ call, last.talks caller = .done call → call.Returns (.error .unknownKeyHandle) := by
  obtain ⟨_, rest, hstage, _⟩ := stage_of_run hrun hpayload
  refine ⟨spares_ring (hstage.not_raised_of_unknown hlooks.found hunknown) hstage.not_kept, ?_⟩
  intro call hdone
  obtain ⟨result, hended, hresult⟩ := stage_of_done hrun hpayload hdone
  rwa [hended.eq_of_unknown hlooks.found hunknown] at hresult

theorem known_of_run
    (hrun : Run (Traffic.Step tokens) (.ofRequests tokens requests ring) accesses last)
    (hpayload : (requests caller).payload? = some (.authenticate request))
    (hcontrol : request.control ≠ .checkOnly) {met : KeyRing} {key : TokenKey}
    (hlooks : LooksUp tokens first accesses caller request.keyHandle met)
    (hkey : met.keyFor? request.application request.keyHandle = some key) {call : Call}
    (hdone : last.talks caller = .done call) :
    (∃ counter result, (caller, counter) ∈ raises accesses ∧
        Spends (tokens caller) request key counter result ∧ call.Returns result) ∨
      last.state.counter.toNat + 1 = UInt32.size ∧
        call.Returns (.error (.storage "counter exhausted")) ∧
        Spares tokens first accesses caller id := by
  obtain ⟨result, hstage, hresult⟩ := stage_of_done hrun hpayload hdone
  obtain ⟨hheld, happlication⟩ := KeyRing.keyFor?_eq_some_iff.1 hkey
  rcases hstage.spends_or_fails (hheld ▸ hlooks.found) happlication hcontrol with
    ⟨counter, hraised, hspends⟩ | ⟨failure, hnone, hfault, rfl⟩
  · refine Or.inl ⟨counter, result, mem_raises_iff.2 ?_, hspends, hresult⟩
    rw [hraised]
    exact List.mem_singleton_self counter
  · obtain ⟨rfl, hgreatest⟩ := greatest_of_uncounted hrun hfault
    exact Or.inr ⟨hgreatest, hresult, spares_ring hnone hstage.not_kept⟩

/-- A user is missed only where the counter was raised: neither an unknown key nor an exhausted
counter is reported as that. -/
theorem exists_raised_of_denied
    (hrun : Run (Traffic.Step tokens) (.ofRequests tokens requests ring) accesses last)
    (hpayload : (requests caller).payload? = some (.authenticate request))
    (hcontrol : request.control ≠ .checkOnly) {call : Call} (hdone : last.talks caller = .done call)
    (hdenied : call.Returns (.error .presenceDenied)) :
    ∃ counter, (caller, counter) ∈ raises accesses := by
  obtain ⟨met, hlooks⟩ := looksUp_of_done hrun hpayload hdone
  cases hkey : met.keyFor? request.application request.keyHandle with
  | none =>
      have hunknown := (unknown_of_run hrun hpayload hlooks hkey).2 call hdone
      rcases hunknown.eq_error hdenied with hfailure | hfailure <;> cases hfailure
  | some key =>
      rcases known_of_run hrun hpayload hcontrol hlooks hkey hdone with
        ⟨counter, _, hraise, _⟩ | ⟨_, hexhausted, _⟩
      · exact ⟨counter, hraise⟩
      · rcases hexhausted.eq_error hdenied with hfailure | hfailure <;> cases hfailure

/-- The counter of a ring that calls share counts the values given out, and each response carries a
value of its own. -/
theorem counted_of_run
    (hrun : Run (Traffic.Step tokens) (.ofRequests tokens requests ring) accesses last) :
    Counted tokens requests ring accesses last where
  total := (raises_of_run hrun).1
  above := (rising_of_run hrun).1
  rising := (rising_of_run hrun).2
  once := nodup_callers_of_run hrun
  ends := by
    intro caller request hpayload
    obtain ⟨_, rest, hstage, _⟩ := stage_of_run hrun hpayload
    exact ⟨hstage.length_le, ends_of_run hrun hpayload⟩
  carried := by
    intro caller request call response hpayload hdone hreturns
    exact carried_of_run hrun hpayload hdone hreturns
  distinct := by
    intro caller other hne request request' call call' response response' hpayload hpayload' hdone
      hdone' hreturns hreturns' hcounter
    refine hne (caller_eq_of_mem_raises hrun (carried_of_run hrun hpayload hdone hreturns) ?_)
    rw [hcounter]
    exact carried_of_run hrun hpayload' hdone' hreturns'
  idle := by
    intro caller hcheck
    exact spares_counter (not_raised_of_run hrun hcheck)
  looked := by
    intro caller request call hpayload hdone
    exact looksUp_of_done hrun hpayload hdone
  unknown := by
    intro caller request met hpayload hlooks hunknown
    exact unknown_of_run hrun hpayload hlooks hunknown
  known := by
    intro caller request met key call hpayload hcontrol hlooks hkey hdone
    exact known_of_run hrun hpayload hcontrol hlooks hkey hdone
  denied := by
    intro caller request call hpayload hcontrol hdone hreturns
    exact exists_raised_of_denied hrun hpayload hcontrol hdone hreturns
  exhausted := by
    intro earlier later middle caller request met key call hsplit _ hlater hgreatest hnone hpayload
      hcontrol hlooks hkey hdone
    rcases known_of_run hrun hpayload hcontrol hlooks hkey hdone with
      ⟨counter, result, hraise, _⟩ | ⟨_, hfailed⟩
    · rw [hsplit, raises, List.filterMap_append, ← raises, ← raises,
        raises_eq_nil_of_greatest hlater hgreatest, List.append_nil] at hraise
      exact absurd hraise (hnone counter)
    · exact hfailed

/-! Two tokens that share a ring with one key. The second counts first, and misses its user. -/

def sharedKey : TokenKey := ⟨blockOfNat 32 0, KeyPair.base⟩

def sharedRing : KeyRing := (KeyRing.ofCounter 7).addKey [] sharedKey

def sharingTokens : Fin 2 → Token :=
  ![⟨.standard, ⟨[], KeyPair.base⟩, blockOfNat 32 0⟩,
    ⟨.standard, ⟨[], KeyPair.base⟩, blockOfNat 32 1⟩]

def sharedChallenge (control : Raw.Control) : Raw.AuthenticationRequest :=
  ⟨control, blockOfNat 32 0, blockOfNat 32 0, []⟩

def sharingRequests : Fin 2 → Request :=
  ![.authenticate (sharedChallenge .withoutPresence),
    .authenticate (sharedChallenge .enforcePresence)]

def sharingAccesses : List (Access 2) :=
  [⟨0, .key [], .ok (some sharedKey)⟩, ⟨1, .key [], .ok (some sharedKey)⟩,
    ⟨1, .nextCounter, .ok 8⟩, ⟨0, .nextCounter, .ok 9⟩,
    ⟨1, .presence .authentication (blockOfNat 32 0), Raw.Presence.absent⟩,
    ⟨0, .presence .authentication (blockOfNat 32 0), Raw.Presence.absent⟩]

theorem Traffic.Step.of_absent {traffic : Traffic n} {inquiry : Inquiry}
    {next : inquiry.Answer → Talk Call} {given : inquiry.Answer} {left : KeyRing × Surroundings}
    (hasks : traffic.talks caller = .ask inquiry next)
    (hanswer : Memory.answer (tokens caller).suite .absent inquiry (traffic.state, .ofTape []) =
      some (given, left)) :
    Step tokens traffic ⟨caller, inquiry, given⟩
      ⟨left.1, Function.update traffic.talks caller (next given)⟩ :=
  .answer hasks hanswer

theorem exists_run_sharing : ∃ last response,
    Run (Traffic.Step sharingTokens) (.ofRequests sharingTokens sharingRequests sharedRing)
        sharingAccesses last ∧
      last.talks 0 = .done (.authenticate (sharedChallenge .withoutPresence) (.ok response)) ∧
      last.talks 1 =
        .done (.authenticate (sharedChallenge .enforcePresence) (.error .presenceDenied)) := by
  exact ⟨_, _, .step (.of_absent rfl rfl) <| .step (.of_absent rfl rfl) <|
    .step (.of_absent rfl rfl) <| .step (.of_absent rfl rfl) <| .step (.of_absent rfl rfl) <|
    .step (.of_absent rfl rfl) <| .done _, rfl, rfl⟩

theorem counted_of_run_sharing : ∃ last response,
    Counted sharingTokens sharingRequests sharedRing sharingAccesses last ∧
      last.state.counter.toNat = 9 ∧
      last.talks 0 = .done (.authenticate (sharedChallenge .withoutPresence) (.ok response)) ∧
      (0, response.counter) ∈ raises sharingAccesses ∧
      (∃ counter, (1, counter) ∈ raises sharingAccesses) ∧
      ∃ met, LooksUp sharingTokens (.ofRequests sharingTokens sharingRequests sharedRing)
        sharingAccesses 1 [] met := by
  obtain ⟨last, response, hrun, hfirst, hsecond⟩ := exists_run_sharing
  have hcounted := counted_of_run hrun
  refine ⟨last, response, hcounted, hcounted.total, hfirst, ?_, ?_, ?_⟩
  · exact hcounted.carried 0 _ _ _ rfl hfirst rfl
  · exact hcounted.denied 1 _ _ rfl (by decide) hsecond rfl
  · exact hcounted.looked 1 _ _ rfl hsecond

end SecondFactor.Token
