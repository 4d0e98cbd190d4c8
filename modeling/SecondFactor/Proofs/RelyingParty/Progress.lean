import Mathlib.Data.List.FinRange
import SecondFactor.Proofs.RelyingParty.Stages

/-!
No call waits for another. Whatever the others did, it can go on to its next stage,
`exists_run_next`, and be brought to its end, `exists_run_done`. So every run of interleaved calls
is the beginning of one in which all of them end, `calls_complete`.
-/

namespace SecondFactor.RelyingParty

variable {n : Nat} {party : RelyingParty} {first traffic : Traffic n} {store : AccountStore}
  {stages : Fin n → Stage} {calls : Fin n → Call} {accesses : List (Access n)} {caller : Fin n}

theorem Follows.exists_answer {inquiry : Inquiry} {next : inquiry.Answer → Talk Event}
    {stage : Stage} (hfollows : Follows party (.ask inquiry next) stage) (store : AccountStore) :
    ∃ source around given after left,
      Memory.answer source inquiry (store, around) = some (given, after, left) := by
  cases hfollows with
  | warn hnext => exact ⟨.random, .ofTape [], _, _, _, rfl⟩
  | ask given hanswer hnext => exact ⟨.random, .ofTape [], _, _, _, hanswer _ _ _⟩

/-- Whatever became of the others, a call can go on to its next stage. -/
theorem exists_run_next {talk : Talk Event} {stage : Stage}
    (htalk : traffic.talks caller = talk) (hfollows : Follows party talk stage) :
    ∃ accesses last, Run Traffic.Step traffic accesses last ∧
      last.state = stage.effect traffic.state ∧
      Follows party (last.talks caller) (stage.next party traffic.state) ∧
      ∀ other, other ≠ caller → last.talks other = traffic.talks other := by
  induction talk generalizing traffic with
  | done event =>
      rcases hfollows.of_done with rfl | ⟨response, rfl, _⟩
      · exact ⟨[], traffic, .done _, rfl, htalk ▸ hfollows, fun _ _ => rfl⟩
      · exact ⟨[], traffic, .done _, rfl, htalk ▸ hfollows, fun _ _ => rfl⟩
  | fail failure => cases hfollows
  | ask inquiry next ih =>
      obtain ⟨source, around, given, after, left, hanswer⟩ :=
        hfollows.exists_answer traffic.state
      have hstep : Traffic.Step traffic ⟨caller, inquiry, given⟩
          ⟨after, Function.update traffic.talks caller (next given)⟩ :=
        .answer htalk hanswer
      have hself := Function.update_self caller (next given) traffic.talks
      have hothers : ∀ other, other ≠ caller →
          Function.update traffic.talks caller (next given) other = traffic.talks other :=
        fun other hother => Function.update_of_ne hother _ _
      rcases hfollows.answer hanswer with ⟨hnext, rfl⟩ | ⟨hnext, rfl⟩
      · obtain ⟨accesses, last, hrun, hstore, hlast, hrest⟩ := @ih given
          ⟨traffic.state, Function.update traffic.talks caller (next given)⟩ hself hnext
        exact ⟨_, last, .step hstep hrun, hstore, hlast, fun other hother =>
          (hrest other hother).trans (hothers other hother)⟩
      · exact ⟨_, _, .step hstep (.done _), rfl, by simpa only [hself] using hnext, hothers⟩

/-- Whatever became of the others, a call can be brought to its end. -/
theorem exists_run_done {talk : Talk Event} {stage : Stage}
    (htalk : traffic.talks caller = talk) (hfollows : Follows party talk stage) :
    ∃ accesses last event, Run Traffic.Step traffic accesses last ∧
      last.talks caller = .done event ∧
      ∀ other, other ≠ caller → last.talks other = traffic.talks other := by
  induction talk generalizing traffic stage with
  | done event => exact ⟨[], traffic, event, .done _, htalk, fun _ _ => rfl⟩
  | fail failure => cases hfollows
  | ask inquiry next ih =>
      obtain ⟨source, around, given, after, left, hanswer⟩ :=
        hfollows.exists_answer traffic.state
      obtain ⟨stage, hnext⟩ : ∃ stage, Follows party (next given) stage := by
        rcases hfollows.answer hanswer with ⟨hnext, _⟩ | ⟨hnext, _⟩ <;> exact ⟨_, hnext⟩
      obtain ⟨accesses, last, event, hrun, hlast, hothers⟩ := @ih given
        ⟨after, Function.update traffic.talks caller (next given)⟩ stage
        (Function.update_self ..) hnext
      refine ⟨_, last, event, .step (.answer htalk hanswer) hrun, hlast, fun other hother => ?_⟩
      exact (hothers other hother).trans (Function.update_of_ne hother ..)

theorem exists_follows_of_run {last : Traffic n} (hrun : Run Traffic.Step traffic accesses last)
    (hfollows : ∃ stages : Fin n → Stage, ∀ caller,
      Follows party (traffic.talks caller) (stages caller)) :
    ∃ stages : Fin n → Stage, ∀ caller, Follows party (last.talks caller) (stages caller) := by
  refine hrun.invariant (fun traffic => ∃ stages : Fin n → Stage, ∀ caller,
    Follows party (traffic.talks caller) (stages caller)) (fun _ _ before after hstep hbefore => ?_)
    hfollows
  obtain ⟨stages, hbefore⟩ := hbefore
  exact hstep.exists_follows hbefore

/-- All calls can be brought to their ends. -/
theorem exists_run_all_done (hfollows : ∃ stages : Fin n → Stage, ∀ caller,
      Follows party (traffic.talks caller) (stages caller)) :
    ∃ (accesses : List (Access n)) (last : Traffic n) (events : Fin n → Event),
      Run Traffic.Step traffic accesses last ∧
        ∀ caller, last.talks caller = .done (events caller) := by
  have hsome : ∀ callers : List (Fin n), ∃ accesses last, Run Traffic.Step traffic accesses last ∧
      ∀ caller ∈ callers, ∃ event, last.talks caller = .done event := by
    intro callers
    induction callers with
    | nil => exact ⟨[], traffic, .done _, by simp⟩
    | cons caller rest ih =>
        obtain ⟨accesses, between, hrun, hdone⟩ := ih
        obtain ⟨stages, hbetween⟩ := exists_follows_of_run hrun hfollows
        obtain ⟨accesses', last, event, hrest, hlast, hothers⟩ :=
          exists_run_done rfl (hbetween caller)
        refine ⟨_, last, hrun.append hrest, fun other hmem => ?_⟩
        by_cases hother : other = caller
        · exact ⟨event, hother ▸ hlast⟩
        · rw [hothers other hother]
          exact hdone other ((List.mem_cons.1 hmem).resolve_left hother)
  obtain ⟨accesses, last, hrun, hdone⟩ := hsome (List.finRange n)
  choose events hevents using fun caller => hdone caller (List.mem_finRange caller)
  exact ⟨accesses, last, events, hrun, hevents⟩

/-- However far calls have come, they can all be brought to their ends. So an order of whole calls,
which is found for calls that have ended, bears on every run. -/
theorem calls_complete (hrun : Run Traffic.Step (.ofCalls party store calls) accesses traffic) :
    ∃ (rest : List (Access n)) (last : Traffic n) (events : Fin n → Event),
      Run Traffic.Step traffic rest last ∧
        ∀ caller, last.talks caller = .done (events caller) :=
  exists_run_all_done (exists_follows_of_run hrun ⟨_, fun caller => follows_start (calls caller)⟩)

/-- From the first traffic on, the calls can come to the stages, and the store to be this one. -/
def Reaches (party : RelyingParty) (first : Traffic n) (store : AccountStore)
    (stages : Fin n → Stage) : Prop :=
  ∃ accesses last, Run Traffic.Step first accesses last ∧ last.state = store ∧
    ∀ caller, Follows party (last.talks caller) (stages caller)

theorem reaches_start (party : RelyingParty) (store : AccountStore) (calls : Fin n → Call) :
    Reaches party (.ofCalls party store calls) store fun caller => .start (calls caller) :=
  ⟨[], _, .done _, rfl, fun caller => follows_start (calls caller)⟩

theorem Reaches.next (hreaches : Reaches party first store stages) (caller : Fin n) :
    Reaches party first ((stages caller).effect store)
      (Function.update stages caller ((stages caller).next party store)) := by
  obtain ⟨accesses, between, hrun, rfl, hfollows⟩ := hreaches
  obtain ⟨accesses', last, hrest, hstore, hlast, hothers⟩ := exists_run_next rfl (hfollows caller)
  refine ⟨_, last, hrun.append hrest, hstore, ?_⟩
  refine (Function.forall_update_iff stages fun other stage =>
    Follows party (last.talks other) stage).2 ⟨hlast, fun other hother => ?_⟩
  rw [hothers other hother]
  exact hfollows other

end SecondFactor.RelyingParty
