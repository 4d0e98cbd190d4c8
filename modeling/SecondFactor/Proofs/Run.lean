/-!
Runs: steps that follow one another, the earliest first. What every step preserves holds after a
run if it held before, and a run can be cut wherever one of its steps is.
-/

namespace SecondFactor

variable {σ μ : Type}

/-- The steps that lead from one state to another. -/
inductive Run (step : σ → μ → σ → Prop) : σ → List μ → σ → Prop
  | done (state : σ) : Run step state [] state
  | step {first between last : σ} {moment : μ} {rest : List μ} :
      step first moment between → Run step between rest last →
        Run step first (moment :: rest) last

namespace Run

variable {step : σ → μ → σ → Prop} {first last : σ} {earlier later history : List μ} {moment : μ}

theorem cut (hrun : Run step first (earlier ++ later) last) :
    ∃ between, Run step first earlier between ∧ Run step between later last := by
  induction earlier generalizing first with
  | nil => exact ⟨first, .done first, hrun⟩
  | cons moment rest ih =>
      cases hrun with
      | step hfirst hrest =>
          obtain ⟨between, hearlier, hlater⟩ := ih hrest
          exact ⟨between, .step hfirst hearlier, hlater⟩

/-- A run up to one of its steps, that step, and the run from there on. -/
theorem cut_at (hrun : Run step first (earlier ++ moment :: later) last) :
    ∃ before after, Run step first earlier before ∧ step before moment after ∧
      Run step after later last := by
  obtain ⟨before, hearlier, hrest⟩ := hrun.cut
  cases hrest with
  | step hmoment hlater => exact ⟨before, _, hearlier, hmoment, hlater⟩

theorem cut_last (hrun : Run step first (earlier ++ [moment]) last) :
    ∃ before, Run step first earlier before ∧ step before moment last := by
  obtain ⟨before, after, hearlier, hmoment, hdone⟩ := hrun.cut_at
  cases hdone
  exact ⟨before, hearlier, hmoment⟩

theorem append {between : σ} (hearlier : Run step first earlier between)
    (hlater : Run step between later last) : Run step first (earlier ++ later) last := by
  induction hearlier with
  | done => exact hlater
  | step hmoment _ ih => exact .step hmoment (ih hlater)

/-- What every step of a run preserves. -/
theorem invariant (Holds : σ → Prop) (hrun : Run step first history last)
    (hstep : ∀ moment ∈ history, ∀ before after, step before moment after → Holds before →
      Holds after) (hfirst : Holds first) : Holds last := by
  induction hrun with
  | done => exact hfirst
  | step hmoment _ ih =>
      refine ih ?_ (hstep _ List.mem_cons_self _ _ hmoment hfirst)
      intro moment hmem
      exact hstep moment (List.mem_cons_of_mem _ hmem)

/-- What holds of every step, wherever it is taken. -/
theorem forall_mem (Holds : μ → Prop) (hrun : Run step first history last)
    (hstep : ∀ before moment after, step before moment after → Holds moment) :
    ∀ moment ∈ history, Holds moment := by
  induction hrun with
  | done => simp
  | step hmoment _ ih =>
      intro moment hmem
      rcases List.mem_cons.1 hmem with rfl | hmem
      · exact hstep _ _ _ hmoment
      · exact ih moment hmem

end Run

end SecondFactor
