import SecondFactor.Dialogue
import SecondFactor.Surroundings

/-!
Dialogues held over a state of their own. A dialogue that goes on into another is held as the two
one after the other, and a failure of the first ends both.
-/

namespace SecondFactor.Dialogue

variable {Question : Type} {Answer : Question → Type} {α β σ : Type}
variable {answer : (question : Question) → Effect σ (Answer question)}

theorem run_bind (first : Dialogue Question Answer α) (rest : α → Dialogue Question Answer β)
    (before : σ × Surroundings) :
    (first >>= rest).run answer before =
      (first.run answer before).bind fun
        | (.ok value, after) => (rest value).run answer after
        | (.error failure, after) => some (.error failure, after) := by
  induction first generalizing before with
  | done value => rfl
  | fail failure => rfl
  | ask question next ih =>
      change (answer question before).bind (fun given => (next given.1 >>= rest).run answer given.2)
        = ((answer question before).bind fun given => (next given.1).run answer given.2).bind _
      rw [Option.bind_assoc]
      exact Option.bind_congr fun given _ => ih given.1 given.2

theorem run_bind_of_ok {first : Dialogue Question Answer α} {value : α}
    {before after : σ × Surroundings}
    (hfirst : first.run answer before = some (.ok value, after))
    (rest : α → Dialogue Question Answer β) :
    (first >>= rest).run answer before = (rest value).run answer after := by
  rw [run_bind, hfirst]
  rfl

theorem run_bind_of_error {first : Dialogue Question Answer α} {failure : Failure}
    {before after : σ × Surroundings}
    (hfirst : first.run answer before = some (.error failure, after))
    (rest : α → Dialogue Question Answer β) :
    (first >>= rest).run answer before = some (.error failure, after) := by
  rw [run_bind, hfirst]
  rfl

/-- An outcome of two dialogues in a row is one of the second, or a failure of the first. -/
theorem run_bind_eq_some {first : Dialogue Question Answer α}
    {rest : α → Dialogue Question Answer β} {result : Except Failure β}
    {before after : σ × Surroundings}
    (hrun : (first >>= rest).run answer before = some (result, after)) :
    (∃ value between, first.run answer before = some (.ok value, between) ∧
        (rest value).run answer between = some (result, after)) ∨
      ∃ failure, first.run answer before = some (.error failure, after) ∧
        result = .error failure := by
  rw [run_bind] at hrun
  obtain ⟨⟨failure | value, between⟩, hfirst, hrest⟩ := Option.bind_eq_some_iff.1 hrun
  · cases hrest
    exact Or.inr ⟨failure, hfirst, rfl⟩
  · exact Or.inl ⟨value, between, hfirst, hrest⟩

theorem run_ofExcept (result : Except Failure α) (state : σ × Surroundings) :
    (ofExcept result : Dialogue Question Answer α).run answer state = some (result, state) := by
  cases result <;> rfl

/-- A question whose answer is the result comes to what its answer comes to. -/
theorem bind_run_ofExcept (outcome : Option (Except Failure α × σ × Surroundings)) :
    (outcome.bind fun given =>
      (ofExcept given.1 : Dialogue Question Answer α).run answer given.2) = outcome := by
  cases outcome with
  | none => rfl
  | some given => exact run_ofExcept given.1 given.2

theorem run_attempt (dialogue : Dialogue Question Answer α) (before : σ × Surroundings) :
    dialogue.attempt.run answer before =
      (dialogue.run answer before).map fun (result, after) => (.ok result, after) := by
  induction dialogue generalizing before with
  | done value => rfl
  | fail failure => rfl
  | ask question next ih =>
      change (answer question before).bind (fun given => (next given.1).attempt.run answer given.2)
        = ((answer question before).bind fun given => (next given.1).run answer given.2).map _
      rw [Option.map_bind]
      exact Option.bind_congr fun given _ => ih given.1 given.2

/-- Followed by what cannot fail, an attempt ends in what that makes of its result. -/
theorem run_map_attempt (change : Except Failure α → β) (dialogue : Dialogue Question Answer α)
    (before : σ × Surroundings) :
    (change <$> dialogue.attempt).run answer before =
      (dialogue.run answer before).map fun (result, after) => (.ok (change result), after) := by
  rw [← bind_pure_comp, run_bind, run_attempt, Option.bind_map]
  cases dialogue.run answer before <;> rfl

end SecondFactor.Dialogue
