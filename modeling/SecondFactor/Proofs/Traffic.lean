import Mathlib.Logic.Function.Basic
import SecondFactor.Proofs.Exchange

/-!
Dialogues under way at once over one state. One answer to one of them is one step: between two of
its questions a dialogue does nothing that the others could see. However they interleave, what was
said in each of them is a beginning of its own talk, `after_of_run`.
-/

namespace SecondFactor

/-- What was said with one of `n` callers. -/
structure Access (Question : Type) (Answer : Question → Type) (n : Nat) where
  caller : Fin n
  exchange : Exchange Question Answer

/-- Dialogues under way, each with what is left of it, and the state they have in common. -/
structure Traffic (Question : Type) (Answer : Question → Type) (σ α : Type) (n : Nat) where
  state : σ
  talks : Fin n → Dialogue Question Answer α

variable {Question ι σ α : Type} {Answer : Question → Type} {n : Nat}

/-- Any one of the dialogues has its next question answered. It depends on the caller how that may
be; nothing else around the answer is restricted. -/
inductive Traffic.Step
    (answer : Fin n → ι → (question : Question) → Effect σ (Answer question)) :
    Traffic Question Answer σ α n → Access Question Answer n →
      Traffic Question Answer σ α n → Prop
  | answer {traffic : Traffic Question Answer σ α n} {caller : Fin n} {question : Question}
      {next : Answer question → Dialogue Question Answer α} {source : ι}
      {around left : Surroundings} {given : Answer question} {after : σ} :
      traffic.talks caller = .ask question next →
        answer caller source question (traffic.state, around) = some (given, after, left) →
          Step answer traffic ⟨caller, question, given⟩
            ⟨after, Function.update traffic.talks caller (next given)⟩

/-- What was said with one caller. -/
def said (accesses : List (Access Question Answer n)) (caller : Fin n) :
    List (Exchange Question Answer) :=
  (accesses.filter fun access => access.caller = caller).map Access.exchange

variable {answer : Fin n → ι → (question : Question) → Effect σ (Answer question)}
  {accesses : List (Access Question Answer n)} {access : Access Question Answer n}
  {first last before after : Traffic Question Answer σ α n} {caller : Fin n}

theorem mem_said_iff {exchange : Exchange Question Answer} :
    exchange ∈ said accesses caller ↔ ⟨caller, exchange⟩ ∈ accesses := by
  rw [said, List.mem_map]
  constructor
  · rintro ⟨⟨asker, exchanged⟩, hmem, rfl⟩
    obtain ⟨haccess, hcaller⟩ := List.mem_filter.1 hmem
    obtain rfl : asker = caller := of_decide_eq_true hcaller
    exact haccess
  · intro hmem
    exact ⟨_, List.mem_filter.2 ⟨hmem, decide_eq_true rfl⟩, rfl⟩

theorem said_cons_self (accesses : List (Access Question Answer n))
    (access : Access Question Answer n) :
    said (access :: accesses) access.caller = access.exchange :: said accesses access.caller := by
  simp [said]

theorem said_cons_of_ne (accesses : List (Access Question Answer n))
    (h : access.caller ≠ caller) : said (access :: accesses) caller = said accesses caller := by
  simp [said, h]

theorem Traffic.Step.answered (hstep : Step answer before access after) :
    ∃ source around left, answer access.caller source access.exchange.question
      (before.state, around) = some (access.exchange.answer, after.state, left) := by
  cases hstep with
  | answer _ hanswer => exact ⟨_, _, _, hanswer⟩

/-- However the dialogues interleave, each goes on as it does alone. -/
theorem after_of_run (hrun : Run (Traffic.Step answer) first accesses last) (caller : Fin n) :
    (first.talks caller).After (said accesses caller) (last.talks caller) := by
  induction hrun with
  | done state => exact .here _
  | step hstep _ ih =>
      cases hstep with
      | @answer asker question next _ _ _ given _ hasks _ =>
          dsimp only at ih
          by_cases hcaller : asker = caller
          · subst hcaller
            rw [hasks, said_cons_self]
            apply Dialogue.After.there
            rw [Function.update_self] at ih
            exact ih
          · rw [said_cons_of_ne _ hcaller]
            rw [Function.update_of_ne (Ne.symm hcaller)] at ih
            exact ih

end SecondFactor
