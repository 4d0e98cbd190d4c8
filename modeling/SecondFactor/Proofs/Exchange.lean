import SecondFactor.Proofs.Run
import SecondFactor.Proofs.Dialogue

/-!
What is said in a dialogue: exchanges of a question and an answer, and what the dialogue goes on
with after them. A dialogue is held with those who answer just when its exchanges lead to its end
and each is answered as they answer it, `run_eq_some_iff`.
-/

namespace SecondFactor

/-- A question that was put, with the answer that was given. -/
structure Exchange (Question : Type) (Answer : Question → Type) where
  question : Question
  answer : Answer question

namespace Dialogue

variable {Question : Type} {Answer : Question → Type} {α σ : Type}

/-- What a dialogue goes on with after some exchanges. Any answer may be given. -/
inductive After : Dialogue Question Answer α → List (Exchange Question Answer) →
    Dialogue Question Answer α → Prop
  | here (dialogue : Dialogue Question Answer α) : After dialogue [] dialogue
  | there {question : Question} {answer : Answer question}
      {next : Answer question → Dialogue Question Answer α}
      {history : List (Exchange Question Answer)} {rest : Dialogue Question Answer α} :
      After (next answer) history rest →
        After (.ask question next) (⟨question, answer⟩ :: history) rest

variable {history : List (Exchange Question Answer)} {rest : Dialogue Question Answer α}

theorem after_done_iff {value : α} :
    (done value : Dialogue Question Answer α).After history rest ↔
      history = [] ∧ rest = done value := by
  constructor
  · intro hafter
    cases hafter
    exact ⟨rfl, rfl⟩
  · rintro ⟨rfl, rfl⟩
    exact .here _

theorem after_fail_iff {failure : Failure} :
    (fail failure : Dialogue Question Answer α).After history rest ↔
      history = [] ∧ rest = fail failure := by
  constructor
  · intro hafter
    cases hafter
    exact ⟨rfl, rfl⟩
  · rintro ⟨rfl, rfl⟩
    exact .here _

theorem after_ofExcept_iff {result : Except Failure α} :
    (ofExcept result : Dialogue Question Answer α).After history rest ↔
      history = [] ∧ rest = ofExcept result := by
  cases result with
  | error failure => exact after_fail_iff
  | ok value => exact after_done_iff

/-- Either nothing was said yet, or the first question was answered. -/
theorem after_ask_iff {question : Question} {next : Answer question → Dialogue Question Answer α} :
    (ask question next).After history rest ↔
      (history = [] ∧ rest = ask question next) ∨
        ∃ answer tail, history = ⟨question, answer⟩ :: tail ∧ (next answer).After tail rest := by
  constructor
  · intro hafter
    cases hafter with
    | here => exact Or.inl ⟨rfl, rfl⟩
    | there htail => exact Or.inr ⟨_, _, rfl, htail⟩
  · rintro (⟨rfl, rfl⟩ | ⟨answer, tail, rfl, htail⟩)
    · exact .here _
    · exact .there htail

/-! Dialogues that have come to their ends. -/

theorem ofExcept_injective :
    Function.Injective (ofExcept : Except Failure α → Dialogue Question Answer α) := by
  intro result other hend
  cases result <;> cases other <;> cases hend <;> rfl

theorem after_end (given : Except Failure α) {result : Except Failure α}
    (hafter : (ofExcept given : Dialogue Question Answer α).After history (ofExcept result)) :
    history = [] ∧ result = given := by
  obtain ⟨hhistory, hend⟩ := after_ofExcept_iff.1 hafter
  exact ⟨hhistory, ofExcept_injective hend⟩

/-- A question was answered before the end. -/
theorem exists_answer_of_after {question : Question}
    {next : Answer question → Dialogue Question Answer α} {result : Except Failure α}
    (hafter : (ask question next).After history (ofExcept result)) :
    ∃ answer tail, history = ⟨question, answer⟩ :: tail ∧
      (next answer).After tail (ofExcept result) := by
  rcases after_ask_iff.1 hafter with ⟨_, hend⟩ | htail
  · cases result <;> cases hend
  · exact htail

/-- Of two dialogues in sequence, the first has come to an end of its own. -/
theorem exists_end_of_bind {γ : Type} {first : Dialogue Question Answer α}
    {next : α → Dialogue Question Answer γ} {result : Except Failure γ}
    (hafter : (first >>= next).After history (ofExcept result)) :
    ∃ front back given, history = front ++ back ∧ first.After front (ofExcept given) ∧
      (ofExcept given >>= next).After back (ofExcept result) := by
  induction first generalizing history with
  | done value => exact ⟨[], history, .ok value, rfl, .here _, hafter⟩
  | fail failure => exact ⟨[], history, .error failure, rfl, .here _, hafter⟩
  | ask question left ih =>
      obtain ⟨answer, tail, rfl, htail⟩ := exists_answer_of_after hafter
      obtain ⟨front, back, given, rfl, hfront, hback⟩ := ih answer htail
      exact ⟨⟨question, answer⟩ :: front, back, given, rfl, .there hfront, hback⟩

/-! What is said in an attempt is what is said in the dialogue that it attempts. -/

variable {β : Type} {change : Except Failure α → β} {dialogue : Dialogue Question Answer α}

theorem map_attempt_ofExcept (result : Except Failure α) :
    change <$> (ofExcept result : Dialogue Question Answer α).attempt = done (change result) := by
  cases result <;> rfl

theorem map_attempt_eq_done {value : β} (hdone : change <$> dialogue.attempt = done value) :
    ∃ result, dialogue = ofExcept result ∧ value = change result := by
  cases dialogue with
  | done given =>
      cases hdone
      exact ⟨.ok given, rfl, rfl⟩
  | fail failure =>
      cases hdone
      exact ⟨.error failure, rfl, rfl⟩
  | ask question next => cases hdone

theorem after_map_attempt {left : Dialogue Question Answer β}
    (hafter : (change <$> dialogue.attempt).After history left) :
    ∃ rest, dialogue.After history rest ∧ left = change <$> rest.attempt := by
  induction dialogue generalizing history with
  | done value =>
      obtain ⟨rfl, rfl⟩ := after_done_iff.1 hafter
      exact ⟨done value, .here _, rfl⟩
  | fail failure =>
      obtain ⟨rfl, rfl⟩ := after_done_iff.1 hafter
      exact ⟨fail failure, .here _, rfl⟩
  | ask question next ih =>
      rcases after_ask_iff.1 hafter with ⟨rfl, rfl⟩ | ⟨answer, tail, rfl, htail⟩
      · exact ⟨ask question next, .here _, rfl⟩
      · obtain ⟨rest, hrest, rfl⟩ := ih answer htail
        exact ⟨rest, .there hrest, rfl⟩

/-- An attempt that has come to its end has a result to go on with. -/
theorem ofExcept_eq_map_attempt {result : Except Failure β}
    (hend : ofExcept result = change <$> dialogue.attempt) :
    ∃ attempted, dialogue = ofExcept attempted ∧ result = .ok (change attempted) := by
  cases result with
  | error failure => cases dialogue <;> cases hend
  | ok value =>
      obtain ⟨attempted, hdialogue, hvalue⟩ := map_attempt_eq_done hend.symm
      exact ⟨attempted, hdialogue, congrArg Except.ok hvalue⟩

/-! Dialogues that ask nothing but questions of one kind, whatever they are answered. -/

inductive Asks (Allowed : Question → Prop) : Dialogue Question Answer α → Prop
  | done (value : α) : Asks Allowed (done value)
  | fail (failure : Failure) : Asks Allowed (fail failure)
  | ask {question : Question} {next : Answer question → Dialogue Question Answer α} :
      Allowed question → (∀ answer, Asks Allowed (next answer)) → Asks Allowed (ask question next)

namespace Asks

variable {Allowed : Question → Prop}

theorem ofExcept (result : Except Failure α) :
    (Dialogue.ofExcept result : Dialogue Question Answer α).Asks Allowed := by
  cases result with
  | error failure => exact .fail failure
  | ok value => exact .done value

theorem bind {first : Dialogue Question Answer α} {next : α → Dialogue Question Answer β}
    (hfirst : first.Asks Allowed) (hnext : ∀ value, (next value).Asks Allowed) :
    (first >>= next).Asks Allowed := by
  induction hfirst with
  | done value => exact hnext value
  | fail failure => exact .fail failure
  | ask hallowed _ ih => exact .ask hallowed ih

theorem map (f : α → β) (hasks : dialogue.Asks Allowed) : (f <$> dialogue).Asks Allowed :=
  hasks.bind fun value => .done (f value)

theorem attempt (hasks : dialogue.Asks Allowed) : dialogue.attempt.Asks Allowed := by
  induction hasks with
  | done value => exact .done (Except.ok value)
  | fail failure => exact .done (Except.error failure)
  | ask hallowed _ ih => exact .ask hallowed ih

theorem of_after (hasks : dialogue.Asks Allowed) (hafter : dialogue.After history rest) :
    ∀ exchange ∈ history, Allowed exchange.question := by
  induction hafter with
  | here dialogue => simp
  | there _ ih =>
      cases hasks with
      | ask hallowed hnext => exact List.forall_mem_cons.2 ⟨hallowed, ih (hnext _)⟩

end Asks

variable (answer : (question : Question) → Effect σ (Answer question))

/-- The exchange leads from one state to another when its question is answered so. -/
def Answered (before : σ × Surroundings) (exchange : Exchange Question Answer)
    (after : σ × Surroundings) : Prop :=
  answer exchange.question before = some (exchange.answer, after)

/-- The outcome of a dialogue is what it comes to after exchanges that are answered in turn. -/
theorem run_eq_some_iff {dialogue : Dialogue Question Answer α} {result : Except Failure α}
    {before after : σ × Surroundings} :
    dialogue.run answer before = some (result, after) ↔
      ∃ history, dialogue.After history (ofExcept result) ∧
        Run (Answered answer) before history after := by
  induction dialogue generalizing before with
  | done value =>
      constructor
      · intro hrun
        cases hrun
        exact ⟨[], .here _, .done _⟩
      · rintro ⟨history, hafter, hhistory⟩
        obtain ⟨rfl, hend⟩ := after_done_iff.1 hafter
        cases hhistory
        cases result with
        | error failure => cases hend
        | ok given =>
            cases hend
            rfl
  | fail failure =>
      constructor
      · intro hrun
        cases hrun
        exact ⟨[], .here _, .done _⟩
      · rintro ⟨history, hafter, hhistory⟩
        obtain ⟨rfl, hend⟩ := after_fail_iff.1 hafter
        cases hhistory
        cases result with
        | error given =>
            cases hend
            rfl
        | ok given => cases hend
  | ask question next ih =>
      have hstep : (ask question next).run answer before =
          (answer question before).bind fun given => (next given.1).run answer given.2 := rfl
      rw [hstep, Option.bind_eq_some_iff]
      constructor
      · rintro ⟨⟨given, between⟩, hgiven, hrun⟩
        obtain ⟨history, hafter, hhistory⟩ := (ih given).1 hrun
        exact ⟨⟨question, given⟩ :: history, .there hafter, .step hgiven hhistory⟩
      · rintro ⟨history, hafter, hhistory⟩
        obtain ⟨given, tail, rfl, htail⟩ := exists_answer_of_after hafter
        cases hhistory with
        | step hgiven hrest => exact ⟨⟨given, _⟩, hgiven, (ih given).2 ⟨tail, htail, hrest⟩⟩

end Dialogue

end SecondFactor
