import SecondFactor.Failure

/-!
Operations as dialogues. An operation asks its surroundings, goes on with each answer, and ends in
a value or in a failure. It is written once, and means something wherever its questions are
answered: over a store in memory, over one that fails, or step by step beside other operations.
-/

namespace SecondFactor

/-- An operation that may ask `Question`s, each of which has its own type of answer. -/
inductive Dialogue (Question : Type) (Answer : Question → Type) (α : Type) where
  | done (value : α)
  | fail (failure : Failure)
  | ask (question : Question) (next : Answer question → Dialogue Question Answer α)

namespace Dialogue

variable {Question : Type} {Answer : Question → Type} {α β γ : Type}

/-- Goes on with the value of a dialogue. -/
def bind : Dialogue Question Answer α → (α → Dialogue Question Answer β) →
    Dialogue Question Answer β
  | done value, rest => rest value
  | fail failure, _ => fail failure
  | ask question next, rest => ask question fun answer => (next answer).bind rest

instance : Monad (Dialogue Question Answer) where
  pure := done
  bind := bind

/-- Ends at once as a result says. -/
def ofExcept : Except Failure α → Dialogue Question Answer α
  | .ok value => done value
  | .error failure => fail failure

/-- Ends at once in what was read, or in what is wrong with it. -/
def ofFormat : Except FormatFault α → Dialogue Question Answer α
  | .ok value => done value
  | .error fault => fail (.format fault)

/-- Ends in the value, or in the failure if there is none. -/
def ofOption (failure : Failure) : Option α → Dialogue Question Answer α
  | some value => done value
  | none => fail failure

/-- The same questions, with a failure given as a result. -/
def attempt : Dialogue Question Answer α → Dialogue Question Answer (Except Failure α)
  | done value => done (.ok value)
  | fail failure => done (.error failure)
  | ask question next => ask question fun answer => (next answer).attempt

/-- Holds a dialogue with those who answer. -/
def run {m : Type → Type} [Monad m] (answer : (question : Question) → m (Answer question)) :
    Dialogue Question Answer α → m (Except Failure α)
  | done value => pure (.ok value)
  | fail failure => pure (.error failure)
  | ask question next => do
    let given ← answer question
    (next given).run answer

theorem bind_done (dialogue : Dialogue Question Answer α) : dialogue.bind done = dialogue := by
  induction dialogue with
  | done value => rfl
  | fail failure => rfl
  | ask question next ih => simp [bind, ih]

theorem bind_assoc (dialogue : Dialogue Question Answer α) (f : α → Dialogue Question Answer β)
    (g : β → Dialogue Question Answer γ) :
    (dialogue.bind f).bind g = dialogue.bind fun value => (f value).bind g := by
  induction dialogue with
  | done value => rfl
  | fail failure => rfl
  | ask question next ih => simp [bind, ih]

instance : LawfulMonad (Dialogue Question Answer) :=
  LawfulMonad.mk'
    (Dialogue Question Answer)
    bind_done
    (fun _ _ => rfl)
    bind_assoc

end Dialogue

end SecondFactor
