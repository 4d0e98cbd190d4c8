import SecondFactor.Tape
import SecondFactor.Warning
import SecondFactor.Raw.Presence

/-!
What operations find around them and leave there: random bytes, warnings, and the questions put to
users. An operation that finds too few random bytes has no outcome.
-/

namespace SecondFactor

/-- What a user is asked to approve: a new key, or a signature by a key that is there. -/
inductive Approval where
  | registration
  | authentication
deriving DecidableEq, Repr

structure Surroundings where
  tape : Tape
  /-- In the order in which they were given. -/
  warnings : List Warning
  /-- What users were asked to approve, and for which applications, in order. -/
  approvals : List (Approval × Digest)

/-- An effect on a state of its own, and on the surroundings. -/
abbrev Effect (σ : Type) := StateT (σ × Surroundings) Option

namespace Surroundings

/-- Surroundings in which nothing has happened. -/
def ofTape (tape : Tape) : Surroundings := ⟨tape, [], []⟩

def warn (around : Surroundings) (warning : Warning) : Surroundings :=
  { around with warnings := around.warnings ++ [warning] }

def ask (around : Surroundings) (approval : Approval) (application : Digest) : Surroundings :=
  { around with approvals := around.approvals ++ [(approval, application)] }

end Surroundings

namespace Effect

variable {σ α : Type}

/-- Looks at the state. -/
def read (view : σ → α) : Effect σ α := fun (state, around) =>
  some (view state, state, around)

/-- Changes the state. -/
def step (change : σ → α × σ) : Effect σ α := fun (state, around) =>
  let (value, state) := change state
  some (value, state, around)

/-- Draws from the tape. -/
def draw (take : σ → Tape → Option (α × Tape)) : Effect σ α := fun (state, around) => do
  let (value, tape) ← take state around.tape
  return (value, state, { around with tape := tape })

def warn (warning : Warning) : Effect σ Unit := fun (state, around) =>
  some ((), state, around.warn warning)

/-- An effect on a part of the state. -/
def within {τ : Type} (part : σ → τ) (put : σ → τ → σ) (effect : Effect τ α) : Effect σ α :=
  fun (state, around) => do
    let (value, changed, around) ← effect (part state, around)
    return (value, put state changed, around)

end Effect

end SecondFactor
