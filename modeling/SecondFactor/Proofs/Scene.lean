import Mathlib.Logic.Function.Basic
import SecondFactor.Proofs.RelyingParty.History
import SecondFactor.Proofs.Token.Calls

/-!
A relying party among tokens. Calls of the party and of any tokens come in any order, and nothing is
said of who brings the party its responses.
-/

namespace SecondFactor

/-- The accounts of a party, and the rings that tokens keep their keys in. -/
structure Scene where
  accounts : AccountStore
  rings : Nat → KeyRing

namespace Scene

/-- A finished call of the party, or of a token over one of the rings. -/
inductive Moment where
  | party (moment : RelyingParty.Moment)
  | token (ring : Nat) (moment : Token.Moment)

def Moment.party? : Moment → Option RelyingParty.Moment
  | .party moment => some moment
  | .token .. => none

/-- One step of a scene. Everyone computes with the suite of the party. -/
inductive Step (party : RelyingParty) : Scene → Moment → Scene → Prop
  | party {scene : Scene} {moment : RelyingParty.Moment} {accounts : AccountStore} :
      party.Step scene.accounts moment accounts →
        Step party scene (.party moment) { scene with accounts }
  | token {scene : Scene} {ring : Nat} {moment : Token.Moment} :
      moment.token.suite = party.suite → moment.before = scene.rings ring → moment.Happens →
        Step party scene (.token ring moment)
          { scene with rings := Function.update scene.rings ring moment.after }

variable {party : RelyingParty} {first last : Scene} {history : List Moment}

/-- The calls of the party make a history of their own. -/
theorem run_party (hrun : Run (Step party) first history last) :
    Run party.Step first.accounts (history.filterMap Moment.party?) last.accounts := by
  induction hrun with
  | done => exact .done _
  | step hmoment _ ih =>
      cases hmoment with
      | party hparty => exact .step hparty ih
      | token => exact ih

theorem step_party {earlier later : List Moment} {moment : RelyingParty.Moment}
    (hrun : Run (Step party) first (earlier ++ .party moment :: later) last) :
    ∃ before after, party.Step before moment after := by
  obtain ⟨before, _, _, hmoment, _⟩ := hrun.cut_at
  cases hmoment with
  | party hparty => exact ⟨_, _, hparty⟩

theorem happens_of_mem (hrun : Run (Step party) first history last) {ring : Nat}
    {moment : Token.Moment} (hmem : .token ring moment ∈ history) :
    moment.token.suite = party.suite ∧ moment.Happens := by
  have hall := hrun.forall_mem (fun given => ∀ ring moment,
    given = .token ring moment → moment.token.suite = party.suite ∧ moment.Happens) ?_
  · exact hall _ hmem ring moment rfl
  · rintro before given after hstep ring moment rfl
    cases hstep with
    | token hsuite _ hhappens => exact ⟨hsuite, hhappens⟩

end Scene

end SecondFactor
