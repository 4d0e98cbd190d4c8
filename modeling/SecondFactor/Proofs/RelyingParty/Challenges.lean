import SecondFactor.Proofs.RelyingParty.Sessions
import SecondFactor.Proofs.Splits

/-!
Challenges for new keys. Where no two of them are the same, no two responses are taken for the same
challenge.
-/

namespace SecondFactor.RelyingParty

/-- The challenge that a call issues for a new key. -/
def Moment.enrolmentChallenge? (moment : Moment) : Option Bytes :=
  match moment.event with
  | .requestRegistration _ _ (.ok request) => some request.challenge
  | _ => none

variable {party : RelyingParty} {first last : AccountStore} {moment : Moment}

/-- A session for a new key is the only one that its call issues, and holds its challenge. -/
theorem issued_of_awaits_registration {id : String} {session : Web.Session}
    (hissued : (id, session) ∈ moment.issued) (hawaits : session.awaits = .registration) :
    moment.enrolmentChallenge? = some session.challenge ∧ moment.issued = [(id, session)] := by
  rcases moment.issued_cases hissued with
    ⟨account, appId, request, hevent, rfl, rfl⟩ | ⟨_, _, _, _, _, _, _, _, _, rfl⟩
  · rw [Moment.enrolmentChallenge?, Moment.issued, hevent]
    exact ⟨rfl, rfl⟩
  · cases hawaits

/-- Two responses that are taken for new keys answer different challenges. -/
theorem challenge_ne_of_answered (hfirst : ∀ id, first.session? id = none)
    {earlier between later : List Moment} {call other : Moment}
    (hrun : Run party.Step first (earlier ++ call :: between ++ other :: later) last)
    (hnodup : ((earlier ++ call :: between ++ other :: later).filterMap
      Moment.enrolmentChallenge?).Nodup)
    {id id' : String} {session session' : Web.Session}
    (hcall : call.event.answered? = some (.registration, id))
    (hwaiting : call.before.waiting? .registration id = some session)
    (hwaiting' : other.before.waiting? .registration id' = some session') :
    session.challenge ≠ session'.challenge := by
  intro hsame
  obtain ⟨store, _, hupto, hotherStep, _⟩ := hrun.cut_at
  obtain ⟨store', _, hfront, hcallStep, _⟩ := hupto.cut_at
  rw [hcallStep.met] at hwaiting
  rw [hotherStep.met] at hwaiting'
  obtain ⟨hsession, hawaits⟩ := AccountStore.waiting?_eq_some_iff.1 hwaiting
  obtain ⟨hsession', hawaits'⟩ := AccountStore.waiting?_eq_some_iff.1 hwaiting'
  obtain ⟨front, issue, rest, rfl, hissued, _⟩ :=
    (session?_iff_pending hfirst hfront id session).1 hsession
  obtain ⟨front', issue', rest', hsplit, hissued', hunanswered⟩ :=
    (session?_iff_pending hfirst hupto id' session').1 hsession'
  obtain ⟨hchallenge, hsingle⟩ := issued_of_awaits_registration hissued hawaits
  obtain ⟨hchallenge', hsingle'⟩ := issued_of_awaits_registration hissued' hawaits'
  rw [← hsame] at hchallenge'
  rw [List.append_assoc, List.cons_append] at hsplit
  have hupto' : ((front ++ issue :: (rest ++ call :: between)).filterMap
      Moment.enrolmentChallenge?).Nodup := by
    refine hnodup.sublist (List.Sublist.filterMap _ ?_)
    simp
  -- Both sessions come from one call, and the first response answers what it issued.
  obtain ⟨rfl, rfl, rfl⟩ := eq_of_nodup_filterMap hsplit hupto' hchallenge hchallenge'
  rw [hsingle, List.cons_eq_cons, Prod.mk.injEq] at hsingle'
  obtain ⟨⟨rfl, rfl⟩, _⟩ := hsingle'
  refine hunanswered call (by simp) ?_
  rw [hcall, hawaits]

end SecondFactor.RelyingParty
