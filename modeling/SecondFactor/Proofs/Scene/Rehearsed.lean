import SecondFactor.Proofs.Scene.Visit
import SecondFactor.Rehearsal.Visit

/-!
A rehearsed visit of a client is a visit to a scene: when nobody tells the client anything else and
no store fails, a world plays it as a chronicle records it, `withClient_eq_visit`.
-/

namespace SecondFactor.Rehearsal

open Scene (Chronicle Visitor)

namespace Player

/-- The number of the ring that a player uses: the first is the common one, and the others are of one
player each. -/
def ring (player : Player) (index : Nat) : Nat :=
  if player.ownStore.isSome then index + 1 else 0

/-- The player with a ring in the place of its own. -/
def withRing (player : Player) (ring : KeyRing) : Player :=
  { player with ownStore := player.ownStore.map fun _ => ring }

def visitor (player : Player) (index : Nat) (client : Client) : Visitor :=
  ⟨client, player.token, player.sensor, player.ring index⟩

end Player

namespace World

def scene (world : World) : Scene where
  accounts := world.accounts
  rings
    | 0 => world.commonStore
    | index + 1 => (world.players[index]?.bind Player.ownStore).getD (.ofCounter 0)

/-- The world with what a scene holds. -/
def withScene (world : World) (scene : Scene) : World :=
  { world with
    accounts := scene.accounts
    players := world.players.mapIdx fun index player => player.withRing (scene.rings (index + 1))
    commonStore := scene.rings 0 }

variable {world : World} {index : Nat} {player : Player} {scene : Scene}

theorem withScene_scene (world : World) : world.withScene world.scene = world := by
  have hplayers : (world.players.mapIdx fun index player =>
      player.withRing (world.scene.rings (index + 1))) = world.players := by
    apply List.ext_getElem?
    intro index
    rw [List.getElem?_mapIdx]
    cases hplayer : world.players[index]? with
    | none => rfl
    | some player =>
        obtain ⟨token, sensor, own | own⟩ := player <;>
          simp [Player.withRing, World.scene, hplayer]
  rw [withScene, hplayers]
  rfl

theorem storeOf_withScene (index : Nat) (player : Player) :
    (world.withScene scene).storeOf (player.withRing (scene.rings (index + 1))) =
      scene.rings (player.ring index) := by
  cases hown : player.ownStore <;> simp [storeOf, Player.withRing, Player.ring, hown, withScene]

theorem putStore_withScene (hplayer : world.players[index]? = some player) (ring : KeyRing) :
    (world.withScene scene).putStore index (player.withRing (scene.rings (index + 1))) ring =
      world.withScene
        { scene with rings := Function.update scene.rings (player.ring index) ring } := by
  cases hown : player.ownStore with
  | none => simp [putStore, Player.withRing, hown, withScene, Player.ring]
  | some own =>
      have hplayers : (world.withScene scene).players.set index
          { player.withRing (scene.rings (index + 1)) with ownStore := some ring } =
            (world.withScene { scene with
              rings := Function.update scene.rings (index + 1) ring }).players := by
        apply List.ext_getElem?
        intro other
        simp only [withScene, List.getElem?_set, List.getElem?_mapIdx, List.length_mapIdx]
        by_cases hother : index = other
        · subst hother
          have hlength : index < world.players.length := (List.getElem?_eq_some_iff.1 hplayer).1
          simp only [if_true, if_pos hlength, hplayer, Option.map_some, Player.withRing, hown,
            Function.update_self]
        · have hne : other + 1 ≠ index + 1 := by omega
          simp only [if_neg hother, Function.update_of_ne hne]
      have hstore : (player.withRing (scene.rings (index + 1))).ownStore =
          some (scene.rings (index + 1)) := by
        rw [Player.withRing, hown, Option.map_some]
      rw [putStore, hstore]
      simp only [hplayers, Player.ring, hown, Option.isSome_some, if_true]
      rfl

end World

theorem answerParty_none {σ : Type}
    (usual : (inquiry : RelyingParty.Inquiry) → Effect σ inquiry.Answer) :
    Faults.none.answerParty usual = usual := by
  funext inquiry
  cases inquiry with
  | takeSession id => exact bind_pure (usual (.takeSession id))
  | _ => rfl

theorem answerToken_none {σ : Type}
    (usual : (inquiry : Token.Inquiry) → Effect σ inquiry.Answer) :
    Faults.none.answerToken usual = usual := by
  funext inquiry
  cases inquiry <;> rfl

namespace Visit

variable {world : World} {index : Nat} {player : Player}

/-- What a question adds to what a client has submitted. -/
def submissionsOf : Client.Inquiry → List Submission
  | .submitRegistration response _ => [.registration response]
  | .submitSignature response => [.signature response]
  | .requestRegistration .. | .requestSignatures .. | .register _ | .authenticate _ => []

theorem withParty_withScene {α : Type} (challenge : Bytes)
    (event : Except Failure α → RelyingParty.Event)
    (operation : RelyingParty → RelyingParty.Talk α) (before : Chronicle)
    (around : Surroundings) :
    World.withParty ⟨.none, challenge⟩ operation (world.withScene before.scene, around) =
      (Chronicle.callParty (world.generator.source challenge) event (operation world.party)
        (before, around)).map fun (result, after, left) =>
          (result, world.withScene after.scene, left) := by
  change (((operation world.party).run (Faults.none.answerParty
    (RelyingParty.Memory.answer (world.generator.source challenge)))
      (before.scene.accounts, around)).bind _) = _
  rw [answerParty_none, Chronicle.callParty, Option.map_map]
  exact (Option.map_eq_bind ..).symm

theorem withToken_withScene {α : Type} (challenge : Bytes)
    (hplayer : world.players[index]? = some player)
    (call : Except Failure α → Token.Call) (operation : Token → Token.Talk α)
    (before : Chronicle) (around : Surroundings) :
    World.withToken ⟨.none, challenge⟩ index operation (world.withScene before.scene, around) =
      (Chronicle.callToken player.token player.sensor (player.ring index) call
        (operation player.token) (before, around)).map fun (result, after, left) =>
          (result, world.withScene after.scene, left) := by
  have hfound : (world.withScene before.scene).players[index]? =
      some (player.withRing (before.scene.rings (index + 1))) := by
    rw [World.withScene, List.getElem?_mapIdx, hplayer, Option.map_some]
  change (((world.withScene before.scene).players[index]?).bind fun player =>
    ((operation player.token).run (Faults.none.answerToken
      (Token.Memory.answer player.token.suite player.sensor))
        ((world.withScene before.scene).storeOf player, around)).bind fun given =>
          some (given.1, (world.withScene before.scene).putStore index player given.2.1,
            given.2.2)) = _
  rw [hfound, Option.bind_some, answerToken_none, World.storeOf_withScene, Chronicle.callToken,
    Option.map_map, Option.map_eq_bind]
  refine Option.bind_congr ?_
  rintro ⟨result, ring, left⟩ _
  simp only [World.putStore_withScene hplayer]
  rfl

theorem onWorld_apply {α : Type} (effect : Effect World α) (sent : List Submission)
    (around : Surroundings) :
    onWorld effect (⟨world, sent⟩, around) =
      (effect (world, around)).map fun (value, world, left) => (value, ⟨world, sent⟩, left) :=
  (Option.map_eq_bind ..).symm

theorem onWorld_withParty {α : Type} (challenge : Bytes)
    (event : Except Failure α → RelyingParty.Event)
    (operation : RelyingParty → RelyingParty.Talk α) (before : Chronicle) (sent : List Submission)
    (around : Surroundings) :
    onWorld (World.withParty ⟨.none, challenge⟩ operation)
        (⟨world.withScene before.scene, sent⟩, around) =
      (Chronicle.callParty (world.generator.source challenge) event (operation world.party)
        (before, around)).map fun (result, after, left) =>
          (result, ⟨world.withScene after.scene, sent⟩, left) := by
  rw [onWorld_apply, withParty_withScene challenge event, Option.map_map]
  rfl

theorem onWorld_withToken {α : Type} (challenge : Bytes)
    (hplayer : world.players[index]? = some player)
    (call : Except Failure α → Token.Call) (operation : Token → Token.Talk α)
    (before : Chronicle) (sent : List Submission) (around : Surroundings) :
    onWorld (World.withToken ⟨.none, challenge⟩ index operation)
        (⟨world.withScene before.scene, sent⟩, around) =
      (Chronicle.callToken player.token player.sensor (player.ring index) call
        (operation player.token) (before, around)).map fun (result, after, left) =>
          (result, ⟨world.withScene after.scene, sent⟩, left) := by
  rw [onWorld_apply, withToken_withScene challenge hplayer call, Option.map_map]
  rfl

/-- An answer in a rehearsal is the answer to a visitor, and changes the world as that changes the
scene. -/
theorem answer_withScene (challenge : Bytes) (hplayer : world.players[index]? = some player)
    (client : Client) (inquiry : Client.Inquiry) (before : Chronicle) (sent : List Submission)
    (around : Surroundings) :
    Visit.answer .none ⟨.none, challenge⟩ index inquiry
        (⟨world.withScene before.scene, sent⟩, around) =
      ((player.visitor index client).answer world.party (world.generator.source challenge) inquiry
        (before, around)).map fun (given, after, left) =>
          (given, ⟨world.withScene after.scene, sent ++ submissionsOf inquiry⟩, left) := by
  cases inquiry with
  | requestRegistration account appId =>
      rw [submissionsOf, List.append_nil]
      exact onWorld_withParty challenge (.requestRegistration account appId) _ before sent around
  | submitRegistration response now =>
      exact onWorld_withParty challenge (.acceptRegistration response now) _ before _ around
  | requestSignatures account appId =>
      rw [submissionsOf, List.append_nil]
      exact onWorld_withParty challenge (.requestSignatures account appId) _ before sent around
  | submitSignature response =>
      exact onWorld_withParty challenge (.acceptSignature response) _ before _ around
  | register request =>
      rw [submissionsOf, List.append_nil]
      exact onWorld_withToken challenge hplayer (.register request) _ before sent around
  | authenticate request =>
      rw [submissionsOf, List.append_nil]
      exact onWorld_withToken challenge hplayer (.authenticate request) _ before sent around

theorem run_withScene (challenge : Bytes) (hplayer : world.players[index]? = some player)
    (client : Client) (talk : Client.Talk Web.Enrolment) (before : Chronicle)
    (sent : List Submission) (around : Surroundings) :
    (talk.run (Visit.answer .none ⟨.none, challenge⟩ index)
        (⟨world.withScene before.scene, sent⟩, around)).map
          (fun (result, visit, left) => (result, visit.world, left)) =
      ((player.visitor index client).visit world.party (world.generator.source challenge) talk
        (before, around)).map fun (result, after, left) =>
          (result, world.withScene after.scene, left) := by
  induction talk generalizing before sent around with
  | done value => rfl
  | fail failure => rfl
  | ask inquiry next ih =>
      change ((Visit.answer .none ⟨.none, challenge⟩ index inquiry
          (⟨world.withScene before.scene, sent⟩, around)).bind fun given =>
            (next given.1).run (Visit.answer .none ⟨.none, challenge⟩ index) given.2).map _ =
        (((player.visitor index client).answer world.party (world.generator.source challenge)
          inquiry (before, around)).bind fun given => (player.visitor index client).visit
            world.party (world.generator.source challenge) (next given.1) given.2).map _
      rw [answer_withScene challenge hplayer client, Option.map_bind, Option.map_bind,
        Option.bind_map]
      refine Option.bind_congr ?_
      rintro ⟨given, after, left⟩ _
      exact ih given after _ left

end Visit

/-- What a client does in a world, with nobody to tell it anything else and no store to fail, it
does in a visit to the scene of that world. -/
theorem withClient_eq_visit {world : World} {index : Nat} {player : Player}
    (hplayer : world.players[index]? = some player) (challenge : Bytes) (client : Client)
    (talk : Client.Talk Web.Enrolment) {before : Chronicle} (hscene : before.scene = world.scene)
    (around : Surroundings) :
    (World.withClient .none ⟨.none, challenge⟩ index talk (world, around)).map
        (fun ((result, _), world, left) => (result, world, left)) =
      ((player.visitor index client).visit world.party (world.generator.source challenge) talk
        (before, around)).map fun (result, after, left) =>
          (result, world.withScene after.scene, left) := by
  rw [← Visit.run_withScene challenge hplayer client talk before [] around, hscene,
    World.withScene_scene]
  change ((talk.run (Visit.answer .none ⟨.none, challenge⟩ index) (⟨world, []⟩, around)).bind
    _).map _ = _
  rw [Option.map_bind, Option.map_eq_bind]
  rfl

end SecondFactor.Rehearsal
