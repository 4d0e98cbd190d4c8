import SecondFactor.RelyingParty.Memory
import SecondFactor.RelyingParty.Service
import SecondFactor.Rehearsal.Faults
import SecondFactor.Token.Device
import SecondFactor.Token.Memory

/-!
A relying party and some tokens with everything in memory, as they are played against one another.
-/

namespace SecondFactor.Rehearsal

/-- Where the relying party's challenges come from. -/
inductive Generator where
  | random
  /-- The challenge is the name of the account. -/
  | account
  /-- The challenge is given with each step. -/
  | given
deriving DecidableEq, Repr

def Generator.source (given : Bytes) : Generator → RelyingParty.ChallengeSource
  | .random => .random
  | .account => .fixed Utf8.bytes
  | .given => .fixed fun _ => given

/-- A token with its user. -/
structure Player where
  token : Token
  sensor : Token.Sensor
  /-- The store it has for itself, unless it uses the common one. -/
  ownStore : Option KeyRing

structure World where
  party : RelyingParty
  generator : Generator
  accounts : AccountStore
  players : List Player
  /-- The store of all tokens that have none for themselves. -/
  commonStore : KeyRing

namespace World

def storeOf (world : World) (player : Player) : KeyRing :=
  player.ownStore.getD world.commonStore

/-- Puts a changed store in its place. -/
def putStore (world : World) (index : Nat) (player : Player) (store : KeyRing) : World :=
  match player.ownStore with
  | some _ =>
    { world with players := world.players.set index { player with ownStore := some store } }
  | none => { world with commonStore := store }

def setSensor (world : World) (index : Nat) (sensor : Token.Sensor) : World :=
  { world with players := world.players.modify index fun player => { player with sensor } }

/-- An effect on the store of a token; there is no outcome without that token. -/
def onToken {α : Type} (index : Nat) (effect : Player → Effect KeyRing α) : Effect World α :=
  fun (world, around) => do
    let player ← world.players[index]?
    let (value, store, around) ← effect player (world.storeOf player, around)
    return (value, world.putStore index player store, around)

/-- What holds during one step: the faults of the stores, and the challenge that is given. -/
structure Conditions where
  faults : Faults
  challenge : Bytes

/-- An operation of the relying party. -/
def withParty {α : Type} (conditions : Conditions)
    (operation : RelyingParty → RelyingParty.Talk α) : Effect World (Except Failure α) :=
  fun (world, around) =>
    let answer := conditions.faults.answerParty
      (RelyingParty.Memory.answer (world.generator.source conditions.challenge))
    Effect.within World.accounts (fun world accounts => { world with accounts })
      ((operation world.party).run answer) (world, around)

/-- An operation of a token. -/
def withToken {α : Type} (conditions : Conditions) (index : Nat)
    (operation : Token → Token.Talk α) : Effect World (Except Failure α) :=
  onToken index fun player =>
    (operation player.token).run (conditions.faults.answerToken
      (Token.Memory.answer player.token.suite player.sensor))

/-- The random bytes of a step: given ones, and then as many as any step can use. -/
def tape (world : World) (given : Bytes) : Tape :=
  let enrolled := world.accounts.keyLists.entries.foldl
    (fun count entry => count + entry.2.length) 0
  Tape.seeded world.party.suite given (world.accounts.pending + enrolled + 8)

end World

end SecondFactor.Rehearsal
