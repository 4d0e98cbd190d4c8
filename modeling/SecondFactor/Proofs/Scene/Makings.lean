import Mathlib.Data.List.Nodup
import SecondFactor.Proofs.PublicKey
import SecondFactor.Proofs.Scene.Visit

/-!
The keys that tokens make in a history, and what is assumed of them: no key pair is drawn twice,
different keys have different handles, and what is signed is good. A key is then known by its
handle, and by its public key.
-/

namespace SecondFactor.Scene

/-- A key that a token made, with the ring it was kept in. -/
structure Making where
  ring : Nat
  token : Token
  application : Digest
  keyPair : KeyPair

namespace Making

def handle (making : Making) : Bytes :=
  making.token.keyHandle making.application making.keyPair.publicKey.toRaw

def key (making : Making) : TokenKey := ⟨making.application, making.keyPair⟩

end Making

/-- The key that a call makes: a token with its user there makes one whenever it is asked to. -/
def Moment.making? : Moment → Option Making
  | .party _ => none
  | .token ring moment =>
    match moment.call.payload? with
    | some (.register request) =>
      if moment.sensor.registration.userPresent then
        (Tape.drawKeyPair moment.token.suite moment.around.tape).map fun (keyPair, _) =>
          ⟨ring, moment.token, request.application, keyPair⟩
      else none
    | _ => none

def makings (calls : List Moment) : List Making :=
  calls.filterMap Moment.making?

/-- What is assumed of the cryptography in a history. -/
structure Sound (party : RelyingParty) (calls : List Moment) : Prop where
  vouches : ∀ ring moment, .token ring moment ∈ calls →
    ∀ keyPair message, moment.Signs keyPair message → party.suite.Vouches keyPair message
  keyPairs : ((makings calls).map Making.keyPair).Nodup
  /-- A public key belongs to one key pair. -/
  publicKeys : ∀ making ∈ makings calls, ∀ other ∈ makings calls,
    making.keyPair.publicKey = other.keyPair.publicKey → making.keyPair = other.keyPair
  /-- A handle comes from one secret, one application and one public key. -/
  handles : ∀ making ∈ makings calls, ∀ other ∈ makings calls, making.handle = other.handle →
    making.token.secret = other.token.secret ∧ making.application = other.application ∧
      making.keyPair.publicKey = other.keyPair.publicKey

variable {party : RelyingParty} {calls more : List Moment} {making other : Making}

theorem makings_append (calls more : List Moment) :
    makings (calls ++ more) = makings calls ++ makings more :=
  List.filterMap_append

/-- The party makes no key. -/
theorem makings_addParty (before : Chronicle) (moment : RelyingParty.Moment) :
    makings (before.addParty moment).calls = makings before.calls := by
  rw [Chronicle.addParty, makings_append]
  exact List.append_nil _

/-- Without its user a token makes no key. -/
theorem makings_addToken_of_absent {moment : Token.Moment} {request : Raw.RegistrationRequest}
    (habsent : moment.sensor.registration.userPresent = false)
    (hpayload : moment.call.payload? = some (.register request)) (before : Chronicle) (ring : Nat) :
    makings (before.addToken ring moment).calls = makings before.calls := by
  have hmaking : Moment.making? (.token ring moment) = none := by
    simp only [Moment.making?, hpayload, habsent, Bool.false_eq_true, if_false]
  rw [Chronicle.addToken, makings_append]
  simp only [makings, List.filterMap_cons, hmaking, List.filterMap_nil, List.append_nil]

namespace Sound

theorem of_append (hsound : Sound party (calls ++ more)) : Sound party calls := by
  have hmem : ∀ making ∈ makings calls, making ∈ makings (calls ++ more) := by
    intro making hmaking
    rw [makings_append]
    exact List.mem_append_left _ hmaking
  refine ⟨?_, ?_, ?_, ?_⟩
  · intro ring moment hmoment
    exact hsound.vouches ring moment (List.mem_append_left _ hmoment)
  · have hnodup := hsound.keyPairs
    rw [makings_append, List.map_append] at hnodup
    exact (List.nodup_append.1 hnodup).1
  · intro making hmaking other hother
    exact hsound.publicKeys making (hmem _ hmaking) other (hmem _ hother)
  · intro making hmaking other hother
    exact hsound.handles making (hmem _ hmaking) other (hmem _ hother)

/-- A key is known by its public key. -/
theorem eq_of_publicKey_eq (hsound : Sound party calls) (hmaking : making ∈ makings calls)
    (hother : other ∈ makings calls)
    (h : making.keyPair.publicKey = other.keyPair.publicKey) : making = other :=
  List.inj_on_of_nodup_map hsound.keyPairs hmaking hother
    (hsound.publicKeys making hmaking other hother h)

/-- A key is known by its handle. -/
theorem eq_of_handle_eq (hsound : Sound party calls) (hmaking : making ∈ makings calls)
    (hother : other ∈ makings calls) (h : making.handle = other.handle) : making = other := by
  obtain ⟨_, _, hpublicKey⟩ := hsound.handles making hmaking other hother h
  exact hsound.eq_of_publicKey_eq hmaking hother hpublicKey

/-- The key that is made last is another one than those before. -/
theorem publicKey_ne_of_last {earlier : List Making} (hsound : Sound party calls)
    (hmakings : makings calls = earlier ++ [making]) (hother : other ∈ earlier) :
    other.keyPair.publicKey.bytes ≠ making.keyPair.publicKey.bytes := by
  have hmem : ∀ given, given ∈ earlier ∨ given = making → given ∈ makings calls := by
    intro given hgiven
    rw [hmakings]
    simpa using hgiven
  intro hbytes
  have hpair := hsound.publicKeys other (hmem other (.inl hother)) making (hmem making (.inr rfl))
    (PublicKey.bytes_injective hbytes)
  have hnodup := hsound.keyPairs
  rw [hmakings, List.map_append, List.nodup_append] at hnodup
  exact hnodup.2.2 _ (List.mem_map_of_mem hother) _ List.mem_cons_self hpair

end Sound

end SecondFactor.Scene
