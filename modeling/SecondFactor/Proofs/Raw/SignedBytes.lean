import SecondFactor.Proofs.Positional
import SecondFactor.Raw.Authentication
import SecondFactor.Raw.Registration

/-!
The bytes that tokens sign say all that is signed, `signedBytes_unambiguous`. Both layouts can be
read back, although a key handle carries no length in them, and no bytes are of both layouts.
-/

namespace SecondFactor.Raw

theorem length_counterBytes (counter : UInt32) : (counterBytes counter).length = 4 :=
  length_bytesOfNat 4 counter.toNat

theorem counterBytes_injective {counter other : UInt32}
    (hbytes : counterBytes counter = counterBytes other) : counter = other := by
  have hvalue := congrArg natOfBytes hbytes
  have hcounter := counter.toNat_lt
  have hother := other.toNat_lt
  rw [counterBytes, counterBytes, natOfBytes_bytesOfNat, natOfBytes_bytesOfNat] at hvalue
  apply UInt32.toNat_inj.1
  omega

theorem PublicKey.bytes_injective {key other : PublicKey} (hbytes : key.bytes = other.bytes) :
    key = other := by
  have hlength : key.x.val.length = other.x.val.length := by
    rw [key.x.property, other.x.property]
  obtain ⟨hx, hy⟩ := List.append_inj (List.tail_eq_of_cons_eq hbytes) hlength
  cases key
  cases other
  simp only [PublicKey.mk.injEq]
  exact ⟨Subtype.ext hx, Subtype.ext hy⟩

/-- What was signed at a registration is read off its bytes: both ends have a fixed length, and the
key handle is what stands between them. -/
theorem registrationSignedBytes_injective {application application' challenge challenge' : Digest}
    {keyHandle keyHandle' : Bytes} {publicKey publicKey' : PublicKey}
    (hbytes : registrationSignedBytes application challenge keyHandle publicKey =
      registrationSignedBytes application' challenge' keyHandle' publicKey') :
    application = application' ∧ challenge = challenge' ∧ keyHandle = keyHandle' ∧
      publicKey = publicKey' := by
  have hparts := List.tail_eq_of_cons_eq hbytes
  obtain ⟨hfront, hkey⟩ := List.append_inj' hparts (by simp)
  have happlicationLength : application.val.length = application'.val.length := by
    rw [application.property, application'.property]
  have hchallengeLength : challenge.val.length = challenge'.val.length := by
    rw [challenge.property, challenge'.property]
  obtain ⟨hdigests, hhandle⟩ := List.append_inj hfront (by
    rw [List.length_append, List.length_append, happlicationLength, hchallengeLength])
  obtain ⟨happlication, hchallenge⟩ := List.append_inj hdigests happlicationLength
  exact ⟨Subtype.ext happlication, Subtype.ext hchallenge, hhandle,
    PublicKey.bytes_injective hkey⟩

/-- What was signed at an authentication is read off its bytes, all of whose parts have a fixed
length. -/
theorem authenticationSignedBytes_injective
    {application application' challenge challenge' : Digest} {presence presence' : Presence}
    {counter counter' : UInt32}
    (hbytes : authenticationSignedBytes application presence counter challenge =
      authenticationSignedBytes application' presence' counter' challenge') :
    application = application' ∧ presence = presence' ∧ counter = counter' ∧
      challenge = challenge' := by
  have hlength : application.val.length = application'.val.length := by
    rw [application.property, application'.property]
  obtain ⟨happlication, hrest⟩ := List.append_inj hbytes hlength
  obtain ⟨hflags, htail⟩ := List.cons_eq_cons.1 hrest
  obtain ⟨hcounter, hchallenge⟩ := List.append_inj htail (by
    rw [length_counterBytes, length_counterBytes])
  refine ⟨Subtype.ext happlication, ?_, counterBytes_injective hcounter, Subtype.ext hchallenge⟩
  cases presence
  cases presence'
  exact congrArg Presence.mk hflags

theorem length_registrationSignedBytes (application challenge : Digest) (keyHandle : Bytes)
    (publicKey : PublicKey) :
    (registrationSignedBytes application challenge keyHandle publicKey).length =
      130 + keyHandle.length := by
  simp only [registrationSignedBytes, List.length_cons, List.length_append,
    application.property, challenge.property, PublicKey.length_bytes]
  omega

theorem length_authenticationSignedBytes (application : Digest) (presence : Presence)
    (counter : UInt32) (challenge : Digest) :
    (authenticationSignedBytes application presence counter challenge).length = 69 := by
  simp only [authenticationSignedBytes, List.length_cons, List.length_append,
    application.property, challenge.property, length_counterBytes]

/-- A signature made at a registration is never one of an authentication. -/
theorem registrationSignedBytes_ne_authenticationSignedBytes
    (application application' challenge challenge' : Digest) (keyHandle : Bytes)
    (publicKey : PublicKey) (presence : Presence) (counter : UInt32) :
    registrationSignedBytes application challenge keyHandle publicKey ≠
      authenticationSignedBytes application' presence counter challenge' := by
  intro hbytes
  have hlength := congrArg List.length hbytes
  rw [length_registrationSignedBytes, length_authenticationSignedBytes] at hlength
  omega

/-- Signed bytes tell all that was signed, and whether that was at a registration or at an
authentication. -/
theorem signedBytes_unambiguous :
    Function.Injective (fun parts : Digest × Digest × Bytes × PublicKey =>
      registrationSignedBytes parts.1 parts.2.1 parts.2.2.1 parts.2.2.2) ∧
    Function.Injective (fun parts : Digest × Presence × UInt32 × Digest =>
      authenticationSignedBytes parts.1 parts.2.1 parts.2.2.1 parts.2.2.2) ∧
    ∀ (application challenge : Digest) (keyHandle : Bytes) (publicKey : PublicKey)
      (application' : Digest) (presence : Presence) (counter : UInt32) (challenge' : Digest),
      registrationSignedBytes application challenge keyHandle publicKey ≠
        authenticationSignedBytes application' presence counter challenge' := by
  refine ⟨?_, ?_, ?_⟩
  · rintro ⟨application, challenge, keyHandle, publicKey⟩ ⟨_, _, _, _⟩ hbytes
    obtain ⟨rfl, rfl, rfl, rfl⟩ := registrationSignedBytes_injective hbytes
    rfl
  · rintro ⟨application, presence, counter, challenge⟩ ⟨_, _, _, _⟩ hbytes
    obtain ⟨rfl, rfl, rfl, rfl⟩ := authenticationSignedBytes_injective hbytes
    rfl
  · intro application challenge keyHandle publicKey application' presence counter challenge'
    exact registrationSignedBytes_ne_authenticationSignedBytes application application' challenge
      challenge' keyHandle publicKey presence counter

end SecondFactor.Raw
