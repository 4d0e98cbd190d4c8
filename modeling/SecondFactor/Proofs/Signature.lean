import SecondFactor.Proofs.PublicKey
import SecondFactor.Proofs.Raw.Framing

/-!
Signatures that verify can be carried in raw messages. A key takes a signature in strict form only,
and in that form it ends where the header of its sequence says, `PublicKey.isSequence_of_verify`; so
a message is never refused for the framing of a signature that its key would have taken, and no
bytes that are more or less than such a signature are one, `PublicKey.verified_framed`.
-/

namespace SecondFactor

namespace Signature

open Raw (IsSequence)

/-- Contents behind a length in its shortest form, with nothing after them, make a sequence. -/
theorem isSequence_of_length? {bytes contents : Bytes} {length : Nat}
    (hread : length? bytes = some (length, contents)) (hlength : contents.length = length) :
    IsSequence (0x30 :: bytes) := by
  unfold length? at hread
  split at hread
  · rename_i first rest
    -- A length below 128 is its own header.
    split at hread
    · rename_i hshort
      cases hread
      exact .short first contents hshort hlength
    · split at hread
      · rename_i size rest
        split at hread
        · rename_i hone
          subst hone
          split at hread
          · cases hread
            exact .oneByte size contents hlength
          · cases hread
        · split at hread
          · rename_i htwo
            subst htwo
            split at hread
            · rename_i low rest
              split at hread
              · cases hread
              · cases hread
                exact .twoBytes size low contents hlength
            · cases hread
          · cases hread
      · cases hread
  · cases hread

theorem isSequence_of_contents? {bytes contents : Bytes}
    (hread : contents? 0x30 bytes = some (contents, [])) : IsSequence bytes := by
  cases bytes with
  | nil => cases hread
  | cons first rest =>
      simp only [contents?] at hread
      split at hread
      · cases hread
      · rename_i htag
        obtain rfl : first = 0x30 := Decidable.not_not.1 htag
        obtain ⟨⟨length, tail⟩, hlength, htail⟩ := Option.bind_eq_some_iff.1 hread
        simp only at htail
        split at htail
        · cases htail
        · rename_i henough
          obtain ⟨_, hnothing⟩ := Prod.mk.inj (Option.some.inj htail)
          have hall : tail.length ≤ length := List.drop_eq_nil_iff.1 hnothing
          exact isSequence_of_length? hlength (by omega)

theorem isSequence_of_readPair? {bytes : Bytes} {pair : Nat × Nat}
    (hread : readPair? bytes = some pair) : IsSequence bytes := by
  unfold readPair? at hread
  obtain ⟨⟨sequence, rest⟩, hsequence, hrest⟩ := Option.bind_eq_some_iff.1 hread
  cases rest with
  | nil => exact isSequence_of_contents? hsequence
  | cons => cases hrest

end Signature

theorem PublicKey.isSequence_of_verify {key : PublicKey} {message signature : Bytes}
    (hverify : key.verify message signature = true) : Raw.IsSequence signature := by
  unfold PublicKey.verify Signature.Ecdsa.verify at hverify
  split at hverify
  · rename_i hread
    exact Signature.isSequence_of_readPair? hread
  · cases hverify

namespace PublicKey

/-- What a reader of messages refuses as a signature does not verify, whatever it is to sign. -/
theorem verify_eq_false_of_restAsSignature {bytes : Bytes} {fault : FormatFault}
    (hrefused : Raw.restAsSignature bytes = .error fault) (key : PublicKey) (message : Bytes) :
    key.verify message bytes = false := by
  refine Bool.eq_false_iff.2 fun hverify => ?_
  rw [Raw.restAsSignature_eq_ok_iff.2 ⟨isSequence_of_verify hverify, rfl⟩] at hrefused
  cases hrefused

/-- A signature that verifies is taken as the whole rest of a message, and so read from a response
behind any flags and counter. Cut short or with bytes behind it, it is neither read from a message
nor a signature under any key of any message. -/
theorem verified_framed {key : PublicKey} {message signature : Bytes}
    (hverify : key.verify message signature = true) :
    Raw.restAsSignature signature = .ok signature ∧
    (∀ (presence : Raw.Presence) (counter : UInt32),
      Raw.AuthenticationResponse.decode
          (presence.flags :: (Raw.counterBytes counter ++ signature)) =
        .ok ⟨presence, counter, signature⟩) ∧
    (∀ part more : Bytes, signature = part ++ more → more ≠ [] →
      Raw.restAsSignature part = .error .truncated ∧
        ∀ (other : PublicKey) (data : Bytes), other.verify data part = false) ∧
    ∀ more : Bytes, more ≠ [] →
      Raw.restAsSignature (signature ++ more) = .error .trailingData ∧
        ∀ (other : PublicKey) (data : Bytes), other.verify data (signature ++ more) = false := by
  have hsequence := isSequence_of_verify hverify
  have hframes := Raw.frames_restAsSignature hsequence
  refine ⟨hframes.whole, ?_, ?_, ?_⟩
  · intro presence counter
    exact Raw.AuthenticationResponse.decode_eq_ok_iff.2 ⟨hsequence, rfl⟩
  · intro part more hsplit hmore
    have hcut := hframes.cut part more hsplit hmore
    exact ⟨hcut, verify_eq_false_of_restAsSignature hcut⟩
  · intro more hmore
    have hextended := hframes.extended more hmore
    exact ⟨hextended, verify_eq_false_of_restAsSignature hextended⟩

/-- What the key whose secret is one signs where there is nothing to sign. -/
def signatureOfNothing : Bytes :=
  [0x30, 0x45, 0x02, 0x20, 0x0e, 0x69, 0xcb, 0x11, 0x76, 0x64, 0xce, 0xdd, 0x67, 0x34, 0xe8,
   0x01, 0x51, 0xea, 0xbd, 0x38, 0x8d, 0xe2, 0x66, 0x53, 0x3e, 0x16, 0x3f, 0xbe, 0x8e, 0xa4,
   0x63, 0x06, 0x5c, 0x0f, 0xd7, 0x1a, 0x02, 0x21, 0x00, 0xc2, 0x84, 0xe6, 0x7e, 0x0b, 0xaf,
   0x2c, 0xf8, 0xe0, 0x78, 0x96, 0xa5, 0xc5, 0xf2, 0x22, 0xca, 0xd1, 0x1e, 0x35, 0xc9, 0x97,
   0xc1, 0x8c, 0x59, 0xd7, 0x9b, 0xdb, 0xad, 0x68, 0x81, 0x78, 0x3c]

theorem verified_framed_signatureOfNothing :
    KeyPair.base.publicKey.verify [] signatureOfNothing = true ∧
      Raw.restAsSignature signatureOfNothing = .ok signatureOfNothing ∧
      KeyPair.base.publicKey.verify [] (signatureOfNothing.take 70) = false ∧
      KeyPair.base.publicKey.verify [] (signatureOfNothing ++ [0x00]) = false := by
  have hverify : KeyPair.base.publicKey.verify [] signatureOfNothing = true := by decide +kernel
  obtain ⟨hwhole, _, hcut, hextended⟩ := verified_framed hverify
  have hsplit := (List.take_append_drop 70 signatureOfNothing).symm
  have hlast : signatureOfNothing.drop 70 ≠ [] := by decide
  exact ⟨hverify, hwhole, (hcut _ _ hsplit hlast).2 _ _,
    (hextended [0x00] (List.cons_ne_nil _ _)).2 _ _⟩

end PublicKey

end SecondFactor
