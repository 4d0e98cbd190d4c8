import SecondFactor.Proofs.Positional
import SecondFactor.Proofs.Raw.RoundTrip
import SecondFactor.Tape
import SecondFactor.Web.ClientData

/-!
Public keys and the bytes they are written in. A key is read from its own bytes and from no others,
`PublicKey.decode?_eq_some_iff`, so it does not matter by which of the conversions it is read or
written, `PublicKey.conversions_agree`.
-/

namespace SecondFactor.PublicKey

theorem prime_lt : Curve.p256.prime < 256 ^ 32 := by
  decide

theorem natOfBytes_x (key : PublicKey) : natOfBytes (bytesOfNat 32 key.x) = key.x := by
  rw [natOfBytes_bytesOfNat]
  exact Nat.mod_eq_of_lt (key.onCurve.1.trans prime_lt)

theorem natOfBytes_y (key : PublicKey) : natOfBytes (bytesOfNat 32 key.y) = key.y := by
  rw [natOfBytes_bytesOfNat]
  exact Nat.mod_eq_of_lt (key.onCurve.2.1.trans prime_lt)

theorem ofCoordinates?_eq_some_iff {x y : Nat} {key : PublicKey} :
    ofCoordinates? x y = some key ↔ x = key.x ∧ y = key.y := by
  unfold ofCoordinates?
  constructor
  · intro hread
    split at hread
    · cases hread
      exact ⟨rfl, rfl⟩
    · cases hread
  · rintro ⟨rfl, rfl⟩
    exact dif_pos key.onCurve

theorem ofRaw?_toRaw (key : PublicKey) : ofRaw? key.toRaw = some key := by
  change ofCoordinates? (natOfBytes (bytesOfNat 32 key.x)) (natOfBytes (bytesOfNat 32 key.y)) = _
  rw [natOfBytes_x, natOfBytes_y]
  exact ofCoordinates?_eq_some_iff.2 ⟨rfl, rfl⟩

/-- A point is on the curve or not, whether it is looked at as it is framed or as its bytes. -/
theorem decode?_bytes_raw (raw : Raw.PublicKey) : decode? raw.bytes = ofRaw? raw := by
  have hbody : (raw.x.val ++ raw.y.val).length = 64 := by
    rw [List.length_append, raw.x.property, raw.y.property]
  rw [decode?, if_pos ⟨raw.length_bytes, rfl⟩, Raw.PublicKey.bytes, ofPoint?, if_pos ⟨rfl, hbody⟩,
    List.take_left' raw.x.property, List.drop_left' raw.x.property]
  rfl

theorem decode?_bytes (key : PublicKey) : decode? key.bytes = some key :=
  (decode?_bytes_raw key.toRaw).trans key.ofRaw?_toRaw

/-- A coordinate of 32 bytes is written as it was read. -/
theorem eq_blockOfNat (coordinate : Digest) :
    coordinate = blockOfNat 32 (natOfBytes coordinate.val) := by
  apply Subtype.ext
  have hbytes := bytesOfNat_natOfBytes coordinate.val
  rw [coordinate.property] at hbytes
  exact hbytes.symm

theorem ofRaw?_eq_some_iff {point : Raw.PublicKey} {key : PublicKey} :
    ofRaw? point = some key ↔ point = key.toRaw := by
  constructor
  · intro hread
    obtain ⟨hx, hy⟩ := ofCoordinates?_eq_some_iff.1 hread
    rw [toRaw, ← hx, ← hy, ← eq_blockOfNat, ← eq_blockOfNat]
  · rintro rfl
    exact key.ofRaw?_toRaw

/-- The bytes that are looked at as a point are those of some framed point. -/
theorem exists_point {bytes : Bytes} (hlength : bytes.length = 65)
    (htag : bytes.head? = some 0x04) : ∃ point : Raw.PublicKey, bytes = point.bytes := by
  obtain ⟨rest, rfl⟩ := List.head?_eq_some_iff.1 htag
  rw [List.length_cons] at hlength
  refine ⟨⟨⟨rest.take 32, ?_⟩, ⟨rest.drop 32, ?_⟩⟩, ?_⟩
  · rw [List.length_take]
    omega
  · rw [List.length_drop]
    omega
  · rw [Raw.PublicKey.bytes, List.take_append_drop]

theorem decode?_eq_some_iff {bytes : Bytes} {key : PublicKey} :
    decode? bytes = some key ↔ bytes = key.bytes := by
  constructor
  · intro hread
    have hpoint : ∃ point : Raw.PublicKey, bytes = point.bytes := by
      by_cases hframe : bytes.length = 65 ∧ bytes.head? = some 0x04
      · exact exists_point hframe.1 hframe.2
      · rw [decode?, if_neg hframe] at hread
        cases hread
    obtain ⟨point, rfl⟩ := hpoint
    rw [decode?_bytes_raw, ofRaw?_eq_some_iff] at hread
    rw [hread]
    rfl
  · rintro rfl
    exact key.decode?_bytes

theorem bytes_injective {key other : PublicKey} (h : key.bytes = other.bytes) : key = other := by
  have hread := decode?_eq_some_iff.2 h
  rw [decode?_bytes] at hread
  exact Option.some.inj hread

/-- A key is read from bytes if they are framed as a point and the point is a key, and then it is
the same key, written as those bytes and framed as that point. Every key is read back from its
bytes, which are those of its point, and names a channel by their two coordinates. -/
theorem conversions_agree :
    (∀ (raw : Bytes) (key : PublicKey), decode? raw = some key ↔
      ∃ point, Raw.PublicKey.decode raw = .ok point ∧ ofRaw? point = some key) ∧
    (∀ (raw : Bytes) (point : Raw.PublicKey) (key : PublicKey),
      Raw.PublicKey.decode raw = .ok point → ofRaw? point = some key →
        key.bytes = raw ∧ key.toRaw = point ∧ point.bytes = raw) ∧
    (∀ point : Raw.PublicKey, ofRaw? point = decode? point.bytes) ∧
    ∀ key : PublicKey, decode? key.bytes = some key ∧ key.toRaw.bytes = key.bytes ∧
      ∃ x y : Digest, key.bytes = 0x04 :: (x.val ++ y.val) ∧
        Web.ChannelId.ofPublicKey key =
          ⟨"EC", "P-256", Base64.encode .websafe x.val, Base64.encode .websafe y.val⟩ := by
  refine ⟨?_, ?_, fun point => (decode?_bytes_raw point).symm, ?_⟩
  · intro raw key
    rw [decode?_eq_some_iff]
    constructor
    · rintro rfl
      exact ⟨key.toRaw, Raw.PublicKey.decode_eq_ok_iff.2 rfl, key.ofRaw?_toRaw⟩
    · rintro ⟨point, hframed, hkey⟩
      obtain rfl := ofRaw?_eq_some_iff.1 hkey
      exact Raw.PublicKey.decode_eq_ok_iff.1 hframed
  · intro raw point key hframed hkey
    obtain rfl := ofRaw?_eq_some_iff.1 hkey
    obtain rfl := Raw.PublicKey.decode_eq_ok_iff.1 hframed
    exact ⟨rfl, rfl, rfl⟩
  · intro key
    exact ⟨key.decode?_bytes, rfl, key.toRaw.x, key.toRaw.y, rfl, rfl⟩

end SecondFactor.PublicKey

namespace SecondFactor

/-- The key pair whose secret is one. -/
def KeyPair.base : KeyPair where
  secret := 1
  publicKey := ⟨Curve.p256.baseX, Curve.p256.baseY, by decide +kernel⟩

theorem Tape.drawKeyPair_base :
    Tape.drawKeyPair Suite.standard (bytesOfNat 32 1) = some (KeyPair.base, []) := by
  decide +kernel

end SecondFactor
