import SecondFactor.Text.Utf8

/-!
Every text is read back from its bytes (`decode?_encode`, `text?_bytes`): of the forms that a
reader tells apart by the first byte, a character's own is the one its number is large enough for.
-/

namespace SecondFactor.Utf8

theorem toNat_ofNat {n : Nat} (h : n < 256) : (UInt8.ofNat n).toNat = n :=
  UInt8.toNat_ofNat_of_lt' h

/-- Bytes compare as their numbers do. -/
theorem ofNat_lt_iff {n : Nat} (hn : n < 256) (byte : UInt8) :
    UInt8.ofNat n < byte ↔ n < byte.toNat := by
  rw [UInt8.lt_iff_toNat_lt, toNat_ofNat hn]

theorem toNat_lt (c : Char) : c.toNat < 1114112 := by
  have hvalid : c.toNat.isValidChar := c.valid
  rcases hvalid with hlow | ⟨_, hhigh⟩
  · omega
  · exact hhigh

theorem continuation?_ofNat (n : Nat) :
    continuation? (UInt8.ofNat (n % 64 + 128)) = some (n % 64) := by
  have hbyte : n % 64 + 128 < 256 := by omega
  simp only [continuation?, ← UInt8.not_lt, ofNat_lt_iff hbyte, toNat_ofNat hbyte,
    UInt8.reduceToNat]
  rw [if_pos (by omega), Nat.add_sub_cancel]

theorem scalar?_toNat {least : Nat} {c : Char} (h : least ≤ c.toNat) :
    scalar? least c.toNat = some c := by
  have hvalid : c.toNat.isValidChar := c.valid
  have hc : Char.ofNat c.toNat = Char.ofNatAux c.toNat hvalid := dif_pos hvalid
  rw [scalar?, dif_pos hvalid, if_pos h, ← hc, Char.ofNat_toNat]

/-! One equation of the reader for each kind of first byte. -/

section Lead

variable {n : Nat} (b c d : UInt8) (rest : Bytes)

theorem decode?_ascii (hn : n < 128) :
    decode? (UInt8.ofNat n :: rest) = (decode? rest).map (Char.ofNat n :: ·) := by
  have hbyte : n < 256 := by omega
  rw [decode?.eq_def]
  simp only [ofNat_lt_iff hbyte, toNat_ofNat hbyte, UInt8.reduceToNat]
  rw [if_pos hn]
  cases decode? rest <;> rfl

theorem decode?_two (hn : 192 ≤ n) (hn' : n < 224) :
    decode? (UInt8.ofNat n :: b :: rest) = do
      let c ← scalar? 0x80 ((n - 192) * 64 + (← continuation? b))
      return c :: (← decode? rest) := by
  have hbyte : n < 256 := by omega
  rw [decode?.eq_def]
  simp only [ofNat_lt_iff hbyte, toNat_ofNat hbyte, UInt8.reduceToNat]
  rw [if_neg (by omega), if_pos hn', if_neg (by omega)]

theorem decode?_three (hn : 224 ≤ n) (hn' : n < 240) :
    decode? (UInt8.ofNat n :: b :: c :: rest) = do
      let c ← scalar? 0x800 ((n - 224) * 4096 + (← continuation? b) * 64 + (← continuation? c))
      return c :: (← decode? rest) := by
  have hbyte : n < 256 := by omega
  rw [decode?.eq_def]
  simp only [ofNat_lt_iff hbyte, toNat_ofNat hbyte, UInt8.reduceToNat]
  rw [if_neg (by omega), if_neg (by omega), if_pos hn']

theorem decode?_four (hn : 240 ≤ n) (hn' : n < 248) :
    decode? (UInt8.ofNat n :: b :: c :: d :: rest) = do
      let c ← scalar? 0x10000
        ((n - 240) * 262144 + (← continuation? b) * 4096 + (← continuation? c) * 64
          + (← continuation? d))
      return c :: (← decode? rest) := by
  have hbyte : n < 256 := by omega
  rw [decode?.eq_def]
  simp only [ofNat_lt_iff hbyte, toNat_ofNat hbyte, UInt8.reduceToNat]
  rw [if_neg (by omega), if_neg (by omega), if_neg (by omega), if_pos hn']

end Lead

/-- A character is read back from the front of the bytes it is written in. -/
theorem decode?_encodeChar_append (c : Char) (rest : Bytes) :
    decode? (String.utf8EncodeChar c ++ rest) = (decode? rest).map (c :: ·) := by
  have hbound := toNat_lt c
  have hreturn : (do return c :: (← decode? rest)) = (decode? rest).map (c :: ·) := by
    cases decode? rest <;> rfl
  simp only [String.utf8EncodeChar, show c.val.toNat = c.toNat from rfl]
  split
  · rw [List.singleton_append, decode?_ascii rest (by omega), Char.ofNat_toNat]
  split
  · have hcode : (c.toNat / 64 % 32 + 192 - 192) * 64 + c.toNat % 64 = c.toNat := by omega
    have hscalar : scalar? 0x80 c.toNat = some c := scalar?_toNat (by omega)
    simp only [List.cons_append, List.nil_append]
    rw [decode?_two _ rest (by omega) (by omega)]
    simp only [continuation?_ofNat, Option.bind_eq_bind, Option.bind_some, hcode, hscalar]
    exact hreturn
  split
  · have hcode : (c.toNat / 4096 % 16 + 224 - 224) * 4096 + c.toNat / 64 % 64 * 64
        + c.toNat % 64 = c.toNat := by omega
    have hscalar : scalar? 0x800 c.toNat = some c := scalar?_toNat (by omega)
    simp only [List.cons_append, List.nil_append]
    rw [decode?_three _ _ rest (by omega) (by omega)]
    simp only [continuation?_ofNat, Option.bind_eq_bind, Option.bind_some, hcode, hscalar]
    exact hreturn
  · have hcode : (c.toNat / 262144 % 8 + 240 - 240) * 262144 + c.toNat / 4096 % 64 * 4096
        + c.toNat / 64 % 64 * 64 + c.toNat % 64 = c.toNat := by omega
    have hscalar : scalar? 0x10000 c.toNat = some c := scalar?_toNat (by omega)
    simp only [List.cons_append, List.nil_append]
    rw [decode?_four _ _ _ rest (by omega) (by omega)]
    simp only [continuation?_ofNat, Option.bind_eq_bind, Option.bind_some, hcode, hscalar]
    exact hreturn

@[simp] theorem encode_nil : encode [] = [] :=
  rfl

theorem encode_cons (c : Char) (text : List Char) :
    encode (c :: text) = String.utf8EncodeChar c ++ encode text :=
  List.flatMap_cons

theorem encode_append (first second : List Char) :
    encode (first ++ second) = encode first ++ encode second :=
  List.flatMap_append

theorem decode?_encode (text : List Char) : decode? (encode text) = some text := by
  induction text with
  | nil => rfl
  | cons c text ih => rw [encode_cons, decode?_encodeChar_append, ih, Option.map_some]

theorem text?_bytes (text : String) : text? (bytes text) = some text := by
  rw [text?, bytes, decode?_encode, Option.map_some, String.ofList_toList]

end SecondFactor.Utf8
