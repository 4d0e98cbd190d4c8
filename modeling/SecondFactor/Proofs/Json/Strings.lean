import SecondFactor.Json.Reader
import SecondFactor.Json.Writer
import SecondFactor.Proofs.Text.Utf8

/-!
A string is read back from the way it is written (`string?_writeText`), whatever stands behind its
closing quote. Each character is written in pieces, and the bytes of the pieces are its own.
-/

namespace SecondFactor.Json

/-- What a reader finds a character to be written in. -/
def charPieces (c : Char) : List Piece :=
  if c.toNat < 32 ∧ (escapeLetter? c).isNone then [.unit c.toNat]
  else (String.utf8EncodeChar c).map .byte

/-! The reader, byte by byte. -/

section Pieces

variable {rest : Bytes}

theorem pieces?_plain {byte : UInt8} (hlow : ¬ byte < 0x20) (hquote : byte ≠ 0x22)
    (hslash : byte ≠ 0x5C) :
    pieces? (byte :: rest) = (pieces? rest).map (Prod.map (.byte byte :: ·) id) := by
  rw [pieces?.eq_5 _ _ hquote (fun _ _ _ _ _ h => absurd h hslash) (fun _ _ h => absurd h hslash),
    if_neg (by simp [hlow, hslash])]
  cases pieces? rest <;> rfl

theorem pieces?_letter {letter byte : UInt8} (h : escape? letter = some byte) :
    pieces? (0x5C :: letter :: rest) = (pieces? rest).map (Prod.map (.byte byte :: ·) id) := by
  have hletter : letter ≠ 0x75 := by
    rintro rfl
    simp [show escape? 0x75 = none by decide] at h
  rw [pieces?.eq_4 _ _ (fun _ _ _ _ _ h => absurd h hletter), h]
  cases pieces? rest <;> rfl

theorem pieces?_unit {a b c d : UInt8} {unit : Nat} (h : unit? a b c d = some unit) :
    pieces? (0x5C :: 0x75 :: a :: b :: c :: d :: rest)
      = (pieces? rest).map (Prod.map (.unit unit :: ·) id) := by
  rw [pieces?.eq_3, h]
  cases pieces? rest <;> rfl

end Pieces
/-! Characters, one by one: what is written of each reads as its pieces. -/

theorem encodeChar_ascii {c : Char} (h : c.toNat < 128) :
    String.utf8EncodeChar c = [UInt8.ofNat c.toNat] := by
  have hval : c.val.toNat ≤ 127 := by
    change c.toNat ≤ 127
    omega
  simp only [String.utf8EncodeChar]
  exact if_pos hval

theorem encode_ascii {text : List Char} (h : ∀ c ∈ text, c.toNat < 128) :
    Utf8.encode text = text.map fun c => UInt8.ofNat c.toNat := by
  induction text with
  | nil => rfl
  | cons c text ih =>
      rw [Utf8.encode_cons, encodeChar_ascii (h c List.mem_cons_self),
        ih fun c hc => h c (List.mem_cons_of_mem _ hc)]
      rfl

/-- The bytes of a longer character are none that a reader of strings looks for. -/
theorem le_of_mem_encodeChar {c : Char} (h : 128 ≤ c.toNat) {byte : UInt8}
    (hbyte : byte ∈ String.utf8EncodeChar c) : 128 ≤ byte.toNat := by
  have hlt := Utf8.toNat_lt c
  simp only [String.utf8EncodeChar, show c.val.toNat = c.toNat from rfl] at hbyte
  rw [if_neg (by omega)] at hbyte
  split at hbyte
  · simp only [List.mem_cons, List.not_mem_nil, or_false] at hbyte
    rcases hbyte with rfl | rfl <;> rw [Utf8.toNat_ofNat (by omega)] <;> omega
  split at hbyte
  · simp only [List.mem_cons, List.not_mem_nil, or_false] at hbyte
    rcases hbyte with rfl | rfl | rfl <;> rw [Utf8.toNat_ofNat (by omega)] <;> omega
  · simp only [List.mem_cons, List.not_mem_nil, or_false] at hbyte
    rcases hbyte with rfl | rfl | rfl | rfl <;> rw [Utf8.toNat_ofNat (by omega)] <;> omega

theorem pieces?_plain_append {bytes : Bytes}
    (h : ∀ byte ∈ bytes, 32 ≤ byte.toNat ∧ byte.toNat ≠ 34 ∧ byte.toNat ≠ 92) (rest : Bytes) :
    pieces? (bytes ++ rest) = (pieces? rest).map (Prod.map (bytes.map .byte ++ ·) id) := by
  induction bytes with
  | nil => exact Option.map_id'.symm
  | cons byte bytes ih =>
      obtain ⟨hlow, hquote, hslash⟩ := h byte List.mem_cons_self
      have hbyte : ¬ byte < 0x20 := by
        rw [UInt8.lt_iff_toNat_lt, Nat.not_lt]
        exact hlow
      rw [List.cons_append, pieces?_plain hbyte (mt (congrArg UInt8.toNat) hquote)
        (mt (congrArg UInt8.toNat) hslash), ih fun byte hbyte => h byte (List.mem_cons_of_mem _ hbyte)]
      cases pieces? rest <;> rfl

/-- A letter that is written for a control character is read as that character. -/
theorem escape?_of_escapeLetter? {c letter : Char} (h : escapeLetter? c = some letter) :
    letter.toNat < 128 ∧ escape? (UInt8.ofNat letter.toNat) = some (UInt8.ofNat c.toNat) := by
  unfold escapeLetter? at h
  split at h
  · next hc => cases h; rw [hc]; decide
  split at h
  · next hc => cases h; rw [hc]; decide
  split at h
  · next hc => cases h; rw [hc]; decide
  split at h
  · next hc => cases h; rw [hc]; decide
  split at h
  · next hc => cases h; rw [hc]; decide
  · cases h

theorem hexValue?_digit {value : Nat} (h : value < 16) :
    (Hex.digit value).toNat < 128
      ∧ hexValue? (UInt8.ofNat (Hex.digit value).toNat) = some value := by
  revert h value
  decide

theorem unit?_digits {n : Nat} (h : n < 256) :
    unit? 0x30 0x30 (UInt8.ofNat (Hex.digit (n / 16)).toNat)
      (UInt8.ofNat (Hex.digit (n % 16)).toNat) = some n := by
  have hn : n / 16 * 16 + n % 16 = n := by omega
  rw [unit?, (hexValue?_digit (by omega : n / 16 < 16)).2,
    (hexValue?_digit (by omega : n % 16 < 16)).2, show hexValue? 0x30 = some 0 by decide]
  simp [hn]

theorem pieces?_escaped (c : Char) (rest : Bytes) :
    pieces? (Utf8.encode (escaped c) ++ rest)
      = (pieces? rest).map (Prod.map (charPieces c ++ ·) id) := by
  by_cases hquote : c = '"'
  · subst hquote
    exact pieces?_letter (by decide)
  by_cases hslash : c = '\\'
  · subst hslash
    exact pieces?_letter (by decide)
  rw [escaped, if_neg hquote, if_neg hslash, charPieces]
  by_cases hcontrol : c.toNat < 32
  · rw [if_pos hcontrol]
    rcases hletter : escapeLetter? c with _ | letter
    · have hhigh := hexValue?_digit (show c.toNat / 16 < 16 by omega)
      have hlow := hexValue?_digit (show c.toNat % 16 < 16 by omega)
      rw [if_pos ⟨hcontrol, by rfl⟩, encode_ascii (by simpa using ⟨hhigh.1, hlow.1⟩)]
      exact pieces?_unit (unit?_digits (by omega))
    · obtain ⟨hascii, hescape⟩ := escape?_of_escapeLetter? hletter
      rw [if_neg (by simp), encode_ascii (by simpa using hascii),
        encodeChar_ascii (by omega)]
      exact pieces?_letter hescape
  · rw [if_neg hcontrol, if_neg fun h => hcontrol h.1, Utf8.encode_cons]
    refine (congrArg pieces? ?_).trans (pieces?_plain_append ?_ rest)
    · simp [Utf8.encode]
    intro byte hbyte
    by_cases hascii : c.toNat < 128
    · rw [encodeChar_ascii hascii, List.mem_singleton] at hbyte
      rw [hbyte, Utf8.toNat_ofNat (by omega)]
      have hne (other : Char) (hother : c ≠ other) : c.toNat ≠ other.toNat := fun h =>
        hother (by rw [← Char.ofNat_toNat c, h, Char.ofNat_toNat])
      exact ⟨Nat.not_lt.mp hcontrol, hne '"' hquote, hne '\\' hslash⟩
    · have hlarge := le_of_mem_encodeChar (by omega) hbyte
      omega

theorem pieceBytes?_unit {unit : Nat} (h : unit < 0xD800) (pieces : List Piece) :
    pieceBytes? (.unit unit :: pieces)
      = (pieceBytes? pieces).map (String.utf8EncodeChar (Char.ofNat unit) ++ ·) := by
  have hhigh : ¬ (0xD800 ≤ unit ∧ unit < 0xDC00) := by omega
  have hlow : ¬ (0xDC00 ≤ unit ∧ unit < 0xE000) := by omega
  have hsurrogate : ¬ (0xD800 ≤ unit ∧ unit < 0xE000) := by omega
  rcases pieces with _ | ⟨_ | low, pieces⟩
  · rw [pieceBytes?.eq_4 _ _ (by simp), if_neg hsurrogate]
    rfl
  · rw [pieceBytes?.eq_4 _ _ (by simp), if_neg hsurrogate]
    cases pieceBytes? _ <;> rfl
  · rw [pieceBytes?.eq_3, if_neg hhigh, if_neg hlow]
    cases pieceBytes? _ <;> rfl

theorem pieceBytes?_bytes_append (bytes : Bytes) (pieces : List Piece) :
    pieceBytes? (bytes.map .byte ++ pieces) = (pieceBytes? pieces).map (bytes ++ ·) := by
  induction bytes with
  | nil => exact Option.map_id'.symm
  | cons byte bytes ih =>
      rw [List.map_cons, List.cons_append, pieceBytes?.eq_2, ih]
      cases pieceBytes? pieces <;> rfl

theorem pieceBytes?_charPieces (c : Char) (pieces : List Piece) :
    pieceBytes? (charPieces c ++ pieces)
      = (pieceBytes? pieces).map (String.utf8EncodeChar c ++ ·) := by
  unfold charPieces
  split
  · next hc =>
    rw [List.singleton_append, pieceBytes?_unit (by omega), Char.ofNat_toNat]
  · exact pieceBytes?_bytes_append _ _

/-! Strings. -/

theorem pieces?_text (text : List Char) (rest : Bytes) :
    pieces? (Utf8.encode (text.flatMap escaped) ++ 0x22 :: rest)
      = some (text.flatMap charPieces, rest) := by
  induction text with
  | nil => rfl
  | cons c text ih =>
      rw [List.flatMap_cons, Utf8.encode_append, List.append_assoc, pieces?_escaped, ih]
      rfl

theorem pieceBytes?_text (text : List Char) :
    pieceBytes? (text.flatMap charPieces) = some (Utf8.encode text) := by
  induction text with
  | nil => rfl
  | cons c text ih =>
      rw [List.flatMap_cons, pieceBytes?_charPieces, ih]
      rfl

/-- A string that no text stands for is read as one again. -/
theorem quoted?_writeText (value : Option String) (rest : Bytes) :
    quoted? (Utf8.encode (writeText value) ++ rest) = some (value, rest) := by
  rcases value with _ | text
  · have hpieces : pieces? (0x5C :: 0x75 :: 0x64 :: 0x38 :: 0x30 :: 0x30 :: 0x22 :: rest)
        = some ([.unit 0xD800], rest) := pieces?_unit (by decide)
    change string? (0x5C :: 0x75 :: 0x64 :: 0x38 :: 0x30 :: 0x30 :: 0x22 :: rest) = _
    rw [string?, hpieces]
    rfl
  · have hpieces := pieces?_text text.toList rest
    have hbytes : Utf8.encode (writeText (some text)) ++ rest
        = 0x22 :: (Utf8.encode (text.toList.flatMap escaped) ++ 0x22 :: rest) := by
      simp [writeText, Utf8.encode_cons, Utf8.encode_append, encode_ascii, encodeChar_ascii]
    rw [hbytes, quoted?, string?, hpieces]
    simp [textOfPieces?, pieceBytes?_text, Utf8.text?, Utf8.decode?_encode]

end SecondFactor.Json
