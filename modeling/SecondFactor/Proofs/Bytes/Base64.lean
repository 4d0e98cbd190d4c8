import Mathlib.Data.List.DropRight
import SecondFactor.Bytes.Base64

/-!
Base64 texts and the bytes they stand for. Strict reading is the inverse of writing in each alphabet
(`ofDigits?_eq_some_iff`), and no text that both alphabets read is read in two ways
(`ofDigits?_agree`). So a text is read as those bytes whose text it is without the `=` at its end
(`decodeEither?_eq_some_iff`).
-/

namespace SecondFactor.Base64

namespace Alphabet

theorem digit_of_upper (alphabet : Alphabet) {value : Nat} (h : value < 26) :
    alphabet.digit value = Char.ofNat (65 + value) :=
  if_pos h

theorem digit_of_lower (alphabet : Alphabet) {value : Nat} (h : 26 ≤ value ∧ value < 52) :
    alphabet.digit value = Char.ofNat (71 + value) :=
  (if_neg (Nat.not_lt.2 h.1)).trans (if_pos h.2)

theorem digit_of_decimal (alphabet : Alphabet) {value : Nat} (h : 52 ≤ value ∧ value < 62) :
    alphabet.digit value = Char.ofNat (value - 4) :=
  (if_neg (by omega)).trans <| (if_neg (Nat.not_lt.2 h.1)).trans (if_pos h.2)

/-- A character that has a value is the digit of that value, and of no other. -/
theorem value?_eq_some_iff {alphabet : Alphabet} {c : Char} {value : Nat} :
    alphabet.value? c = some value ↔ value < 64 ∧ c = alphabet.digit value := by
  constructor
  · intro hvalue
    have hchar : Char.ofNat c.toNat = c := Char.ofNat_toNat c
    simp only [value?] at hvalue
    by_cases hupper : 65 ≤ c.toNat ∧ c.toNat ≤ 90
    · rw [if_pos hupper] at hvalue
      cases hvalue
      have hcode : 65 + (c.toNat - 65) = c.toNat := by omega
      refine ⟨by omega, ?_⟩
      rw [digit_of_upper _ (by omega), hcode, hchar]
    rw [if_neg hupper] at hvalue
    by_cases hlower : 97 ≤ c.toNat ∧ c.toNat ≤ 122
    · rw [if_pos hlower] at hvalue
      cases hvalue
      have hcode : 71 + (c.toNat - 71) = c.toNat := by omega
      refine ⟨by omega, ?_⟩
      rw [digit_of_lower _ (by omega), hcode, hchar]
    rw [if_neg hlower] at hvalue
    by_cases hdecimal : 48 ≤ c.toNat ∧ c.toNat ≤ 57
    · rw [if_pos hdecimal] at hvalue
      cases hvalue
      have hcode : c.toNat + 4 - 4 = c.toNat := by omega
      refine ⟨by omega, ?_⟩
      rw [digit_of_decimal _ (by omega), hcode, hchar]
    rw [if_neg hdecimal] at hvalue
    -- What is left are the last two digits, in which the alphabets differ.
    cases alphabet
    all_goals
      simp only at hvalue
      split at hvalue
      · rename_i hmark
        cases hvalue
        exact ⟨by decide, hmark⟩
      · split at hvalue
        · rename_i hmark
          cases hvalue
          exact ⟨by decide, hmark⟩
        · cases hvalue
  · rintro ⟨hlt, rfl⟩
    exact value?_digit alphabet hlt

/-- The alphabets differ in the last two digits only. -/
theorem digit_congr (alphabet other : Alphabet) {value : Nat} (h : value < 62) :
    alphabet.digit value = other.digit value := by
  by_cases hupper : value < 26
  · rw [digit_of_upper alphabet hupper, digit_of_upper other hupper]
  · by_cases hlower : value < 52
    · rw [digit_of_lower alphabet ⟨by omega, hlower⟩, digit_of_lower other ⟨by omega, hlower⟩]
    · rw [digit_of_decimal alphabet ⟨by omega, h⟩, digit_of_decimal other ⟨by omega, h⟩]

/-- The last two digits of an alphabet are none of the other. -/
theorem value?_digit_of_ne {alphabet other : Alphabet} (hne : alphabet ≠ other) {value : Nat}
    (h : value = 62 ∨ value = 63) : other.value? (alphabet.digit value) = none := by
  rcases h with rfl | rfl
  · cases alphabet <;> cases other <;> first | exact absurd rfl hne | decide
  · cases alphabet <;> cases other <;> first | exact absurd rfl hne | decide

/-- A character that has a value in both alphabets has the same in both. -/
theorem value?_agree {alphabet other : Alphabet} {c : Char} {value value' : Nat}
    (hvalue : alphabet.value? c = some value) (hother : other.value? c = some value') :
    value = value' := by
  obtain ⟨hlt, rfl⟩ := value?_eq_some_iff.1 hvalue
  by_cases hsame : alphabet = other
  · rw [hsame, value?_digit other hlt] at hother
    exact Option.some.inj hother
  · by_cases hcommon : value < 62
    · rw [digit_congr alphabet other hcommon, value?_digit other hlt] at hother
      exact Option.some.inj hother
    · rw [value?_digit_of_ne hsame (by omega)] at hother
      cases hother

end Alphabet

/-! Writing. -/

/-- Every character of a text has a value in its alphabet. -/
theorem exists_value_of_mem_digits {alphabet : Alphabet} {bytes : Bytes} {c : Char}
    (hmem : c ∈ digits alphabet bytes) : ∃ value, alphabet.value? c = some value := by
  have hdigit {value : Nat} (h : value < 64) :
      ∃ given, alphabet.value? (alphabet.digit value) = some given :=
    ⟨value, alphabet.value?_digit h⟩
  fun_induction digits alphabet bytes with
  | case1 => cases hmem
  | case2 x group =>
      have hx := x.toNat_lt
      simp only [List.mem_cons, List.not_mem_nil, or_false] at hmem
      rcases hmem with rfl | rfl
      · exact hdigit (by omega)
      · exact hdigit (by omega)
  | case3 x y group =>
      have hx := x.toNat_lt
      have hy := y.toNat_lt
      simp only [List.mem_cons, List.not_mem_nil, or_false] at hmem
      rcases hmem with rfl | rfl | rfl
      · exact hdigit (by omega)
      · exact hdigit (by omega)
      · exact hdigit (by omega)
  | case4 x y z rest group ih =>
      have hx := x.toNat_lt
      have hy := y.toNat_lt
      have hz := z.toNat_lt
      simp only [List.mem_cons] at hmem
      rcases hmem with rfl | rfl | rfl | rfl | hmem
      · exact hdigit (by omega)
      · exact hdigit (by omega)
      · exact hdigit (by omega)
      · exact hdigit (by omega)
      · exact ih hmem

theorem padding_notMem_digits (alphabet : Alphabet) (bytes : Bytes) :
    '=' ∉ digits alphabet bytes := by
  intro hmem
  obtain ⟨value, hvalue⟩ := exists_value_of_mem_digits hmem
  cases alphabet <;> simp [Alphabet.value?] at hvalue

/-- One byte from two digits, the last four bits of which are unused. -/
theorem digits_of_two (alphabet : Alphabet) {group : Nat} (hlt : group < 4096)
    (hunused : group % 16 = 0) :
    digits alphabet [UInt8.ofNat (group / 16)] =
      [alphabet.digit (group / 64), alphabet.digit (group % 64)] := by
  have hx : group / 16 < 256 := by omega
  have hgroup : group / 16 * 16 = group := by omega
  rw [digits, UInt8.toNat_ofNat_of_lt' hx, hgroup]

/-- Two bytes from three digits, the last two bits of which are unused. -/
theorem digits_of_three (alphabet : Alphabet) {group : Nat} (hlt : group < 262144)
    (hunused : group % 4 = 0) :
    digits alphabet [UInt8.ofNat (group / 1024), UInt8.ofNat (group / 4 % 256)] =
      [alphabet.digit (group / 4096), alphabet.digit (group / 64 % 64),
        alphabet.digit (group % 64)] := by
  have hx : group / 1024 < 256 := by omega
  have hy : group / 4 % 256 < 256 := by omega
  have hgroup : group / 1024 * 1024 + group / 4 % 256 * 4 = group := by omega
  rw [digits, UInt8.toNat_ofNat_of_lt' hx, UInt8.toNat_ofNat_of_lt' hy, hgroup]

/-- Three bytes from four digits. -/
theorem digits_of_four (alphabet : Alphabet) {group : Nat} (hlt : group < 16777216)
    (rest : Bytes) :
    digits alphabet (UInt8.ofNat (group / 65536) :: UInt8.ofNat (group / 256 % 256) ::
        UInt8.ofNat (group % 256) :: rest) =
      alphabet.digit (group / 262144) :: alphabet.digit (group / 4096 % 64) ::
        alphabet.digit (group / 64 % 64) :: alphabet.digit (group % 64) ::
        digits alphabet rest := by
  have hx : group / 65536 < 256 := by omega
  have hy : group / 256 % 256 < 256 := by omega
  have hz : group % 256 < 256 := by omega
  have hgroup : group / 65536 * 65536 + group / 256 % 256 * 256 + group % 256 = group := by omega
  rw [digits, UInt8.toNat_ofNat_of_lt' hx, UInt8.toNat_ofNat_of_lt' hy,
    UInt8.toNat_ofNat_of_lt' hz, hgroup]

/-! Reading. -/

theorem eq_digits_of_ofDigits? {alphabet : Alphabet} {text : List Char} {bytes : Bytes}
    (hread : ofDigits? alphabet text = some bytes) : text = digits alphabet bytes := by
  fun_induction ofDigits? alphabet text generalizing bytes with
  | case1 =>
      cases hread
      rfl
  | case2 => cases hread
  | case3 a b =>
      simp only [Option.bind_eq_bind, Option.bind_eq_some_iff,
        Alphabet.value?_eq_some_iff] at hread
      obtain ⟨x, ⟨hx, rfl⟩, y, ⟨hy, rfl⟩, hgroup⟩ := hread
      split at hgroup
      · rename_i hunused
        cases hgroup
        have hfirst : (x * 64 + y) / 64 = x := by omega
        have hsecond : (x * 64 + y) % 64 = y := by omega
        rw [digits_of_two alphabet (by omega) hunused, hfirst, hsecond]
      · cases hgroup
  | case4 a b c =>
      simp only [Option.bind_eq_bind, Option.bind_eq_some_iff,
        Alphabet.value?_eq_some_iff] at hread
      obtain ⟨x, ⟨hx, rfl⟩, y, ⟨hy, rfl⟩, z, ⟨hz, rfl⟩, hgroup⟩ := hread
      split at hgroup
      · rename_i hunused
        cases hgroup
        have hfirst : (x * 4096 + y * 64 + z) / 4096 = x := by omega
        have hsecond : (x * 4096 + y * 64 + z) / 64 % 64 = y := by omega
        have hthird : (x * 4096 + y * 64 + z) % 64 = z := by omega
        rw [digits_of_three alphabet (by omega) hunused, hfirst, hsecond, hthird]
      · cases hgroup
  | case5 a b c d rest ih =>
      simp only [Option.bind_eq_bind, Option.bind_eq_some_iff,
        Alphabet.value?_eq_some_iff] at hread
      obtain ⟨x, ⟨hx, rfl⟩, y, ⟨hy, rfl⟩, z, ⟨hz, rfl⟩, w, ⟨hw, rfl⟩, tail, htail, hgroup⟩ := hread
      cases hgroup
      have hfirst : (x * 262144 + y * 4096 + z * 64 + w) / 262144 = x := by omega
      have hsecond : (x * 262144 + y * 4096 + z * 64 + w) / 4096 % 64 = y := by omega
      have hthird : (x * 262144 + y * 4096 + z * 64 + w) / 64 % 64 = z := by omega
      have hfourth : (x * 262144 + y * 4096 + z * 64 + w) % 64 = w := by omega
      rw [digits_of_four alphabet (by omega), hfirst, hsecond, hthird, hfourth, ← ih htail]

theorem ofDigits?_eq_some_iff {alphabet : Alphabet} {text : List Char} {bytes : Bytes} :
    ofDigits? alphabet text = some bytes ↔ text = digits alphabet bytes := by
  constructor
  · exact eq_digits_of_ofDigits?
  · rintro rfl
    exact ofDigits?_digits alphabet bytes

/-- Reading looks at nothing but the values of the characters. -/
theorem ofDigits?_congr {alphabet other : Alphabet} {text : List Char}
    (hvalues : ∀ c ∈ text, alphabet.value? c = other.value? c) :
    ofDigits? alphabet text = ofDigits? other text := by
  fun_induction ofDigits? alphabet text with
  | case1 => rfl
  | case2 => rfl
  | case3 a b => rw [ofDigits?, hvalues a (by simp), hvalues b (by simp)]
  | case4 a b c =>
      rw [ofDigits?, hvalues a (by simp), hvalues b (by simp), hvalues c (by simp)]
  | case5 a b c d rest ih =>
      have hrest := ih fun c hmem => hvalues c (by simp [hmem])
      rw [ofDigits?, hvalues a (by simp), hvalues b (by simp), hvalues c (by simp),
        hvalues d (by simp), hrest]

/-- A text that is read in both alphabets is read as the same bytes in both. -/
theorem ofDigits?_agree {alphabet other : Alphabet} {text : List Char} {bytes bytes' : Bytes}
    (hread : ofDigits? alphabet text = some bytes) (hother : ofDigits? other text = some bytes') :
    bytes = bytes' := by
  have hvalues : ∀ c ∈ text, alphabet.value? c = other.value? c := by
    intro c hmem
    obtain ⟨value, hvalue⟩ := exists_value_of_mem_digits (eq_digits_of_ofDigits? hread ▸ hmem)
    obtain ⟨value', hvalue'⟩ := exists_value_of_mem_digits (eq_digits_of_ofDigits? hother ▸ hmem)
    rw [hvalue, hvalue', Alphabet.value?_agree hvalue hvalue']
  rw [ofDigits?_congr hvalues, hother] at hread
  exact (Option.some.inj hread).symm

/-! Padding. -/

/-- All of a text but the `=` at its end. -/
structure Unpadded (text front : String) : Prop where
  padding : ∃ count, text.toList = front.toList ++ List.replicate count '='
  last : front.toList.getLast? ≠ some '='

theorem withoutPadding_eq_self {text : List Char} (hlast : text.getLast? ≠ some '=') :
    withoutPadding text = text := by
  refine List.rdropWhile_eq_self_iff.2 fun hne hpadding => hlast ?_
  rw [List.getLast?_eq_some_getLast hne, of_decide_eq_true hpadding]

theorem withoutPadding_append {front : List Char} (hlast : front.getLast? ≠ some '=')
    (count : Nat) : withoutPadding (front ++ List.replicate count '=') = front := by
  induction count with
  | zero =>
      rw [List.replicate_zero, List.append_nil]
      exact withoutPadding_eq_self hlast
  | succ count ih =>
      rw [List.replicate_succ', ← List.append_assoc]
      exact (List.rdropWhile_concat_pos _ _ '=' (by decide)).trans ih

theorem exists_padding (text : List Char) :
    ∃ count, text = withoutPadding text ++ List.replicate count '=' := by
  let isPadding : Char → Bool := fun c => decide (c = '=')
  have hpadding : ∀ c ∈ text.rtakeWhile isPadding, c = '=' := by
    intro c hmem
    have hc : isPadding c = true := List.mem_rtakeWhile_imp hmem
    exact of_decide_eq_true hc
  have hsplit : text = withoutPadding text ++ text.rtakeWhile isPadding :=
    List.rdropWhile_append_rtakeWhile.symm
  rw [List.eq_replicate_of_mem hpadding] at hsplit
  exact ⟨_, hsplit⟩

theorem getLast?_withoutPadding (text : List Char) :
    (withoutPadding text).getLast? ≠ some '=' := by
  intro hlast
  have hne : withoutPadding text ≠ [] := by
    intro hnil
    rw [hnil] at hlast
    cases hlast
  refine List.rdropWhile_last_not (fun c : Char => decide (c = '=')) text hne ?_
  rw [List.getLast?_eq_some_getLast hne] at hlast
  exact decide_eq_true (Option.some.inj hlast)

theorem unpadded_iff {text front : String} :
    Unpadded text front ↔ withoutPadding text.toList = front.toList := by
  constructor
  · rintro ⟨⟨count, htext⟩, hlast⟩
    rw [htext]
    exact withoutPadding_append hlast count
  · intro hfront
    obtain ⟨count, hpadding⟩ := exists_padding text.toList
    refine ⟨⟨count, ?_⟩, ?_⟩
    · rw [← hfront]
      exact hpadding
    · rw [← hfront]
      exact getLast?_withoutPadding text.toList

theorem Unpadded.mem {text front : String} (hfront : Unpadded text front) {c : Char}
    (hmem : c ∈ text.toList) (hc : c ≠ '=') : c ∈ front.toList := by
  obtain ⟨count, htext⟩ := hfront.padding
  rw [htext, List.mem_append] at hmem
  exact hmem.resolve_right fun hpadding => hc (List.eq_of_mem_replicate hpadding)

/-! Texts. -/

theorem decode?_eq_some_iff {alphabet : Alphabet} {text : String} {bytes : Bytes} :
    decode? alphabet text = some bytes ↔ Unpadded text (encode alphabet bytes) := by
  rw [decode?, ofDigits?_eq_some_iff, unpadded_iff, encode, String.toList_ofList]

theorem unpadded_encode (alphabet : Alphabet) (bytes : Bytes) :
    Unpadded (encode alphabet bytes) (encode alphabet bytes) := by
  refine ⟨⟨0, (List.append_nil _).symm⟩, fun hlast => ?_⟩
  rw [encode, String.toList_ofList] at hlast
  exact padding_notMem_digits alphabet bytes (List.mem_of_getLast? hlast)

theorem decode?_encode (alphabet : Alphabet) (bytes : Bytes) :
    decode? alphabet (encode alphabet bytes) = some bytes :=
  decode?_eq_some_iff.2 (unpadded_encode alphabet bytes)

theorem decode?_agree {alphabet other : Alphabet} {text : String} {bytes bytes' : Bytes}
    (hread : decode? alphabet text = some bytes) (hother : decode? other text = some bytes') :
    bytes = bytes' :=
  ofDigits?_agree hread hother

/-- The alphabet that is tried first takes nothing from the other. -/
theorem decodeEither?_eq_some_iff {text : String} {bytes : Bytes} :
    decodeEither? text = some bytes ↔ ∃ alphabet, decode? alphabet text = some bytes := by
  rw [decodeEither?, Option.or_eq_some_iff]
  constructor
  · rintro (hread | ⟨_, hread⟩)
    · exact ⟨.websafe, hread⟩
    · exact ⟨.standard, hread⟩
  · rintro ⟨alphabet, hread⟩
    cases hwebsafe : decode? .websafe text with
    | some bytes' =>
        rw [decode?_agree hread hwebsafe]
        exact .inl rfl
    | none =>
        cases alphabet with
        | standard => exact .inr ⟨rfl, hread⟩
        | websafe =>
            rw [hwebsafe] at hread
            cases hread

theorem decodeEither?_eq_or (text : String) :
    decodeEither? text = (decode? .standard text).or (decode? .websafe text) := by
  rw [decodeEither?]
  cases hwebsafe : decode? .websafe text with
  | none => rw [Option.none_or, Option.or_none]
  | some bytes =>
      cases hstandard : decode? .standard text with
      | none => rw [Option.or_none, Option.none_or]
      | some bytes' => rw [Option.some_or, Option.some_or, decode?_agree hwebsafe hstandard]

/-- A text is refused when it holds digits that only the one alphabet has, and digits that only the
other has. -/
theorem decodeEither?_of_mixed {text : String} {c d : Char}
    (hc : c ∈ text.toList) (hwebsafe : c = '-' ∨ c = '_')
    (hd : d ∈ text.toList) (hstandard : d = '+' ∨ d = '/') : decodeEither? text = none := by
  refine Option.eq_none_iff_forall_ne_some.2 fun bytes hread => ?_
  obtain ⟨alphabet, hread⟩ := decodeEither?_eq_some_iff.1 hread
  have hvalue {e : Char} (hmem : e ∈ text.toList) (he : e ≠ '=') :
      ∃ value, alphabet.value? e = some value := by
    have hfront := (decode?_eq_some_iff.1 hread).mem hmem he
    rw [encode, String.toList_ofList] at hfront
    exact exists_value_of_mem_digits hfront
  cases alphabet with
  | websafe =>
      obtain ⟨value, hgiven⟩ := hvalue hd (by rcases hstandard with rfl | rfl <;> decide)
      rcases hstandard with rfl | rfl <;> cases hgiven
  | standard =>
      obtain ⟨value, hgiven⟩ := hvalue hc (by rcases hwebsafe with rfl | rfl <;> decide)
      rcases hwebsafe with rfl | rfl <;> cases hgiven

end SecondFactor.Base64
