import SecondFactor.Proofs.Bytes.Base64
import SecondFactor.Proofs.Web.ClientData

/-!
The fields of messages are read back: bytes from their text, and words from their decimal digits
(`Numeral.nat?_ofNat`), whatever their value. Bytes are also read from other texts than the one that
is written for them, and from which is said by `Base64.accepted_texts`.
-/

namespace SecondFactor

namespace Numeral

/-- The last digit of a number comes off the end of those before it. -/
theorem whole_ofNat (value : Nat) :
    (ofNat value).whole =
      if value < 10 then [value] else (ofNat (value / 10)).whole ++ [value % 10] := by
  have hdigit : ∀ digit < 10, (Nat.digitChar digit).toNat - 48 = digit := by decide
  simp only [ofNat]
  rw [Nat.toDigits_eq_if (by decide)]
  split
  · rename_i hsmall
    rw [List.map_singleton, hdigit value hsmall]
  · rw [List.map_append, List.map_singleton, hdigit _ (Nat.mod_lt value (by decide))]

theorem ofDigits_append_singleton (digits : List Nat) (digit : Nat) :
    ofDigits (digits ++ [digit]) = ofDigits digits * 10 + digit :=
  List.foldl_append

theorem ofDigits_whole_ofNat (value : Nat) : ofDigits (ofNat value).whole = value := by
  induction value using Nat.strongRecOn with
  | ind value ih =>
      rw [whole_ofNat]
      split
      · exact Nat.zero_add value
      · rw [ofDigits_append_singleton, ih (value / 10) (by omega)]
        omega

theorem nat?_ofNat (value : Nat) : (ofNat value).nat? = some value :=
  congrArg some (ofDigits_whole_ofNat value)

theorem isDigits_whole_ofNat (value : Nat) : IsDigits (ofNat value).whole := by
  induction value using Nat.strongRecOn with
  | ind value ih =>
      rw [whole_ofNat]
      split
      · rename_i hsmall
        exact ⟨List.cons_ne_nil _ _, by simpa using hsmall⟩
      · refine ⟨by simp, ?_⟩
        intro digit hmem
        rcases List.mem_append.1 hmem with hmem | hmem
        · exact (ih (value / 10) (by omega)).2 digit hmem
        · rw [List.mem_singleton.1 hmem]
          exact Nat.mod_lt value (by decide)

/-- A number opens with a zero only if it is zero. -/
theorem head?_whole_ofNat (value : Nat) : (ofNat value).whole.head? = some 0 ↔ value = 0 := by
  induction value using Nat.strongRecOn with
  | ind value ih =>
      rw [whole_ofNat]
      split
      · simp
      · rename_i hlarge
        have hfront := (isDigits_whole_ofNat (value / 10)).1
        rw [List.head?_append_of_ne_nil _ hfront, ih (value / 10) (by omega)]
        omega

theorem wellFormed_ofNat (value : Nat) : (ofNat value).WellFormed where
  whole := isDigits_whole_ofNat value
  leading := by
    intro hzero
    rw [(head?_whole_ofNat value).1 hzero]
    rfl
  fraction := by simp [ofNat]
  exponent := by simp [ofNat]

end Numeral

namespace Json

theorem wellFormed_nat (value : Nat) : (Json.nat value).WellFormed := by
  rw [Json.nat, WellFormed]
  exact Numeral.wellFormed_ofNat value

theorem nat?_nat (value : Nat) : (Json.nat value).nat? = some value :=
  Numeral.nat?_ofNat value

theorem wellFormed_binary (bytes : Bytes) : (Json.binary bytes).WellFormed :=
  wellFormed_string _

theorem wellFormed_word (value : UInt32) : (Json.word value).WellFormed :=
  wellFormed_nat value.toNat

theorem wellFormed_longWord (value : UInt64) : (Json.longWord value).WellFormed :=
  wellFormed_nat value.toNat

@[simp] theorem text?_string (value : String) : (Json.string value).text? = some value := rfl

@[simp] theorem binary?_binary (bytes : Bytes) : (Json.binary bytes).binary? = some bytes := by
  rw [binary, binary?, text?_string, Option.bind_eq_bind, Option.bind_some, Base64.decodeEither?,
    Base64.decode?_encode, Option.some_or]

@[simp] theorem word?_word (value : UInt32) : (Json.word value).word? = some value := by
  rw [word, word?, nat?_nat, Option.bind_eq_bind, Option.bind_some, if_pos value.toNat_lt,
    UInt32.ofNat_toNat]

@[simp] theorem longWord?_longWord (value : UInt64) : (Json.longWord value).longWord? = some value := by
  rw [longWord, longWord?, nat?_nat, Option.bind_eq_bind, Option.bind_some, if_pos value.toNat_lt,
    UInt64.ofNat_toNat]

theorem bytes_render (json : Json) : Utf8.bytes json.render = json.bytes := by
  rw [render, Utf8.bytes, String.toList_ofList, bytes]

/-- What a record holds under a name that it has once. -/
theorem named_record {members : List (String × Json)} (hnodup : (members.map Prod.fst).Nodup)
    {member : String × Json} (hmem : member ∈ members) :
    named member.1 (members.map fun (name, value) => (some name, value)) = [member.2] := by
  induction members with
  | nil => cases hmem
  | cons first rest ih =>
      rw [List.map_cons, List.nodup_cons] at hnodup
      rcases List.mem_cons.1 hmem with rfl | hmem
      · have hrest : named member.1 (rest.map fun (name, value) => (some name, value)) = [] := by
          simp only [named, List.filter_map, List.map_map, List.map_eq_nil_iff,
            List.filter_eq_nil_iff]
          intro other hother hsame
          simp only [Function.comp_apply, Option.some.injEq, decide_eq_true_eq] at hsame
          exact hnodup.1 (hsame ▸ List.mem_map_of_mem hother)
        simp only [named, List.map_cons, decide_true, List.filter_cons_of_pos] at hrest ⊢
        rw [hrest]
      · have hother : first.1 ≠ member.1 := fun hsame =>
          hnodup.1 (hsame ▸ List.mem_map_of_mem hmem)
        have hkept := ih hnodup.2 hmem
        simp only [named, List.map_cons, Option.some.injEq, hother, decide_false,
          Bool.false_eq_true, not_false_eq_true, List.filter_cons_of_neg] at hkept ⊢
        exact hkept

/-- Members of a record whose names differ, each asked for by its name. -/
theorem mapM_atMostOnce_record {members asked : List (String × Json)}
    (hnodup : (members.map Prod.fst).Nodup) (hasked : ∀ member ∈ asked, member ∈ members) :
    (asked.map Prod.fst).mapM (fun name =>
        atMostOnce name (members.map fun (name, value) => (some name, value))) =
      some (asked.map fun member => some member.2) := by
  induction asked with
  | nil => rfl
  | cons member rest ih =>
      have honce : atMostOnce member.1 (members.map fun (name, value) => (some name, value)) =
          some (some member.2) := by
        rw [atMostOnce, named_record hnodup (hasked member List.mem_cons_self)]
      have hrest := ih fun other hother => hasked other (List.mem_cons_of_mem _ hother)
      rw [List.map_cons, List.mapM_cons, honce, hrest]
      rfl

/-- A record whose names differ is read in the order of its names. -/
theorem fields?_record {members : List (String × Json)} {names : List String}
    (hnames : members.map Prod.fst = names) (hnodup : names.Nodup) :
    (Json.record members).fields? names = some (members.map fun member => some member.2) := by
  subst hnames
  have hnamed : ((members.map fun (name, value) => (some name, value)).all
      fun member => member.1.isSome) = true := by
    simp
  rw [record, fields?, if_pos hnamed]
  exact mapM_atMostOnce_record hnodup fun _ hmem => hmem

end Json

namespace Base64

/-- A text is accepted as the bytes whose text it is, in one of the alphabets and with any number of
`=` behind it. So the text that is written for bytes is read as them, alone and in JSON; no text
stands for two byte strings, and the order of the alphabets does not matter; a text with digits of
either alphabet that the other lacks is refused; and what the web safe reader alone accepts, the
challenge of client data, is read the same. -/
theorem accepted_texts :
    (∀ (text : String) (bytes : Bytes), decodeEither? text = some bytes ↔
      Unpadded text (encode .websafe bytes) ∨ Unpadded text (encode .standard bytes)) ∧
    (∀ bytes : Bytes, decodeEither? (encode .websafe bytes) = some bytes ∧
      (Json.parse? (Utf8.bytes (Json.binary bytes).render)).bind Json.binary? = some bytes) ∧
    (∀ (text : String) (alphabet other : Alphabet) (bytes bytes' : Bytes),
      Unpadded text (encode alphabet bytes) → Unpadded text (encode other bytes') →
        bytes = bytes') ∧
    (∀ text : String,
      decodeEither? text = (decode? .standard text).or (decode? .websafe text)) ∧
    (∀ (text : String) (c d : Char), c ∈ text.toList → (c = '-' ∨ c = '_') →
      d ∈ text.toList → (d = '+' ∨ d = '/') → decodeEither? text = none) ∧
    ∀ (text : String) (bytes : Bytes), decode? .websafe text = some bytes →
      decodeEither? text = some bytes := by
  refine ⟨?_, ?_, ?_, decodeEither?_eq_or, ?_, ?_⟩
  · intro text bytes
    rw [decodeEither?_eq_some_iff, ← decode?_eq_some_iff, ← decode?_eq_some_iff]
    constructor
    · rintro ⟨alphabet, hread⟩
      cases alphabet with
      | standard => exact .inr hread
      | websafe => exact .inl hread
    · rintro (hread | hread)
      · exact ⟨.websafe, hread⟩
      · exact ⟨.standard, hread⟩
  · intro bytes
    refine ⟨decodeEither?_eq_some_iff.2 ⟨.websafe, decode?_encode .websafe bytes⟩, ?_⟩
    rw [Json.bytes_render, Json.parse?_bytes (Json.wellFormed_binary bytes), Option.bind_some,
      Json.binary?_binary]
  · intro text alphabet other bytes bytes' htext hother
    exact decode?_agree (decode?_eq_some_iff.2 htext) (decode?_eq_some_iff.2 hother)
  · intro text c d hc hwebsafe hd hstandard
    exact decodeEither?_of_mixed hc hwebsafe hd hstandard
  · intro text bytes hread
    exact decodeEither?_eq_some_iff.2 ⟨.websafe, hread⟩

/-- Bytes have four short texts where the alphabets differ. -/
example : ["--__AQ", "--__AQ==", "++//AQ==", "++//AQ"].map decodeEither? =
    List.replicate 4 (some [0xfb, 0xef, 0xff, 0x01]) := by
  decide +kernel

end Base64

end SecondFactor
