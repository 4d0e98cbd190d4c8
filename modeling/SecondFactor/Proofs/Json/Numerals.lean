import SecondFactor.Proofs.Json.Strings

/-!
A numeral is read back from the way it is written (`numeral?_writeNumeral`), when what follows
does not go on with it.
-/

namespace SecondFactor

/-- Decimal digits, one at least. -/
def IsDigits (digits : List Nat) : Prop :=
  digits ≠ [] ∧ ∀ digit ∈ digits, digit < 10

/-- Each part of a numeral has digits, and the whole part no needless zero in front. -/
structure Numeral.WellFormed (numeral : Numeral) : Prop where
  whole : IsDigits numeral.whole
  leading : numeral.whole.head? = some 0 → numeral.whole = [0]
  fraction : ∀ digits ∈ numeral.fraction, IsDigits digits
  exponent : ∀ signed ∈ numeral.exponent, IsDigits signed.2

namespace Json

/-- What follows a numeral does not open with a byte that belongs to one. -/
def EndsNumeral (rest : Bytes) : Prop :=
  ∀ byte ∈ rest.head?, isDigit byte = false ∧ byte ≠ 0x2E ∧ byte ≠ 0x65 ∧ byte ≠ 0x45

def EndsDigits (rest : Bytes) : Prop :=
  ∀ byte ∈ rest.head?, isDigit byte = false

theorem EndsNumeral.endsDigits {rest : Bytes} (h : EndsNumeral rest) : EndsDigits rest :=
  fun byte hbyte => (h byte hbyte).1

theorem endsDigits_cons {byte : UInt8} (rest : Bytes) (h : isDigit byte = false) :
    EndsDigits (byte :: rest) := by
  simpa [EndsDigits] using h

def digitByte (digit : Nat) : UInt8 :=
  UInt8.ofNat (48 + digit)

theorem isDigit_digitByte {digit : Nat} (h : digit < 10) : isDigit (digitByte digit) = true := by
  revert h digit
  decide

theorem toNat_digitByte {digit : Nat} (h : digit < 10) : (digitByte digit).toNat = 48 + digit :=
  Utf8.toNat_ofNat (by omega)

theorem encode_writeDigits {digits : List Nat} (h : ∀ digit ∈ digits, digit < 10) :
    Utf8.encode (writeDigits digits) = digits.map digitByte := by
  have hdigit : ∀ digit < 10, (Hex.digit digit).toNat = 48 + digit := by decide
  rw [writeDigits, encode_ascii, List.map_map]
  · exact List.map_congr_left fun digit hmem => congrArg UInt8.ofNat (hdigit digit (h digit hmem))
  · intro c hc
    obtain ⟨digit, hmem, rfl⟩ := List.mem_map.mp hc
    rw [hdigit digit (h digit hmem)]
    have := h digit hmem
    omega

section Digits

variable {digits : List Nat} {rest : Bytes}

theorem takeWhile_isDigit (hrest : EndsDigits rest) :
    rest.takeWhile isDigit = [] ∧ rest.dropWhile isDigit = rest := by
  rcases rest with _ | ⟨byte, rest⟩
  · exact ⟨rfl, rfl⟩
  · have hbyte : isDigit byte = false := hrest byte rfl
    simp [hbyte]

theorem digitValues_append (h : ∀ digit ∈ digits, digit < 10) (hrest : EndsDigits rest) :
    digitValues (digits.map digitByte ++ rest) = digits := by
  have hbytes : ∀ byte ∈ digits.map digitByte, isDigit byte = true := by
    intro byte hbyte
    obtain ⟨digit, hmem, rfl⟩ := List.mem_map.mp hbyte
    exact isDigit_digitByte (h digit hmem)
  rw [digitValues, List.takeWhile_append_of_pos hbytes, (takeWhile_isDigit hrest).1,
    List.append_nil, List.map_map]
  refine (List.map_congr_left fun digit hmem => ?_).trans (List.map_id digits)
  simp only [Function.comp_apply, toNat_digitByte (h digit hmem), Nat.add_sub_cancel_left, id]

/-- The digits up to a byte that is none. -/
theorem digits?_append (h : IsDigits digits) (hrest : EndsDigits rest) :
    digits? (Utf8.encode (writeDigits digits) ++ rest) = some (digits, rest) := by
  have hbytes : ∀ byte ∈ digits.map digitByte, isDigit byte = true := by
    intro byte hbyte
    obtain ⟨digit, hmem, rfl⟩ := List.mem_map.mp hbyte
    exact isDigit_digitByte (h.2 digit hmem)
  rw [encode_writeDigits h.2, digits?.eq_def, digitValues_append h.2 hrest]
  rcases digits with _ | ⟨digit, digits⟩
  · exact absurd rfl h.1
  · rw [List.dropWhile_append_of_pos hbytes, (takeWhile_isDigit hrest).2]

/-- Where digits open, no other part of a numeral does. -/
theorem exists_digit_append (h : IsDigits digits) (rest : Bytes) :
    ∃ byte tail, Utf8.encode (writeDigits digits) ++ rest = byte :: tail
      ∧ isDigit byte = true ∧ (byte = 0x30 → digits.head? = some 0) := by
  rcases digits with _ | ⟨digit, digits⟩
  · exact absurd rfl h.1
  · have hdigit := h.2 digit List.mem_cons_self
    refine ⟨digitByte digit, digits.map digitByte ++ rest, ?_, isDigit_digitByte hdigit, ?_⟩
    · rw [encode_writeDigits h.2]
      rfl
    · intro hbyte
      have hvalue := toNat_digitByte hdigit
      rw [hbyte, show (0x30 : UInt8).toNat = 48 from rfl] at hvalue
      simp only [List.head?_cons, Option.some.injEq]
      omega

end Digits

section Parts

variable {numeral : Numeral} {rest : Bytes}

theorem whole?_append (h : numeral.WellFormed) (hrest : EndsDigits rest) :
    whole? (Utf8.encode (writeDigits numeral.whole) ++ rest) = some (numeral.whole, rest) := by
  by_cases hzero : numeral.whole.head? = some 0
  · rw [h.leading hzero]
    rfl
  · obtain ⟨byte, tail, hbytes, -, hbyte⟩ := exists_digit_append h.whole rest
    rw [whole?.eq_2, digits?_append h.whole hrest]
    intro rest' hrest'
    rw [hbytes] at hrest'
    exact hzero (hbyte (List.cons.inj hrest').1)

/-- The exponent as it is written, or nothing. -/
def exponentBytes : Option (Bool × List Nat) → Bytes
  | none => []
  | some (negative, digits) =>
    0x65 :: ((if negative then [0x2D] else []) ++ Utf8.encode (writeDigits digits))

def fractionBytes : Option (List Nat) → Bytes
  | none => []
  | some digits => 0x2E :: Utf8.encode (writeDigits digits)

theorem exponentDigits?_append {digits : List Nat} (h : IsDigits digits) (hrest : EndsDigits rest)
    (negative : Bool) : exponentDigits? negative (Utf8.encode (writeDigits digits) ++ rest)
      = some (some (negative, digits), rest) := by
  rw [exponentDigits?, digits?_append h hrest]
  rfl

theorem exponent?_append {exponent : Option (Bool × List Nat)}
    (h : ∀ signed ∈ exponent, IsDigits signed.2) (hrest : EndsNumeral rest) :
    exponent? (exponentBytes exponent ++ rest) = some (exponent, rest) := by
  rcases exponent with _ | ⟨negative, digits⟩
  · rcases rest with _ | ⟨byte, rest⟩
    · rfl
    · obtain ⟨-, -, hlower, hupper⟩ := hrest byte rfl
      rw [exponentBytes, List.nil_append, exponent?.eq_def]
      exact if_neg (by simp [hlower, hupper])
  · have hdigits : IsDigits digits := h _ rfl
    have hread := exponentDigits?_append hdigits hrest.endsDigits
    rcases negative with _ | _
    · obtain ⟨byte, tail, hbytes, hbyte, -⟩ := exists_digit_append hdigits rest
      have hplus : byte ≠ 0x2B := by
        rintro rfl
        simp [isDigit] at hbyte
      have hminus : byte ≠ 0x2D := by
        rintro rfl
        simp [isDigit] at hbyte
      have hread := hread false
      change exponent? (0x65 :: (Utf8.encode (writeDigits digits) ++ rest)) = _
      rw [hbytes] at hread ⊢
      rw [exponent?.eq_3 _ _ (fun _ h => hplus (List.cons.inj h).1)
        (fun _ h => hminus (List.cons.inj h).1)]
      exact hread
    · exact hread true

theorem fraction?_append {fraction : Option (List Nat)}
    (h : ∀ digits ∈ fraction, IsDigits digits) (hrest : EndsDigits rest)
    (hpoint : rest.head? ≠ some 0x2E) :
    fraction? (fractionBytes fraction ++ rest) = some (fraction, rest) := by
  rcases fraction with _ | digits
  · exact fraction?.eq_2 rest fun tail htail => hpoint (by rw [htail]; rfl)
  · change fraction? (0x2E :: (Utf8.encode (writeDigits digits) ++ rest)) = _
    rw [fraction?, digits?_append (h digits rfl) hrest]
    rfl

theorem endsDigits_exponentBytes (exponent : Option (Bool × List Nat))
    (hrest : EndsNumeral rest) :
    EndsDigits (exponentBytes exponent ++ rest)
      ∧ (exponentBytes exponent ++ rest).head? ≠ some 0x2E := by
  rcases exponent with _ | ⟨negative, digits⟩
  · exact ⟨hrest.endsDigits, fun h => (hrest 0x2E h).2.1 rfl⟩
  · exact ⟨endsDigits_cons _ rfl, by simp [exponentBytes]⟩

theorem endsDigits_fractionBytes (fraction : Option (List Nat)) (hrest : EndsDigits rest) :
    EndsDigits (fractionBytes fraction ++ rest) := by
  rcases fraction with _ | digits
  · exact hrest
  · exact endsDigits_cons _ rfl

theorem unsigned?_append (h : numeral.WellFormed) (hrest : EndsNumeral rest) (negative : Bool) :
    unsigned? negative (Utf8.encode (writeDigits numeral.whole)
      ++ (fractionBytes numeral.fraction ++ (exponentBytes numeral.exponent ++ rest)))
        = some (⟨negative, numeral.whole, numeral.fraction, numeral.exponent⟩, rest) := by
  obtain ⟨hexponent, hpoint⟩ := endsDigits_exponentBytes numeral.exponent hrest
  rw [unsigned?, whole?_append h (endsDigits_fractionBytes _ hexponent)]
  simp only [Option.bind_eq_bind, Option.bind_some]
  rw [fraction?_append h.fraction hexponent hpoint]
  simp only [Option.bind_some]
  rw [exponent?_append h.exponent hrest]
  rfl

theorem encode_writeNumeral (numeral : Numeral) (rest : Bytes) :
    Utf8.encode (writeNumeral numeral) ++ rest
      = (if numeral.negative then [0x2D] else []) ++ (Utf8.encode (writeDigits numeral.whole)
        ++ (fractionBytes numeral.fraction ++ (exponentBytes numeral.exponent ++ rest))) := by
  obtain ⟨negative, whole, fraction, exponent⟩ := numeral
  rcases negative with _ | _ <;> rcases fraction with _ | digits <;>
    rcases exponent with _ | ⟨_ | _, digits'⟩ <;>
      simp [writeNumeral, fractionBytes, exponentBytes, Utf8.encode_append, Utf8.encode_cons,
        encodeChar_ascii]

theorem numeral?_writeNumeral (h : numeral.WellFormed) (hrest : EndsNumeral rest) :
    numeral? (Utf8.encode (writeNumeral numeral) ++ rest) = some (numeral, rest) := by
  have hread := unsigned?_append h hrest numeral.negative
  rw [encode_writeNumeral]
  rcases hnegative : numeral.negative with _ | _
  · rw [hnegative] at hread
    obtain ⟨byte, tail, hbytes, hbyte, -⟩ := exists_digit_append h.whole
      (fractionBytes numeral.fraction ++ (exponentBytes numeral.exponent ++ rest))
    have hminus : byte ≠ 0x2D := by
      rintro rfl
      simp [isDigit] at hbyte
    simp only [Bool.false_eq_true, if_false, List.nil_append]
    rw [hbytes] at hread ⊢
    rw [numeral?.eq_2 _ fun _ h => hminus (List.cons.inj h).1, hread, ← hnegative]
  · rw [hnegative] at hread
    simp only [if_true, List.singleton_append]
    rw [numeral?.eq_1, hread, ← hnegative]

end Parts

end Json

end SecondFactor
