import Mathlib.Data.List.Basic
import SecondFactor.Proofs.Positional
import SecondFactor.Raw.Command

/-!
The bodies of commands. Data stands behind its length in a short or in a long form, and the length
of the answer that is expected may follow it; or there is no data, and nothing but such an expected
length. Every body that is accepted is of one of these forms and gives the data it carries,
`bodies_read`.
-/

namespace SecondFactor.Raw

theorem natOfBytes_pair (high low : UInt8) : natOfBytes [high, low] = natOfPair high low := by
  simp [natOfBytes, natOfPair]

theorem bytesOfNat_natOfPair (high low : UInt8) :
    bytesOfNat 2 (natOfPair high low) = [high, low] := by
  rw [← natOfBytes_pair]
  exact bytesOfNat_natOfBytes [high, low]

/-- Two bytes are enough for a length below 65536. -/
theorem exists_lengthBytes {length : Nat} (hlength : length < 65536) :
    ∃ high low, bytesOfNat 2 length = [high, low] ∧ natOfPair high low = length := by
  refine ⟨_, _, rfl, ?_⟩
  rw [← natOfBytes_pair]
  change natOfBytes (bytesOfNat 2 length) = length
  rw [natOfBytes_bytesOfNat]
  exact Nat.mod_eq_of_lt hlength

/-! Forms. -/

/-- Data behind a length of one byte, and an expected length or nothing. -/
def shortForm (data expected : Bytes) : Bytes :=
  UInt8.ofNat data.length :: (data ++ expected)

/-- Data behind a zero and a length of two bytes, and an expected length or nothing. -/
def longForm (data expected : Bytes) : Bytes :=
  0x00 :: (bytesOfNat 2 data.length ++ (data ++ expected))

/-- The data of a body that has a length for it, be it zero. -/
inductive Carries (data : Bytes) : Bytes → Prop
  | short : data.length ≤ 255 → Carries data (shortForm data [])
  | shortExpecting (length : UInt8) : data.length ≤ 255 → Carries data (shortForm data [length])
  | long : data.length ≤ 65535 → Carries data (longForm data [])
  | longExpecting (high low : UInt8) :
      data.length ≤ 65535 → Carries data (longForm data [high, low])

/-- A body with no length for data: an expected length at most, in either form. -/
inductive ExpectsOnly : Bytes → Prop
  | nothing : ExpectsOnly []
  | short (length : UInt8) : ExpectsOnly [length]
  | long (high low : UInt8) : ExpectsOnly [0x00, high, low]

/-! Cutting. -/

theorem cutData_append {tail : Nat} {data expected : Bytes}
    (hexpected : expected = [] ∨ expected.length = tail) :
    cutData data.length tail (data ++ expected) = .ok data := by
  have hleft : (data ++ expected).length - data.length = expected.length := by
    rw [List.length_append]
    omega
  have hends : expected.length = 0 ∨ expected.length = tail := by
    rwa [List.length_eq_zero_iff]
  rw [cutData, if_neg (by rw [List.length_append]; omega)]
  simp only [hleft]
  rw [if_pos hends, List.take_left]

theorem cutData_eq_ok_iff {length tail : Nat} {bytes data : Bytes} :
    cutData length tail bytes = .ok data ↔ data.length = length ∧
      ∃ expected, bytes = data ++ expected ∧ (expected = [] ∨ expected.length = tail) := by
  constructor
  · intro hcut
    rw [cutData] at hcut
    split at hcut
    · cases hcut
    · rename_i henough
      simp only at hcut
      split at hcut
      · rename_i hends
        cases hcut
        refine ⟨List.length_take_of_le (by omega), bytes.drop length,
          (List.take_append_drop length bytes).symm, ?_⟩
        rwa [← List.length_drop, List.length_eq_zero_iff] at hends
      · cases hcut
  · rintro ⟨rfl, expected, rfl, hexpected⟩
    exact cutData_append hexpected

theorem eq_wrongLength_of_cutData {length tail : Nat} {bytes : Bytes} {status : StatusWord}
    (hcut : cutData length tail bytes = .error status) : status = .wrongLength := by
  rw [cutData] at hcut
  split at hcut
  · cases hcut
    rfl
  · simp only at hcut
    split at hcut
    · cases hcut
    · cases hcut
      rfl

/-! Bodies. -/

theorem bodyData_short {first : UInt8} {rest : Bytes} (hfirst : first ≠ 0x00) (hrest : rest ≠ []) :
    bodyData (first :: rest) = cutData first.toNat 1 rest := by
  obtain ⟨second, rest, rfl⟩ := List.exists_cons_of_ne_nil hrest
  exact if_neg hfirst

theorem bodyData_long {high low : UInt8} {rest : Bytes} (hrest : rest ≠ []) :
    bodyData (0x00 :: high :: low :: rest) = cutData (natOfPair high low) 2 rest := by
  obtain ⟨third, rest, rfl⟩ := List.exists_cons_of_ne_nil hrest
  rfl

theorem bodyData_shortForm {data expected : Bytes} (hlength : data.length ≤ 255)
    (hexpected : expected = [] ∨ expected.length = 1) :
    bodyData (shortForm data expected) = .ok data := by
  by_cases hdata : data = []
  · subst hdata
    rcases hexpected with rfl | hone
    · rfl
    · obtain ⟨length, rfl⟩ := List.length_eq_one_iff.1 hone
      exact @cutData_append 1 [] [length] (.inr rfl)
  · have hvalue : (UInt8.ofNat data.length).toNat = data.length :=
      UInt8.toNat_ofNat_of_lt' (Nat.lt_succ_of_le hlength)
    have hfirst : UInt8.ofNat data.length ≠ 0x00 := by
      intro hzero
      rw [hzero] at hvalue
      exact (List.length_pos_iff.2 hdata).ne hvalue
    rw [shortForm, bodyData_short hfirst (List.append_ne_nil_of_left_ne_nil hdata expected),
      hvalue]
    exact cutData_append hexpected

theorem bodyData_longForm {data expected : Bytes} (hlength : data.length ≤ 65535)
    (hexpected : expected = [] ∨ expected.length = 2) :
    bodyData (longForm data expected) = .ok data := by
  obtain ⟨high, low, hbytes, hvalue⟩ := exists_lengthBytes (Nat.lt_succ_of_le hlength)
  rw [longForm, hbytes]
  by_cases hrest : data ++ expected = []
  · obtain ⟨rfl, rfl⟩ := List.append_eq_nil_iff.1 hrest
    rfl
  · change bodyData (0x00 :: high :: low :: (data ++ expected)) = _
    rw [bodyData_long hrest, hvalue]
    exact cutData_append hexpected

theorem Carries.bodyData_eq_ok {data body : Bytes} (hcarries : Carries data body) :
    bodyData body = .ok data := by
  cases hcarries with
  | short hlength => exact bodyData_shortForm hlength (.inl rfl)
  | shortExpecting length hlength => exact bodyData_shortForm hlength (.inr rfl)
  | long hlength => exact bodyData_longForm hlength (.inl rfl)
  | longExpecting high low hlength => exact bodyData_longForm hlength (.inr rfl)

theorem ExpectsOnly.bodyData_eq_ok {body : Bytes} (hexpects : ExpectsOnly body) :
    bodyData body = .ok [] := by
  cases hexpects <;> rfl

/-- Data that is cut off behind a length of one byte is in the short form. -/
theorem carries_of_cutData_short {first : UInt8} {rest data : Bytes}
    (hcut : cutData first.toNat 1 rest = .ok data) : Carries data (first :: rest) := by
  obtain ⟨hlength, expected, rfl, hexpected⟩ := cutData_eq_ok_iff.1 hcut
  have hfirst : UInt8.ofNat data.length = first := by rw [hlength, UInt8.ofNat_toNat]
  have hfits : data.length ≤ 255 := by
    have := first.toNat_lt
    omega
  rw [← hfirst]
  rcases hexpected with rfl | hone
  · exact .short hfits
  · obtain ⟨length, rfl⟩ := List.length_eq_one_iff.1 hone
    exact .shortExpecting length hfits

/-- Data that is cut off behind a length of two bytes is in the long form. -/
theorem carries_of_cutData_long {high low : UInt8} {rest data : Bytes}
    (hcut : cutData (natOfPair high low) 2 rest = .ok data) :
    Carries data (0x00 :: high :: low :: rest) := by
  obtain ⟨hlength, expected, rfl, hexpected⟩ := cutData_eq_ok_iff.1 hcut
  have hform : 0x00 :: high :: low :: (data ++ expected) = longForm data expected := by
    rw [longForm, hlength, bytesOfNat_natOfPair]
    rfl
  have hfits : data.length ≤ 65535 := by
    have := natOfPair_lt high low
    omega
  rw [hform]
  rcases hexpected with rfl | htwo
  · exact .long hfits
  · obtain ⟨high, low, rfl⟩ := List.length_eq_two.1 htwo
    exact .longExpecting high low hfits

theorem bodyData_eq_ok_iff {body data : Bytes} :
    bodyData body = .ok data ↔ Carries data body ∨ data = [] ∧ ExpectsOnly body := by
  constructor
  · intro hread
    unfold bodyData at hread
    split at hread
    · cases hread
      exact .inr ⟨rfl, .nothing⟩
    · cases hread
      exact .inr ⟨rfl, .short _⟩
    · rename_i first second rest
      split at hread
      · rename_i hfirst
        subst hfirst
        split at hread
        -- A zero with one byte behind it is a short length, for an expected length follows it.
        · exact .inl (carries_of_cutData_short hread)
        · cases hread
          exact .inr ⟨rfl, .long _ _⟩
        · exact .inl (carries_of_cutData_long hread)
      · exact .inl (carries_of_cutData_short hread)
  · rintro (hcarries | ⟨rfl, hexpects⟩)
    · exact hcarries.bodyData_eq_ok
    · exact hexpects.bodyData_eq_ok

theorem eq_wrongLength_of_bodyData {body : Bytes} {status : StatusWord}
    (hread : bodyData body = .error status) : status = .wrongLength := by
  unfold bodyData at hread
  split at hread
  · cases hread
  · cases hread
  · split at hread
    · split at hread
      · exact eq_wrongLength_of_cutData hread
      · cases hread
      · exact eq_wrongLength_of_cutData hread
    · exact eq_wrongLength_of_cutData hread

/-- Data that is there is read from the bodies that carry it, in the short or in the long form and
with an expected length or none, and from no others; so both forms of the same data are read alike.
No data is read where its length is zero or not given, and every other body has a wrong length. -/
theorem bodies_read :
    (∀ body data : Bytes, data ≠ [] → (bodyData body = .ok data ↔ Carries data body)) ∧
    (∀ data expected expected' : Bytes, data.length ≤ 255 →
      (expected = [] ∨ expected.length = 1) → (expected' = [] ∨ expected'.length = 2) →
        bodyData (shortForm data expected) = bodyData (longForm data expected')) ∧
    (∀ body : Bytes, bodyData body = .ok [] ↔ Carries [] body ∨ ExpectsOnly body) ∧
    ∀ (body : Bytes) (status : StatusWord), bodyData body = .error status ↔
      status = .wrongLength ∧ ¬ ExpectsOnly body ∧ ∀ data, ¬ Carries data body := by
  refine ⟨?_, ?_, ?_, ?_⟩
  · intro body data hdata
    rw [bodyData_eq_ok_iff]
    exact or_iff_left fun hnone => hdata hnone.1
  · intro data expected expected' hlength hshort hlong
    rw [bodyData_shortForm hlength hshort, bodyData_longForm (by omega) hlong]
  · intro body
    rw [bodyData_eq_ok_iff, and_iff_right rfl]
  · intro body status
    constructor
    · intro hread
      refine ⟨eq_wrongLength_of_bodyData hread, fun hexpects => ?_, fun data hcarries => ?_⟩
      · rw [hexpects.bodyData_eq_ok] at hread
        cases hread
      · rw [hcarries.bodyData_eq_ok] at hread
        cases hread
    · rintro ⟨rfl, hexpects, hcarries⟩
      cases hread : bodyData body with
      | error status => rw [eq_wrongLength_of_bodyData hread]
      | ok data =>
          rcases bodyData_eq_ok_iff.1 hread with hdata | ⟨_, hnone⟩
          · exact absurd hdata (hcarries data)
          · exact absurd hnone hexpects

/-- Behind a long form, an expected length has two bytes as well. -/
example : bodyData [0x00, 0x00, 0x01, 0x2a, 0x00] = .error .wrongLength ∧
    bodyData [0x00, 0x00, 0x01, 0x2a, 0x00, 0x00] = .ok [0x2a] := by
  decide

end SecondFactor.Raw
