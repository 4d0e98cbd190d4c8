import SecondFactor.Certificate

/-!
A certificate ends where it says, whatever comes after it, `exists_front_of_lengthAt?`. Its readers
take a front of the bytes they meet, and would take the same front before any other bytes.
-/

namespace SecondFactor.Certificate

variable {α β : Type}

/-- What a reader takes does not depend on what it leaves. -/
def TakesFront (read : Bytes → Option (α × Bytes)) : Prop :=
  ∀ ⦃bytes value rest⦄, read bytes = some (value, rest) →
    ∃ front, bytes = front ++ rest ∧ ∀ other, read (front ++ other) = some (value, other)

/-- One reader after another. -/
theorem TakesFront.bind {read : Bytes → Option (α × Bytes)} {next : α → Bytes → Option (β × Bytes)}
    (hread : TakesFront read) (hnext : ∀ value, TakesFront (next value)) :
    TakesFront fun bytes => read bytes >>= fun (value, rest) => next value rest := by
  intro bytes value rest hboth
  obtain ⟨⟨first, between⟩, hfirst, hsecond⟩ := Option.bind_eq_some_iff.1 hboth
  obtain ⟨front, rfl, hfront⟩ := hread hfirst
  obtain ⟨middle, rfl, hmiddle⟩ := hnext first hsecond
  refine ⟨front ++ middle, (List.append_assoc ..).symm, ?_⟩
  intro other
  simp only [List.append_assoc, hfront, Option.bind_eq_bind, Option.bind_some]
  exact hmiddle other

/-- What takes nothing may still refuse. -/
theorem takesFront_check (accept : Prop) [Decidable accept] (value : α) :
    TakesFront fun bytes => if accept then some (value, bytes) else none := by
  intro bytes given rest hread
  simp only at hread
  split at hread
  · rename_i haccept
    cases hread
    exact ⟨[], rfl, fun other => if_pos haccept⟩
  · cases hread

/-- As many bytes as were asked for are the same before any other bytes. -/
theorem take_front {n : Nat} {bytes : Bytes} (henough : ¬ bytes.length < n) (other : Bytes) :
    ¬ (bytes.take n ++ other).length < n ∧ (bytes.take n ++ other).take n = bytes.take n ∧
      (bytes.take n ++ other).drop n = other := by
  have hlength : (bytes.take n).length = n := by
    rw [List.length_take]
    omega
  refine ⟨?_, List.take_left' hlength, List.drop_left' hlength⟩
  rw [List.length_append]
  omega

theorem takesFront_longTag? (fuel value : Nat) : TakesFront (longTag? fuel value) := by
  induction fuel generalizing value with
  | zero =>
      intro bytes tag rest hread
      cases hread
  | succ fuel ih =>
      intro bytes tag rest hread
      cases bytes with
      | nil => cases hread
      | cons byte tail =>
          simp only [longTag?] at hread
          by_cases hlast : byte < 0x80
          · rw [if_pos hlast] at hread
            cases hread
            exact ⟨[byte], rfl, fun other => by simp [longTag?, hlast]⟩
          · rw [if_neg hlast] at hread
            obtain ⟨front, rfl, hfront⟩ := ih _ hread
            refine ⟨byte :: front, rfl, ?_⟩
            intro other
            rw [List.cons_append, longTag?]
            simp only [hlast, if_false, hfront]

theorem takesFront_tag? (first : UInt8) : TakesFront (tag? first) := by
  unfold tag?
  split
  · exact takesFront_longTag? 5 0
  · intro bytes tag rest hread
    cases hread
    exact ⟨[], rfl, fun other => rfl⟩

theorem takesFront_length? : TakesFront length? := by
  intro bytes length rest hread
  cases bytes with
  | nil => cases hread
  | cons first tail =>
      simp only [length?] at hread
      by_cases hshort : first < 0x80
      · rw [if_pos hshort] at hread
        cases hread
        exact ⟨[first], rfl, fun other => by simp [length?, hshort]⟩
      rw [if_neg hshort] at hread
      by_cases hindefinite : first = 0x80 ∨ first = 0xFF
      · rw [if_pos hindefinite] at hread
        cases hread
      rw [if_neg hindefinite] at hread
      by_cases hcut : tail.length < first.toNat - 128
      · rw [if_pos hcut] at hread
        cases hread
      rw [if_neg hcut] at hread
      by_cases hword : natOfBytes (tail.take (first.toNat - 128)) < 18446744073709551616
      · rw [if_pos hword] at hread
        obtain ⟨rfl, rfl⟩ := Prod.mk.inj (Option.some.inj hread)
        refine ⟨first :: tail.take (first.toNat - 128), by simp, ?_⟩
        intro other
        obtain ⟨henough, htake, hdrop⟩ := take_front hcut other
        simp only [List.cons_append, length?, hshort, hindefinite, henough, htake, hdrop, hword,
          if_true, if_false]
      · rw [if_neg hword] at hread
        cases hread

theorem takesFront_opening? : TakesFront opening? := by
  intro bytes opening rest hread
  cases bytes with
  | nil => cases hread
  | cons first tail =>
      obtain ⟨front, rfl, hfront⟩ := (takesFront_tag? first).bind
        (fun tag => takesFront_length?.bind fun length => takesFront_check True
          (Opening.mk (TagClass.ofByte first) (first.toNat / 32 % 2 = 1) tag length))
        hread
      exact ⟨first :: front, rfl, hfront⟩

theorem takesFront_contents (opening : Opening) :
    TakesFront fun bytes =>
      if bytes.length < opening.length then none
      else some (Element.mk opening.tagClass opening.constructed opening.tag
        (bytes.take opening.length), bytes.drop opening.length) := by
  intro bytes element rest hread
  simp only at hread
  split at hread
  · cases hread
  · rename_i henough
    cases hread
    refine ⟨bytes.take opening.length, (List.take_append_drop ..).symm, ?_⟩
    intro other
    obtain ⟨hall, htake, hdrop⟩ := take_front henough other
    simp only [hall, htake, hdrop, if_false]

theorem takesFront_element? : TakesFront element? :=
  takesFront_opening?.bind takesFront_contents

theorem takesFront_tagged? (tag : Nat) : TakesFront (tagged? tag) :=
  takesFront_element?.bind fun element => takesFront_check (element.tag = tag) element

theorem takesFront_ofContents? (outer : Element) :
    TakesFront fun rest => do return (← ofContents? outer.contents, rest) := by
  intro bytes certificate rest hread
  obtain ⟨found, hcontents, hfound⟩ := Option.bind_eq_some_iff.1 hread
  cases hfound
  refine ⟨[], rfl, ?_⟩
  intro other
  simp only [hcontents, List.nil_append]
  rfl

/-- Nothing after the outer sequence is looked at. -/
theorem takesFront_parse? : TakesFront parse? :=
  (takesFront_tagged? Tag.sequence).bind takesFront_ofContents?

/-- The length of a certificate is that of its bytes, and does not depend on what follows them. -/
theorem exists_front_of_lengthAt? {bytes : Bytes} {length : Nat}
    (hlength : lengthAt? bytes = some length) :
    ∃ front rest, bytes = front ++ rest ∧ front.length = length ∧
      ∀ other, lengthAt? (front ++ other) = some front.length := by
  obtain ⟨⟨certificate, rest⟩, hparse, rfl⟩ := Option.map_eq_some_iff.1 hlength
  obtain ⟨front, rfl, hfront⟩ := takesFront_parse? hparse
  refine ⟨front, rest, rfl, by simp, ?_⟩
  intro other
  simp [lengthAt?, hfront]

/-- Bytes that are a certificate of their own are the same one before any others. -/
theorem exists_parse?_append {certificate : Bytes}
    (hwhole : lengthAt? certificate = some certificate.length) :
    ∃ parsed, ∀ rest, parse? (certificate ++ rest) = some (parsed, rest) := by
  obtain ⟨⟨parsed, rest⟩, hparse, hlength⟩ := Option.map_eq_some_iff.1 hwhole
  obtain ⟨front, rfl, hfront⟩ := takesFront_parse? hparse
  obtain rfl : rest = [] := by
    rw [← List.length_eq_zero_iff]
    simp only [List.length_append] at hlength
    omega
  rw [List.append_nil]
  exact ⟨parsed, hfront⟩

/-- Bytes are a certificate of their own just where they are the one in front of others. -/
theorem lengthAt?_append_iff {certificate : Bytes} (rest : Bytes) :
    lengthAt? (certificate ++ rest) = some certificate.length ↔
      lengthAt? certificate = some certificate.length := by
  constructor
  · intro hlength
    obtain ⟨front, left, hsplit, hfrontLength, hfront⟩ := exists_front_of_lengthAt? hlength
    obtain ⟨rfl, _⟩ := List.append_inj hsplit hfrontLength.symm
    simpa using hfront []
  · intro hwhole
    obtain ⟨parsed, hparse⟩ := exists_parse?_append hwhole
    simp [lengthAt?, hparse rest]

end SecondFactor.Certificate
