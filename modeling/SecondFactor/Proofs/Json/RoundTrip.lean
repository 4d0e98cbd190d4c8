import SecondFactor.Proofs.Json.Numerals

/-!
What is written is read back (`parse?_bytes`): every value whose numerals are well formed is the
one its bytes are, without exception for names that repeat and strings that no text stands for.
-/

namespace SecondFactor.Json

mutual

/-- Every numeral in a value has its digits as a reader takes them. -/
def WellFormed : Json → Prop
  | .null => True
  | .bool _ => True
  | .number numeral => numeral.WellFormed
  | .text _ => True
  | .array items => ItemsWellFormed items
  | .object members => MembersWellFormed members

def ItemsWellFormed : List Json → Prop
  | [] => True
  | item :: rest => item.WellFormed ∧ ItemsWellFormed rest

def MembersWellFormed : List (Option String × Json) → Prop
  | [] => True
  | (_, value) :: rest => value.WellFormed ∧ MembersWellFormed rest

end

theorem skipBlanks_cons {byte : UInt8} (h : isBlank byte = false) (rest : Bytes) :
    skipBlanks (byte :: rest) = byte :: rest := by
  simp [skipBlanks, h]

theorem endsNumeral_cons {byte : UInt8} (rest : Bytes) (h : isDigit byte = false)
    (hpoint : byte ≠ 0x2E) (hlower : byte ≠ 0x65) (hupper : byte ≠ 0x45) :
    EndsNumeral (byte :: rest) := by
  intro other hother
  cases Option.some.inj hother
  exact ⟨h, hpoint, hlower, hupper⟩

/-- A byte that no numeral opens with. -/
def OpensNoNumeral (byte : UInt8) : Prop :=
  byte ≠ 0x2D ∧ isDigit byte = false

/-- A numeral opens with a sign or a digit. -/
theorem exists_numeral_append {numeral : Numeral} (h : numeral.WellFormed) (rest : Bytes) :
    ∃ byte tail, Utf8.encode (writeNumeral numeral) ++ rest = byte :: tail
      ∧ ∀ other, OpensNoNumeral other → byte ≠ other := by
  rw [encode_writeNumeral]
  rcases numeral.negative with _ | _
  · obtain ⟨byte, tail, hbytes, hbyte, -⟩ := exists_digit_append h.whole
      (fractionBytes numeral.fraction ++ (exponentBytes numeral.exponent ++ rest))
    refine ⟨byte, tail, hbytes, ?_⟩
    rintro other ⟨-, hother⟩ rfl
    simp [hbyte] at hother
  · exact ⟨0x2D, _, rfl, fun other hother => hother.1.symm⟩

/-- A written value opens with a byte that is neither a blank nor a closing bracket. -/
theorem exists_write_append {json : Json} (h : json.WellFormed) (rest : Bytes) :
    ∃ byte tail, Utf8.encode json.write ++ rest = byte :: tail
      ∧ isBlank byte = false ∧ byte ≠ 0x5D := by
  cases json with
  | null => exact ⟨0x6E, _, rfl, rfl, by decide⟩
  | bool value => cases value <;> exact ⟨_, _, rfl, rfl, by decide⟩
  | text value => cases value <;> exact ⟨0x22, _, rfl, rfl, by decide⟩
  | array items => exact ⟨0x5B, _, by rw [write]; rfl, rfl, by decide⟩
  | object members => exact ⟨0x7B, _, by rw [write]; rfl, rfl, by decide⟩
  | number numeral =>
      rw [WellFormed] at h
      obtain ⟨byte, tail, hbytes, hbyte⟩ := exists_numeral_append h rest
      refine ⟨byte, tail, by rw [write, hbytes], ?_, hbyte 0x5D ⟨by decide, rfl⟩⟩
      simp [isBlank, hbyte 0x20 ⟨by decide, rfl⟩, hbyte 0x09 ⟨by decide, rfl⟩,
        hbyte 0x0A ⟨by decide, rfl⟩, hbyte 0x0D ⟨by decide, rfl⟩]

/-! One equation of the reader for each kind of value. -/

section Reader

variable {fuel : Nat} {rest : Bytes}

theorem value?_numeral {numeral : Numeral} (h : numeral.WellFormed) (hrest : EndsNumeral rest) :
    value? (fuel + 1) (Utf8.encode (writeNumeral numeral) ++ rest)
      = some (.number numeral, rest) := by
  have hread := numeral?_writeNumeral h hrest
  have hjson : (Json.number numeral).WellFormed := by rwa [WellFormed]
  obtain ⟨byte, tail, hbytes, hbyte⟩ := exists_numeral_append h rest
  obtain ⟨byte', tail', hbytes', hblank, -⟩ := exists_write_append hjson rest
  rw [write, hbytes] at hbytes'
  cases (List.cons.inj hbytes').1
  rw [hbytes] at hread ⊢
  rw [value?.eq_2, skipBlanks_cons hblank]
  split
  · next heq => exact absurd (List.cons.inj heq).1 (hbyte 0x6E ⟨by decide, rfl⟩)
  · next heq => exact absurd (List.cons.inj heq).1 (hbyte 0x74 ⟨by decide, rfl⟩)
  · next heq => exact absurd (List.cons.inj heq).1 (hbyte 0x66 ⟨by decide, rfl⟩)
  · next heq => exact absurd (List.cons.inj heq).1 (hbyte 0x22 ⟨by decide, rfl⟩)
  · next heq => exact absurd (List.cons.inj heq).1 (hbyte 0x5B ⟨by decide, rfl⟩)
  · next heq => exact absurd (List.cons.inj heq).1 (hbyte 0x7B ⟨by decide, rfl⟩)
  · rw [hread]
    rfl

theorem value?_text (value : Option String) :
    value? (fuel + 1) (Utf8.encode (writeText value) ++ rest) = some (.text value, rest) := by
  have hread := quoted?_writeText value rest
  obtain ⟨tail, htail⟩ : ∃ tail, Utf8.encode (writeText value) ++ rest = 0x22 :: tail := by
    cases value <;> exact ⟨_, rfl⟩
  rw [htail] at hread ⊢
  rw [quoted?] at hread
  rw [value?.eq_2, skipBlanks_cons rfl]
  change (string? tail).bind _ = _
  rw [hread]
  rfl

theorem value?_bracket (tail : Bytes) :
    value? (fuel + 1) (0x5B :: tail) = match skipBlanks tail with
      | 0x5D :: rest => some (.array [], rest)
      | rest => (items? fuel rest).bind fun given => some (.array given.1, given.2) := by
  rw [value?.eq_2, skipBlanks_cons rfl]
  rfl

theorem value?_brace (tail : Bytes) :
    value? (fuel + 1) (0x7B :: tail) = match skipBlanks tail with
      | 0x7D :: rest => some (.object [], rest)
      | rest => (members? fuel rest).bind fun given => some (.object given.1, given.2) := by
  rw [value?.eq_2, skipBlanks_cons rfl]
  rfl

theorem value?_array {byte : UInt8} {tail : Bytes} (hblank : isBlank byte = false)
    (hclose : byte ≠ 0x5D) :
    value? (fuel + 1) (0x5B :: byte :: tail)
      = (items? fuel (byte :: tail)).map (Prod.map .array id) := by
  rw [value?_bracket, skipBlanks_cons hblank]
  split
  · next heq => exact absurd (List.cons.inj heq).1 hclose
  · cases items? fuel (byte :: tail) <;> rfl

theorem value?_object {byte : UInt8} {tail : Bytes} (hblank : isBlank byte = false)
    (hclose : byte ≠ 0x7D) :
    value? (fuel + 1) (0x7B :: byte :: tail)
      = (members? fuel (byte :: tail)).map (Prod.map .object id) := by
  rw [value?_brace, skipBlanks_cons hblank]
  split
  · next heq => exact absurd (List.cons.inj heq).1 hclose
  · cases members? fuel (byte :: tail) <;> rfl

theorem items?_last {bytes : Bytes} {item : Json}
    (h : value? fuel bytes = some (item, 0x5D :: rest)) :
    items? (fuel + 1) bytes = some ([item], rest) := by
  rw [items?.eq_2, h]
  rfl

theorem items?_more {bytes tail : Bytes} {item : Json} {items : List Json}
    (h : value? fuel bytes = some (item, 0x2C :: tail))
    (hitems : items? fuel tail = some (items, rest)) :
    items? (fuel + 1) bytes = some (item :: items, rest) := by
  rw [items?.eq_2, h]
  change (items? fuel tail).bind _ = _
  rw [hitems]
  rfl

/-- A member up to what follows its value. -/
theorem members?_eq {name : Option String} {value : Json} {tail : Bytes} (bytes : Bytes)
    (hvalue : value? fuel bytes = some (value, tail)) :
    members? (fuel + 1) (Utf8.encode (writeText name) ++ 0x3A :: bytes)
      = match skipBlanks tail with
        | 0x7D :: rest => some ([(name, value)], rest)
        | 0x2C :: rest => do
          let (members, rest) ← members? fuel rest
          return ((name, value) :: members, rest)
        | _ => none := by
  have hname := quoted?_writeText name (0x3A :: bytes)
  obtain ⟨more, hmore⟩ : ∃ more,
      Utf8.encode (writeText name) ++ 0x3A :: bytes = 0x22 :: more := by
    cases name <;> exact ⟨_, rfl⟩
  rw [hmore] at hname ⊢
  rw [members?.eq_2, skipBlanks_cons rfl, hname]
  change (value? fuel bytes).bind _ = _
  rw [hvalue]
  rfl

end Reader

/-! The bytes of arrays and objects, item by item. -/

section Bytes

variable (item : Json) (items : List Json) (name : Option String)
  (members : List (Option String × Json)) (rest : Bytes)

theorem encode_item_last :
    Utf8.encode (writeItems [item]) ++ rest = Utf8.encode item.write ++ 0x5D :: rest := by
  simp [writeItems, Utf8.encode_append, Utf8.encode_cons, encodeChar_ascii]

theorem encode_item_more (h : items ≠ []) :
    Utf8.encode (writeItems (item :: items)) ++ rest
      = Utf8.encode item.write ++ 0x2C :: (Utf8.encode (writeItems items) ++ rest) := by
  simp [writeItems.eq_3 item items h, Utf8.encode_append, Utf8.encode_cons, encodeChar_ascii]

theorem encode_member_last :
    Utf8.encode (writeMembers [(name, item)]) ++ rest
      = Utf8.encode (writeText name) ++ 0x3A :: (Utf8.encode item.write ++ 0x7D :: rest) := by
  simp [writeMembers, Utf8.encode_append, Utf8.encode_cons, encodeChar_ascii]

theorem encode_member_more (h : members ≠ []) :
    Utf8.encode (writeMembers ((name, item) :: members)) ++ rest
      = Utf8.encode (writeText name) ++ 0x3A :: (Utf8.encode item.write
        ++ 0x2C :: (Utf8.encode (writeMembers members) ++ rest)) := by
  simp [writeMembers.eq_3 name item members h, Utf8.encode_append, Utf8.encode_cons,
    encodeChar_ascii]

theorem encode_array :
    Utf8.encode (write (.array items)) ++ rest
      = 0x5B :: (Utf8.encode (writeItems items) ++ rest) := by
  simp [write, Utf8.encode_cons, encodeChar_ascii]

theorem encode_object :
    Utf8.encode (write (.object members)) ++ rest
      = 0x7B :: (Utf8.encode (writeMembers members) ++ rest) := by
  simp [write, Utf8.encode_cons, encodeChar_ascii]

end Bytes

/-- The items of an array open as the first of them does. -/
theorem exists_writeItems_append {item : Json} (h : item.WellFormed) (items : List Json)
    (rest : Bytes) : ∃ byte tail, Utf8.encode (writeItems (item :: items)) ++ rest = byte :: tail
      ∧ isBlank byte = false ∧ byte ≠ 0x5D := by
  by_cases hitems : items = []
  · rw [hitems, encode_item_last]
    exact exists_write_append h _
  · rw [encode_item_more item items rest hitems]
    exact exists_write_append h _

theorem exists_writeMembers_append (member : Option String × Json)
    (members : List (Option String × Json)) (rest : Bytes) :
    ∃ tail, Utf8.encode (writeMembers (member :: members)) ++ rest = 0x22 :: tail := by
  obtain ⟨name, value⟩ := member
  by_cases hmembers : members = []
  · rw [hmembers, encode_member_last]
    cases name <;> exact ⟨_, rfl⟩
  · rw [encode_member_more value name members rest hmembers]
    cases name <;> exact ⟨_, rfl⟩

/-! The reader takes fewer steps than there are bytes, so it is the value that ends it. -/

mutual

theorem value?_write : ∀ (json : Json), json.WellFormed → ∀ {fuel : Nat} {rest : Bytes},
    (Utf8.encode json.write).length < fuel → EndsNumeral rest →
      value? fuel (Utf8.encode json.write ++ rest) = some (json, rest)
  | .null, _, fuel + 1, rest, _, _ => rfl
  | .bool true, _, fuel + 1, rest, _, _ => rfl
  | .bool false, _, fuel + 1, rest, _, _ => rfl
  | .number numeral, h, fuel + 1, rest, _, hrest => by
      rw [WellFormed] at h
      rw [write]
      exact value?_numeral h hrest
  | .text value, _, fuel + 1, rest, _, _ => by
      rw [write]
      exact value?_text value
  | .array [], _, fuel + 1, rest, _, _ => rfl
  | .array (item :: items), h, fuel + 1, rest, hfuel, _ => by
      rw [WellFormed] at h
      have hlength := congrArg List.length (encode_array (item :: items) [])
      simp only [List.append_nil, List.length_cons] at hlength
      have hread : items? fuel (Utf8.encode (writeItems (item :: items)) ++ rest) =
          some (item :: items, rest) :=
        items?_write (item :: items) (List.cons_ne_nil _ _) h (by omega)
      rw [ItemsWellFormed] at h
      obtain ⟨byte, tail, hbytes, hblank, hclose⟩ := exists_writeItems_append h.1 items rest
      rw [encode_array, hbytes, value?_array hblank hclose, ← hbytes, hread]
      rfl
  | .object [], _, fuel + 1, rest, _, _ => rfl
  | .object (member :: members), h, fuel + 1, rest, hfuel, _ => by
      rw [WellFormed] at h
      have hlength := congrArg List.length (encode_object (member :: members) [])
      simp only [List.append_nil, List.length_cons] at hlength
      have hread : members? fuel (Utf8.encode (writeMembers (member :: members)) ++ rest) =
          some (member :: members, rest) :=
        members?_write (member :: members) (List.cons_ne_nil _ _) h (by omega)
      obtain ⟨tail, hbytes⟩ := exists_writeMembers_append member members rest
      rw [encode_object, hbytes, value?_object rfl (by decide), ← hbytes, hread]
      rfl

theorem items?_write : ∀ (items : List Json), items ≠ [] → ItemsWellFormed items →
    ∀ {fuel : Nat} {rest : Bytes}, (Utf8.encode (writeItems items)).length < fuel →
      items? fuel (Utf8.encode (writeItems items) ++ rest) = some (items, rest)
  | [], hne, _, _, _, _ => absurd rfl hne
  | [item], _, h, fuel + 1, rest, hfuel => by
      rw [ItemsWellFormed] at h
      have hlength := congrArg List.length (encode_item_last item [])
      simp only [List.append_nil, List.length_cons, List.length_append] at hlength
      rw [encode_item_last]
      exact items?_last (value?_write item h.1 (by omega)
        (endsNumeral_cons rest rfl (by decide) (by decide) (by decide)))
  | item :: next :: items, _, h, fuel + 1, rest, hfuel => by
      rw [ItemsWellFormed] at h
      have hne : next :: items ≠ [] := List.cons_ne_nil _ _
      have hlength := congrArg List.length (encode_item_more item (next :: items) [] hne)
      simp only [List.append_nil, List.length_cons, List.length_append] at hlength
      rw [encode_item_more item (next :: items) rest hne]
      exact items?_more (value?_write item h.1 (by omega)
        (endsNumeral_cons _ rfl (by decide) (by decide) (by decide)))
        (items?_write (next :: items) hne h.2 (by omega))

theorem members?_write : ∀ (members : List (Option String × Json)), members ≠ [] →
    MembersWellFormed members →
    ∀ {fuel : Nat} {rest : Bytes}, (Utf8.encode (writeMembers members)).length < fuel →
      members? fuel (Utf8.encode (writeMembers members) ++ rest) = some (members, rest)
  | [], hne, _, _, _, _ => absurd rfl hne
  | [(name, value)], _, h, fuel + 1, rest, hfuel => by
      rw [MembersWellFormed] at h
      have hlength := congrArg List.length (encode_member_last value name [])
      simp only [List.append_nil, List.length_cons, List.length_append] at hlength
      rw [encode_member_last, members?_eq _ (value?_write value h.1 (by omega)
        (endsNumeral_cons rest rfl (by decide) (by decide) (by decide)))]
      rfl
  | (name, value) :: next :: members, _, h, fuel + 1, rest, hfuel => by
      rw [MembersWellFormed] at h
      have hne : next :: members ≠ [] := List.cons_ne_nil _ _
      have hlength := congrArg List.length (encode_member_more value name (next :: members) [] hne)
      simp only [List.append_nil, List.length_cons, List.length_append] at hlength
      have hread : members? fuel (Utf8.encode (writeMembers (next :: members)) ++ rest) =
          some (next :: members, rest) :=
        members?_write (next :: members) hne h.2 (by omega)
      rw [encode_member_more value name (next :: members) rest hne,
        members?_eq _ (value?_write value h.1 (by omega)
          (endsNumeral_cons _ rfl (by decide) (by decide) (by decide))), skipBlanks_cons rfl]
      change (members? fuel _).bind _ = _
      rw [hread]
      rfl

end

/-- A written value is the one that its bytes are. -/
theorem parse?_bytes {json : Json} (h : json.WellFormed) : parse? json.bytes = some json := by
  have hread : value? (2 * json.bytes.length + 2) (json.bytes ++ []) = some (json, []) :=
    value?_write json h (by rw [bytes]; omega) (by simp [EndsNumeral])
  rw [List.append_nil] at hread
  rw [parse?, hread]
  rfl

end SecondFactor.Json
