import SecondFactor.Raw.Scan

/-!
A signature is the last field of both responses and carries no length of its own: it is a DER
sequence, whose header says where the message ends.
-/

namespace SecondFactor.Raw

/-- The size of a DER sequence's header and the length of its contents. Lengths are short, or of
one or two bytes. -/
def sequenceHeader : Bytes → Except FormatFault (Nat × Nat)
  | [] | [_] => .error .truncated
  | tag :: length :: rest =>
    if tag ≠ 0x30 then .error .signature
    else if length < 0x80 then .ok (2, length.toNat)
    else if length = 0x81 then
      match rest with
      | size :: _ => .ok (3, size.toNat)
      | _ => .error .truncated
    else if length = 0x82 then
      match rest with
      | high :: low :: _ => .ok (4, natOfPair high low)
      | _ => .error .truncated
    else .error .signature

/-- Takes the rest of a message as a signature. -/
def restAsSignature (bytes : Bytes) : Except FormatFault Bytes :=
  match sequenceHeader bytes with
  | .error fault => .error fault
  | .ok (header, contents) =>
    if bytes.length < header + contents then .error .truncated
    else if header + contents < bytes.length then .error .trailingData
    else .ok bytes

theorem eq_of_restAsSignature {bytes signature : Bytes}
    (h : restAsSignature bytes = .ok signature) : signature = bytes := by
  unfold restAsSignature at h
  split at h
  · simp at h
  · split at h
    · simp at h
    · split at h
      · simp at h
      · cases h
        rfl

end SecondFactor.Raw
