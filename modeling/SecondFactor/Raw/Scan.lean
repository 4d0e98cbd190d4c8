import SecondFactor.Failure

/-!
Reading a message from front to back. A field that is cut off and bytes left over after the last
field are told apart.
-/

namespace SecondFactor.Raw

/-- A reader of some fields: its value and the bytes it leaves. -/
abbrev Scan (α : Type) := Bytes → Except FormatFault (α × Bytes)

namespace Scan

variable {α : Type}

def fixed (n : Nat) : Scan (Block n) := fun bytes =>
  match splitBlock? n bytes with
  | some result => .ok result
  | none => .error .truncated

def byte : Scan UInt8
  | [] => .error .truncated
  | first :: rest => .ok (first, rest)

/-- As many bytes as the first byte says. -/
def counted : Scan Bytes
  | [] => .error .truncated
  | length :: rest =>
    if length.toNat ≤ rest.length then
      .ok (rest.take length.toNat, rest.drop length.toNat)
    else
      .error .truncated

/-- The value of a reader, once nothing is left. -/
def complete : Except FormatFault (α × Bytes) → Except FormatFault α
  | .error fault => .error fault
  | .ok (value, []) => .ok value
  | .ok (_, _ :: _) => .error .trailingData

@[simp] theorem fixed_append {n : Nat} (block : Block n) (rest : Bytes) :
    fixed n (block.val ++ rest) = .ok (block, rest) := by
  simp [fixed, splitBlock?_append]

theorem eq_append_of_fixed {n : Nat} {bytes rest : Bytes} {block : Block n}
    (h : fixed n bytes = .ok (block, rest)) : bytes = block.val ++ rest := by
  unfold fixed at h
  split at h
  · rename_i result hsplit
    cases h
    exact eq_append_of_splitBlock? hsplit
  · simp at h

end Scan

/-- A byte string behind its length, which has to fit one byte. -/
def countedBytes (handle : Bytes) : Except FormatFault Bytes :=
  if handle.length ≤ 255 then
    .ok (UInt8.ofNat handle.length :: handle)
  else
    .error (.keyHandleTooLong handle.length)

theorem counted_countedBytes {handle counted : Bytes} (rest : Bytes)
    (h : countedBytes handle = .ok counted) :
    Scan.counted (counted ++ rest) = .ok (handle, rest) := by
  unfold countedBytes at h
  split at h
  · rename_i hlen
    cases h
    have hmod : handle.length % 256 = handle.length := by omega
    simp [Scan.counted, hmod]
  · simp at h

theorem countedBytes_of_counted {bytes handle rest : Bytes}
    (h : Scan.counted bytes = .ok (handle, rest)) :
    ∃ counted, countedBytes handle = .ok counted ∧ bytes = counted ++ rest := by
  cases bytes with
  | nil => simp [Scan.counted] at h
  | cons length tail =>
    rw [Scan.counted] at h
    split at h
    · rename_i hlen
      cases h
      have hbyte := length.toNat_lt
      refine ⟨length :: tail.take length.toNat, ?_, by simp⟩
      have hmin : min length.toNat tail.length = length.toNat := by omega
      have : length.toNat ≤ 255 := by omega
      simp [countedBytes, hmin, this]
    · simp at h

end SecondFactor.Raw
