/-!
Byte strings, byte strings of a fixed length, and numbers written as bytes with the most
significant byte first.
-/

namespace SecondFactor

abbrev Bytes := List UInt8

/-- A byte string of exactly `n` bytes. -/
abbrev Block (n : Nat) := { bytes : Bytes // bytes.length = n }

/-- A SHA-256 value, or anything else of that length: a secret, a coordinate. -/
abbrev Digest := Block 32

/-- The first `n` bytes as a block, and what follows them. -/
def splitBlock? (n : Nat) (bytes : Bytes) : Option (Block n × Bytes) :=
  if h : n ≤ bytes.length then
    some (⟨bytes.take n, by simp [h]⟩, bytes.drop n)
  else
    none

theorem splitBlock?_append {n : Nat} (block : Block n) (rest : Bytes) :
    splitBlock? n (block.val ++ rest) = some (block, rest) := by
  have hlen := block.property
  simp [splitBlock?, hlen]

theorem eq_append_of_splitBlock? {n : Nat} {bytes rest : Bytes} {block : Block n}
    (h : splitBlock? n bytes = some (block, rest)) : bytes = block.val ++ rest := by
  unfold splitBlock? at h
  split at h
  · cases h
    simp
  · simp at h

/-- A byte string as a block, when its length is right. -/
def Block.ofBytes? (n : Nat) (bytes : Bytes) : Option (Block n) :=
  if h : bytes.length = n then some ⟨bytes, h⟩ else none

/-- The number a byte string writes, most significant byte first. -/
def natOfBytes (bytes : Bytes) : Nat :=
  bytes.foldl (fun value byte => value * 256 + byte.toNat) 0

/-- The last `n` base-256 digits of a number, most significant first. -/
def bytesOfNat : Nat → Nat → Bytes
  | 0, _ => []
  | n + 1, value => UInt8.ofNat (value >>> (8 * n)) :: bytesOfNat n value

@[simp] theorem length_bytesOfNat (n value : Nat) : (bytesOfNat n value).length = n := by
  induction n with
  | zero => rfl
  | succ n ih => simp [bytesOfNat, ih]

/-- The last `n` base-256 digits of a number as a block. -/
def blockOfNat (n value : Nat) : Block n :=
  ⟨bytesOfNat n value, length_bytesOfNat n value⟩

/-- A 16 bit number from its two bytes. -/
def natOfPair (high low : UInt8) : Nat :=
  high.toNat * 256 + low.toNat

theorem natOfPair_lt (high low : UInt8) : natOfPair high low < 65536 := by
  have := high.toNat_lt
  have := low.toNat_lt
  simp only [natOfPair]
  omega

end SecondFactor
