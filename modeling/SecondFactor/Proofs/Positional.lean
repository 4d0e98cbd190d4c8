import Mathlib.Algebra.Order.Ring.Nat
import SecondFactor.Bytes

/-!
Byte strings as numerals of base 256. Main statements: `n` digits keep a number modulo `256 ^ n`,
`natOfBytes_bytesOfNat`, and a byte string is read back from its number and its length,
`bytesOfNat_natOfBytes`.
-/

namespace SecondFactor

theorem bytesOfNat_succ (n value : Nat) :
    bytesOfNat (n + 1) value = UInt8.ofNat (value / 256 ^ n) :: bytesOfNat n value := by
  have hplace : 2 ^ (8 * n) = 256 ^ n := pow_mul 2 8 n
  rw [bytesOfNat, Nat.shiftRight_eq_div_pow, hplace]

private theorem foldl_value (bytes : Bytes) (start : Nat) :
    bytes.foldl (fun value byte => value * 256 + byte.toNat) start =
      start * 256 ^ bytes.length + natOfBytes bytes := by
  induction bytes generalizing start with
  | nil => simp [natOfBytes]
  | cons byte rest ih =>
    simp only [natOfBytes, List.foldl_cons, List.length_cons]
    rw [ih, ih (0 * 256 + byte.toNat)]
    rw [Nat.pow_succ, Nat.add_mul, Nat.add_mul, Nat.mul_assoc, Nat.mul_comm 256]
    omega

theorem natOfBytes_cons (byte : UInt8) (rest : Bytes) :
    natOfBytes (byte :: rest) = byte.toNat * 256 ^ rest.length + natOfBytes rest := by
  rw [natOfBytes, List.foldl_cons, foldl_value]
  simp

theorem natOfBytes_lt (bytes : Bytes) : natOfBytes bytes < 256 ^ bytes.length := by
  induction bytes with
  | nil => simp [natOfBytes]
  | cons byte rest ih =>
    rw [natOfBytes_cons, List.length_cons, Nat.pow_succ]
    have hbyte := byte.toNat_lt
    have : (byte.toNat + 1) * 256 ^ rest.length ≤ 256 * 256 ^ rest.length :=
      Nat.mul_le_mul_right _ (by omega)
    rw [Nat.add_mul] at this
    omega

theorem natOfBytes_bytesOfNat (n value : Nat) :
    natOfBytes (bytesOfNat n value) = value % 256 ^ n := by
  induction n with
  | zero => simp [bytesOfNat, natOfBytes, Nat.mod_one]
  | succ n ih =>
    rw [bytesOfNat_succ, natOfBytes_cons, ih, length_bytesOfNat, Nat.pow_succ,
      Nat.mod_mul]
    simp only [UInt8.toNat_ofNat']
    rw [Nat.mul_comm, Nat.add_comm]

/-- Only the last digits of a number are written. -/
theorem bytesOfNat_eq_of_mod_eq {n value other : Nat}
    (h : value % 256 ^ n = other % 256 ^ n) : bytesOfNat n value = bytesOfNat n other := by
  induction n generalizing value other with
  | zero => rfl
  | succ n ih =>
    rw [Nat.pow_succ, Nat.mod_mul, Nat.mod_mul] at h
    have hlow : value % 256 ^ n = other % 256 ^ n := by
      have := congrArg (· % 256 ^ n) h
      simpa using this
    have hhigh : value / 256 ^ n % 256 = other / 256 ^ n % 256 := by
      rw [hlow] at h
      exact Nat.eq_of_mul_eq_mul_left (Nat.pow_pos (by decide)) (Nat.add_left_cancel h)
    rw [bytesOfNat_succ, bytesOfNat_succ, ih hlow]
    congr 1
    apply UInt8.toNat_inj.1
    simpa using hhigh

theorem bytesOfNat_natOfBytes (bytes : Bytes) :
    bytesOfNat bytes.length (natOfBytes bytes) = bytes := by
  induction bytes with
  | nil => rfl
  | cons byte rest ih =>
    rw [List.length_cons, bytesOfNat_succ, natOfBytes_cons]
    have hrest := natOfBytes_lt rest
    have hpos : 0 < 256 ^ rest.length := Nat.pow_pos (by decide)
    congr 1
    · rw [Nat.add_comm, Nat.add_mul_div_right _ _ hpos, Nat.div_eq_of_lt hrest]
      simp
    · rw [bytesOfNat_eq_of_mod_eq (show _ % _ = natOfBytes rest % _ from ?_)]
      · exact ih
      · rw [Nat.mul_comm, Nat.mul_add_mod]

end SecondFactor
