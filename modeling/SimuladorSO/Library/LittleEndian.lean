import SimuladorSO.Library.CInt

/-!
# Little-endian bytes

`bytes w n` are the `w` low bytes of `n`, the least significant first, and `value` the number that
some bytes hold; `intBytes` and `intValue` are those of a C `int`.
-/

namespace LittleEndian

open CInt

/-- The `w` low bytes of a number. -/
def bytes : ℕ → ℕ → List UInt8
  | 0, _ => []
  | w + 1, n => UInt8.ofNat n :: bytes w (n / 256)

/-- The number that some bytes hold. -/
def value : List UInt8 → ℕ
  | [] => 0
  | b :: bs => b.toNat + 256 * value bs

/-- The four bytes of an `int`. -/
def intBytes (n : ℤ) : List UInt8 := bytes 4 (n % 2 ^ 32).toNat

/-- The `int` that some bytes hold. -/
def intValue (bs : List UInt8) : ℤ := int32 (value bs)

@[simp] theorem bytes_length (w n : ℕ) : (bytes w n).length = w := by
  induction w generalizing n with
  | zero => rfl
  | succ w ih => rw [bytes, List.length_cons, ih]

@[simp] theorem intBytes_length (n : ℤ) : (intBytes n).length = 4 := bytes_length _ _

/-- The bytes hold the number, up to their width. -/
theorem value_bytes (w n : ℕ) : value (bytes w n) = n % 256 ^ w := by
  induction w generalizing n with
  | zero => rw [bytes, value, pow_zero, Nat.mod_one]
  | succ w ih =>
    rw [bytes, value, ih, UInt8.toNat_ofNat', show 2 ^ 8 = 256 by norm_num, pow_succ' 256,
      Nat.mod_mul]

/-- The four bytes of an `int` hold it. -/
theorem intValue_intBytes {n : ℤ} (h : InRange n) : intValue (intBytes n) = n := by
  have h0 := Int.emod_nonneg n (by norm_num : (2 : ℤ) ^ 32 ≠ 0)
  have hlt := Int.emod_lt_of_pos n (by norm_num : (0 : ℤ) < 2 ^ 32)
  have hvalue : (value (intBytes n) : ℤ) = n % 2 ^ 32 := by
    rw [intBytes, value_bytes, Nat.mod_eq_of_lt (by norm_num; omega), Int.toNat_of_nonneg h0]
  rw [intValue, hvalue]
  unfold int32
  rw [show ((2 : ℤ) ^ 32) = ((2 ^ 32 : ℕ) : ℤ) by norm_num, Int.emod_bmod]
  exact int32_of_inRange h

/-- An unsigned word and its `int` have the same bytes. -/
theorem intBytes_int32 {n : ℕ} (h : n < 2 ^ 32) : intBytes (int32 n) = bytes 4 n := by
  have hmod : (int32 n % 2 ^ 32 : ℤ) = n := by
    unfold int32
    rw [show ((2 : ℤ) ^ 32) = ((2 ^ 32 : ℕ) : ℤ) by norm_num, Int.bmod_emod]
    exact Int.emod_eq_of_lt (by omega) (by exact_mod_cast h)
  rw [intBytes, hmod, Int.toNat_natCast]

theorem value_lt (bs : List UInt8) : value bs < 256 ^ bs.length := by
  induction bs with
  | nil => decide
  | cons b bs ih =>
    have hb := b.toNat_lt
    rw [value, List.length_cons, pow_succ']
    omega

/-- Bytes are those of the number that they hold. -/
theorem bytes_value (bs : List UInt8) : bytes bs.length (value bs) = bs := by
  induction bs with
  | nil => rfl
  | cons b bs ih =>
    have hb := b.toNat_lt
    have hlow : UInt8.ofNat (b.toNat + 256 * value bs) = b := by
      rw [← UInt8.toNat_inj, UInt8.toNat_ofNat']
      omega
    have hhigh : (b.toNat + 256 * value bs) / 256 = value bs := by omega
    rw [List.length_cons, bytes, value, hlow, hhigh, ih]

/-- Four bytes are those of the `int` that they hold. -/
theorem intBytes_intValue {bs : List UInt8} (h : bs.length = 4) : intBytes (intValue bs) = bs := by
  have hlt := value_lt bs
  have hbytes := bytes_value bs
  rw [h] at hlt hbytes
  rw [intValue, intBytes_int32 hlt, hbytes]

end LittleEndian
