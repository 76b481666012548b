import Mathlib.Tactic

/-!
# C integer arithmetic over `ℤ`

`int32` is the two's complement value of an integer in 32 bits; `ceilDiv a b` is the value of
`ceil((double) a / (double) b)` for `int`s `a` and `b > 0` (a quotient of two 32-bit integers is at
least `1 / b` away from every integer it differs from, far more than the rounding of a double).
-/

namespace CInt

/-- The value of an integer reduced to a signed 32-bit word. -/
def int32 (x : ℤ) : ℤ := Int.bmod x (2 ^ 32)

/-- The values of a C `int`. -/
def InRange (x : ℤ) : Prop := -2 ^ 31 ≤ x ∧ x < 2 ^ 31

instance (x : ℤ) : Decidable (InRange x) := inferInstanceAs (Decidable (_ ∧ _))

theorem int32_of_inRange {x : ℤ} (h : InRange x) : int32 x = x := by
  obtain ⟨h1, h2⟩ := h
  unfold int32
  rw [Int.bmod_eq_of_le]
  · norm_num at h1 ⊢; omega
  · norm_num at h2 ⊢; omega

theorem inRange_int32 (x : ℤ) : InRange (int32 x) := by
  have h1 := Int.le_bmod (x := x) (m := 2 ^ 32) (by norm_num)
  have h2 := Int.bmod_lt (x := x) (m := 2 ^ 32) (by norm_num)
  unfold InRange int32
  norm_num at h1 h2 ⊢
  omega

/-- An unsigned word with its upper bit set is a negative number. -/
theorem int32_of_upper {x : ℤ} (h1 : 2 ^ 31 ≤ x) (h2 : x < 2 ^ 32) : int32 x = x - 2 ^ 32 := by
  have hmod : int32 x = int32 (x - 2 ^ 32) := by
    unfold int32
    rw [← Int.sub_bmod_right x (2 ^ 32)]
    norm_num
  rw [hmod, int32_of_inRange ⟨by omega, by omega⟩]

/-- The `int` of an unsigned word. -/
theorem int32_word {x : ℤ} (h0 : 0 ≤ x) (hlt : x < 2 ^ 32) :
    int32 x = if x < 2 ^ 31 then x else x - 2 ^ 32 := by
  split_ifs with h
  · exact int32_of_inRange ⟨by omega, h⟩
  · exact int32_of_upper (by omega) hlt

theorem int32_modEq (x : ℤ) : int32 x ≡ x [ZMOD 2 ^ 32] := Int.bmod_emod

/-- The `int`s of two words are added without overflow when their signs differ, or the sum stays on
the side of their sign. -/
theorem inRange_int32_add_iff {a b : ℤ} (ha0 : 0 ≤ a) (ha : a < 2 ^ 32) (hb0 : 0 ≤ b)
    (hb : b < 2 ^ 32) :
    InRange (int32 a + int32 b) ↔
      (a < 2 ^ 31 → b < 2 ^ 31 → a + b < 2 ^ 31) ∧
      (2 ^ 31 ≤ a → 2 ^ 31 ≤ b → 3 * 2 ^ 31 ≤ a + b) := by
  rw [int32_word ha0 ha, int32_word hb0 hb]
  unfold InRange
  split_ifs <;> omega

/-- They are subtracted without overflow when their signs agree, or they are far enough apart. -/
theorem inRange_int32_sub_iff {a b : ℤ} (ha0 : 0 ≤ a) (ha : a < 2 ^ 32) (hb0 : 0 ≤ b)
    (hb : b < 2 ^ 32) :
    InRange (int32 a - int32 b) ↔
      (a < 2 ^ 31 → 2 ^ 31 ≤ b → a + 2 ^ 31 < b) ∧
      (2 ^ 31 ≤ a → b < 2 ^ 31 → b + 2 ^ 31 ≤ a) := by
  rw [int32_word ha0 ha, int32_word hb0 hb]
  unfold InRange
  split_ifs <;> omega

/-- Adding to an `int` a positive `int` changes it. -/
theorem int32_add_ne (a : ℤ) {b : ℤ} (h0 : 0 < b) (hb : b < 2 ^ 31) : int32 (a + b) ≠ a := by
  intro h
  have hmod : (int32 (a + b)) % 2 ^ 32 = (a + b) % 2 ^ 32 := Int.bmod_emod
  rw [h] at hmod
  omega

/-- The quotient rounded up. -/
def ceilDiv (a b : ℤ) : ℤ := -(-a / b)

theorem le_ceilDiv_mul {b : ℤ} (hb : 0 < b) (a : ℤ) : a ≤ ceilDiv a b * b := by
  have h := Int.ediv_mul_le (-a) hb.ne'
  unfold ceilDiv
  linarith

theorem ceilDiv_mul_lt {b : ℤ} (hb : 0 < b) (a : ℤ) : ceilDiv a b * b < a + b := by
  have h := Int.lt_ediv_add_one_mul_self (-a) hb
  unfold ceilDiv
  linarith

/-- `ceilDiv a b` is the least `n` with `a ≤ n * b`. -/
theorem ceilDiv_le_iff {b : ℤ} (hb : 0 < b) (a n : ℤ) : ceilDiv a b ≤ n ↔ a ≤ n * b := by
  constructor
  · intro h
    calc a ≤ ceilDiv a b * b := le_ceilDiv_mul hb a
      _ ≤ n * b := mul_le_mul_of_nonneg_right h hb.le
  · intro h
    by_contra hlt
    have h1 : (n + 1) * b ≤ ceilDiv a b * b := mul_le_mul_of_nonneg_right (by omega) hb.le
    have h2 := ceilDiv_mul_lt hb a
    linarith

theorem ceilDiv_mono {b : ℤ} (hb : 0 < b) {a a' : ℤ} (h : a ≤ a') :
    ceilDiv a b ≤ ceilDiv a' b :=
  (ceilDiv_le_iff hb a _).2 (h.trans (le_ceilDiv_mul hb a'))

theorem ceilDiv_nonneg {b : ℤ} (hb : 0 < b) {a : ℤ} (ha : 0 ≤ a) : 0 ≤ ceilDiv a b := by
  by_contra hlt
  have h := le_ceilDiv_mul hb a
  have h1 : ceilDiv a b * b < 0 := mul_neg_of_neg_of_pos (by omega) hb
  linarith

theorem ceilDiv_pos {b : ℤ} (hb : 0 < b) {a : ℤ} (ha : 0 < a) : 0 < ceilDiv a b := by
  by_contra hle
  have h := (ceilDiv_le_iff hb a 0).1 (by omega)
  linarith

theorem ceilDiv_le_self {b : ℤ} (hb : 0 < b) {a : ℤ} (ha : 0 ≤ a) : ceilDiv a b ≤ a := by
  rw [ceilDiv_le_iff hb]
  exact le_mul_of_one_le_right ha hb

end CInt
