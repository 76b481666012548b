import Mathlib.Data.Int.Log
import Mathlib.Tactic

/-!
# Rounding to a binary precision

`roundTo p x` is the number of `p` significant bits nearest to `x`, and of two that are equally near
the one that ends in 0; `Representable p` are the numbers of `p` bits, which rounding leaves alone.
The exponent has no bound.
-/

namespace Rounding

/-- `x` has at most `p` significant bits. -/
def Representable (p : ℕ) (x : ℚ) : Prop := ∃ m e : ℤ, |m| < 2 ^ p ∧ x = m * 2 ^ e

/-- The nearest integer, and of two that are equally near the even one. -/
def halfEven (x : ℚ) : ℤ :=
  if Int.fract x < 1 / 2 then ⌊x⌋
  else if 1 / 2 < Int.fract x then ⌊x⌋ + 1
  else if ⌊x⌋ % 2 = 0 then ⌊x⌋
  else ⌊x⌋ + 1

/-- The exponent of the last of the `p` bits. -/
def lastBit (p : ℕ) (x : ℚ) : ℤ := Int.log 2 |x| + 1 - p

/-- The nearest number of `p` bits. -/
def roundTo (p : ℕ) (x : ℚ) : ℚ := halfEven (x / 2 ^ lastBit p x) * 2 ^ lastBit p x

variable {p : ℕ} {x : ℚ}

@[simp] theorem halfEven_intCast (n : ℤ) : halfEven n = n := by
  unfold halfEven
  rw [Int.fract_intCast, if_pos (by norm_num), Int.floor_intCast]

/-- The rounded integer is next to the number. -/
theorem halfEven_cases (x : ℚ) : halfEven x = ⌊x⌋ ∨ halfEven x = ⌊x⌋ + 1 ∧ (⌊x⌋ : ℚ) < x := by
  unfold halfEven
  have hfract := Int.self_sub_floor x
  split_ifs with hlt hgt heven
  · exact Or.inl rfl
  · exact Or.inr ⟨rfl, by linarith⟩
  · exact Or.inl rfl
  · exact Or.inr ⟨rfl, by linarith⟩

/-- Rounding does not leave a range of integers. -/
theorem abs_halfEven_le {n : ℤ} (h : |x| ≤ n) : |halfEven x| ≤ n := by
  obtain ⟨h1, h2⟩ := abs_le.1 h
  have hfloor : -n ≤ ⌊x⌋ := Int.le_floor.2 (by push_cast; exact h1)
  have hle : ⌊x⌋ ≤ n := by exact_mod_cast (Int.floor_le x).trans h2
  rw [abs_le]
  rcases halfEven_cases x with heq | ⟨heq, hlt⟩
  · rw [heq]
    exact ⟨hfloor, hle⟩
  · have hlt' : ⌊x⌋ < n := by exact_mod_cast hlt.trans_le h2
    rw [heq]
    constructor <;> omega

/-- A number is less than `p` bits of the weight of its last one. -/
theorem abs_lt_lastBit (p : ℕ) (x : ℚ) : |x| < 2 ^ (lastBit p x + p) := by
  have h := Int.lt_zpow_succ_log_self (by norm_num : 1 < 2) |x|
  rw [lastBit, sub_add_cancel]
  exact_mod_cast h

/-- The last bit of a representable number is not below that of its mantissa. -/
theorem lastBit_le {m e : ℤ} (hm : |m| < 2 ^ p) (hx : x = m * 2 ^ e) (h0 : x ≠ 0) :
    lastBit p x ≤ e := by
  have hpow := Int.zpow_log_le_self (by norm_num : 1 < 2) (abs_pos.2 h0)
  have habs : |x| = ((|m| : ℤ) : ℚ) * 2 ^ e := by
    rw [hx, abs_mul, abs_of_pos (by positivity : (0 : ℚ) < 2 ^ e), Int.cast_abs]
  have hm' : ((|m| : ℤ) : ℚ) < 2 ^ (p : ℤ) := by exact_mod_cast hm
  have hlt : (2 : ℚ) ^ Int.log 2 |x| < 2 ^ (p + e) := by
    calc (2 : ℚ) ^ Int.log 2 |x| ≤ |x| := by exact_mod_cast hpow
      _ = ((|m| : ℤ) : ℚ) * 2 ^ e := habs
      _ < 2 ^ (p : ℤ) * 2 ^ e := mul_lt_mul_of_pos_right hm' (by positivity)
      _ = 2 ^ (p + e) := (zpow_add₀ (by norm_num) _ _).symm
  have := (zpow_lt_zpow_iff_right₀ (by norm_num : (1 : ℚ) < 2)).1 hlt
  unfold lastBit
  omega

/-- **A number of `p` bits is its own rounding.** -/
theorem roundTo_of_representable (h : Representable p x) : roundTo p x = x := by
  obtain ⟨m, e, hm, hx⟩ := h
  by_cases h0 : x = 0
  · have hzero : halfEven 0 = 0 := by
      have := halfEven_intCast 0
      rwa [Int.cast_zero] at this
    rw [roundTo, h0, zero_div, hzero, Int.cast_zero, zero_mul]
  have hle := lastBit_le hm hx h0
  have hpos : (2 : ℚ) ^ lastBit p x ≠ 0 := zpow_ne_zero _ (by norm_num)
  have hquot : x / 2 ^ lastBit p x = ((m * 2 ^ (e - lastBit p x).toNat : ℤ) : ℚ) := by
    have hnat : ((e - lastBit p x).toNat : ℤ) = e - lastBit p x := Int.toNat_of_nonneg (by omega)
    rw [div_eq_iff hpos]
    push_cast
    rw [← zpow_natCast, hnat, mul_assoc, ← zpow_add₀ (by norm_num), sub_add_cancel]
    exact hx
  rw [roundTo, hquot, halfEven_intCast, ← hquot, div_mul_cancel₀ _ hpos]

/-- A rounding has `p` bits. -/
theorem representable_roundTo (hp : 0 < p) (x : ℚ) : Representable p (roundTo p x) := by
  have hpos : (0 : ℚ) < 2 ^ lastBit p x := by positivity
  have hquot : |x / 2 ^ lastBit p x| ≤ ((2 ^ p : ℤ) : ℚ) := by
    rw [abs_div, abs_of_pos hpos, div_le_iff₀ hpos]
    push_cast
    rw [← zpow_natCast, ← zpow_add₀ (by norm_num), add_comm]
    exact (abs_lt_lastBit p x).le
  have hle := abs_halfEven_le hquot
  rcases hle.lt_or_eq with hlt | heq
  · exact ⟨_, _, hlt, rfl⟩
  -- the mantissa was rounded up to the next power of two
  · have hone : |(1 : ℤ)| < 2 ^ p := by
      rw [abs_one]
      exact one_lt_pow₀ (by norm_num) hp.ne'
    have hsum : (2 : ℚ) ^ ((p : ℤ) + lastBit p x) = 2 ^ p * 2 ^ lastBit p x := by
      rw [zpow_add₀ (by norm_num), zpow_natCast]
    rcases (abs_eq (by positivity)).1 heq with hval | hval
    · refine ⟨1, p + lastBit p x, hone, ?_⟩
      rw [roundTo, hval, hsum]
      push_cast
      ring
    · refine ⟨-1, p + lastBit p x, by rwa [abs_neg], ?_⟩
      rw [roundTo, hval, hsum]
      push_cast
      ring

/-- An integer below `2 ^ p` has `p` bits. -/
theorem representable_intCast {n : ℤ} (h : |n| < 2 ^ p) : Representable p n :=
  ⟨n, 0, h, by rw [zpow_zero, mul_one]⟩

end Rounding
