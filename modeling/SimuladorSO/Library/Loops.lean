import Mathlib.Tactic

/-!
# Counted loops and linear searches

`iterate body n s` is the state after the iterations `i = 0, …, n - 1` of a counted loop;
`iterate_induct` is its invariant rule, `iterate_update` and `iterate_count` its two commonest uses.
`firstFrom p i n` scans the `n` indices from `i` on and returns the first one satisfying `p`, or
`-1`.
-/

namespace Loops

variable {σ : Type*}

/-- The state after the iterations `i = 0, …, n - 1` of the loop body. -/
def iterate (body : ℕ → σ → σ) : ℕ → σ → σ
  | 0, s => s
  | n + 1, s => body n (iterate body n s)

@[simp] theorem iterate_zero (body : ℕ → σ → σ) (s : σ) : iterate body 0 s = s := rfl

theorem iterate_succ (body : ℕ → σ → σ) (n : ℕ) (s : σ) :
    iterate body (n + 1) s = body n (iterate body n s) := rfl

/-- The invariant rule of a counted loop. -/
theorem iterate_induct {body : ℕ → σ → σ} {P : ℕ → σ → Prop} {n : ℕ} {s : σ} (h0 : P 0 s)
    (hstep : ∀ i < n, ∀ s, P i s → P (i + 1) (body i s)) : P n (iterate body n s) := by
  induction n with
  | zero => exact h0
  | succ n ih =>
    exact hstep n (Nat.lt_succ_self n) _ (ih fun i hi => hstep i (Nat.lt_succ_of_lt hi))

/-- A loop that writes `v` in the `n` cells from `a` on. -/
theorem iterate_update {β : Type*} (f : ℤ → β) (a : ℤ) (v : β) (n : ℕ) (j : ℤ) :
    iterate (fun i f => Function.update f (a + i) v) n f j =
      if a ≤ j ∧ j < a + n then v else f j := by
  induction n with
  | zero => rw [iterate_zero, if_neg (by simp)]
  | succ n ih =>
    rw [iterate_succ]
    by_cases hj : j = a + n
    · rw [hj, Function.update_self, if_pos (by push_cast; omega)]
    · rw [Function.update_of_ne hj, ih]
      refine if_congr ?_ rfl rfl
      push_cast
      omega

/-- A loop that counts the indices where `p` is false. -/
theorem iterate_count (p : ℤ → Bool) (n : ℕ) :
    iterate (fun i (k : ℤ) => if p i then k else k + 1) n 0 =
      ((Finset.Ico (0 : ℤ) n).filter fun j => p j = false).card := by
  induction n with
  | zero => rfl
  | succ n ih =>
    have hico : Finset.Ico (0 : ℤ) ((n + 1 : ℕ) : ℤ) = insert (n : ℤ) (Finset.Ico 0 (n : ℤ)) := by
      ext j
      rw [Finset.mem_insert, Finset.mem_Ico, Finset.mem_Ico]
      push_cast
      omega
    rw [iterate_succ, ih, hico, Finset.filter_insert]
    cases hp : p n with
    | true => simp
    | false =>
      rw [if_pos rfl, Finset.card_insert_of_notMem (by simp)]
      simp

/-- The first index from `i` on, among `n`, that satisfies `p`; `-1` when there is none. -/
def firstFrom (p : ℤ → Bool) : ℤ → ℕ → ℤ
  | _, 0 => -1
  | i, n + 1 => if p i then i else firstFrom p (i + 1) n

/-- What a search answers: either no index of the range satisfies `p`, or the first that does. -/
theorem firstFrom_spec (p : ℤ → Bool) (i : ℤ) (n : ℕ) :
    (firstFrom p i n = -1 ∧ ∀ j, i ≤ j → j < i + n → p j = false) ∨
    (i ≤ firstFrom p i n ∧ firstFrom p i n < i + n ∧ p (firstFrom p i n) = true ∧
      ∀ j, i ≤ j → j < firstFrom p i n → p j = false) := by
  induction n generalizing i with
  | zero => exact Or.inl ⟨rfl, fun j h1 h2 => by simp at h2; omega⟩
  | succ n ih =>
    unfold firstFrom
    split_ifs with hp
    · exact Or.inr ⟨le_rfl, by push_cast; omega, hp, fun j h1 h2 => by omega⟩
    · have hi : p i = false := by simpa using hp
      rcases ih (i + 1) with ⟨h, hnone⟩ | ⟨h1, h2, h3, h4⟩
      · refine Or.inl ⟨h, fun j hj hjn => ?_⟩
        rcases eq_or_lt_of_le hj with rfl | hlt
        · exact hi
        · exact hnone j (by omega) (by push_cast at hjn; omega)
      · refine Or.inr ⟨by omega, by push_cast; omega, h3, fun j hj hjn => ?_⟩
        rcases eq_or_lt_of_le hj with rfl | hlt
        · exact hi
        · exact h4 j (by omega) hjn

end Loops
