import Mathlib.Tactic

/-!
# Exclusive ownership of allocated resources

Resources `ρ` (frames, blocks, slots) are handed out to keys `κ`; `owner k` is the resource a key
holds and `used r` the mark the allocator consults before it hands `r` out again.

* `Exclusive valid owner used`: owned resources are valid, marked, and have one owner;
* `Exact valid owner used`: besides, every marked resource is owned, so none is lost.

`take`, `free` and `forget` say how the two survive the allocator's operations.
-/

namespace Allocation

variable {κ ρ : Type*}

/-- Owned resources are valid and marked, and no resource has two owners. -/
structure Exclusive (valid : ρ → Prop) (owner : κ → Option ρ) (used : ρ → Bool) : Prop where
  valid_of_owner : ∀ k r, owner k = some r → valid r
  used_of_owner : ∀ k r, owner k = some r → used r = true
  inj : ∀ k k' r, owner k = some r → owner k' = some r → k = k'

/-- Moreover every marked resource has an owner. -/
structure Exact (valid : ρ → Prop) (owner : κ → Option ρ) (used : ρ → Bool) : Prop
    extends Exclusive valid owner used where
  owned : ∀ r, used r = true → ∃ k, owner k = some r

variable {valid : ρ → Prop} {owner owner' : κ → Option ρ} {used used' : ρ → Bool} {k : κ} {r : ρ}

/-- Nothing owned and nothing marked. -/
theorem Exact.empty : Exact valid (fun _ : κ => none) (fun _ => false) where
  valid_of_owner := by simp
  used_of_owner := by simp
  inj := by simp
  owned := by simp

/-- Some owners may be forgotten while the marks stay. -/
theorem Exclusive.forget (h : Exclusive valid owner used)
    (hsub : ∀ k r, owner' k = some r → owner k = some r) : Exclusive valid owner' used where
  valid_of_owner k r hk := h.valid_of_owner k r (hsub k r hk)
  used_of_owner k r hk := h.used_of_owner k r (hsub k r hk)
  inj k k' r hk hk' := h.inj k k' r (hsub k r hk) (hsub k' r hk')

/-- Marks may change on resources that nobody owns. -/
theorem Exclusive.remark (h : Exclusive valid owner used)
    (hused : ∀ k r, owner k = some r → used' r = used r) : Exclusive valid owner used' where
  valid_of_owner := h.valid_of_owner
  used_of_owner k r hk := by rw [hused k r hk]; exact h.used_of_owner k r hk
  inj := h.inj

/-- An unmarked resource has no owner. -/
theorem Exclusive.not_owned (h : Exclusive valid owner used) (hr : used r = false) (k : κ) :
    owner k ≠ some r := by
  intro hk
  rw [h.used_of_owner k r hk] at hr
  cases hr

variable [DecidableEq κ] [DecidableEq ρ]

/-- An unmarked valid resource is given to `k`, whatever `k` held before. -/
theorem Exclusive.take (h : Exclusive valid owner used) (hv : valid r) (hr : used r = false) :
    Exclusive valid (Function.update owner k (some r)) (Function.update used r true) where
  valid_of_owner k' r' hk' := by
    by_cases hkk : k' = k
    · rw [hkk, Function.update_self] at hk'
      cases hk'
      exact hv
    · rw [Function.update_of_ne hkk] at hk'
      exact h.valid_of_owner k' r' hk'
  used_of_owner k' r' hk' := by
    by_cases hrr : r' = r
    · rw [hrr, Function.update_self]
    · rw [Function.update_of_ne hrr]
      by_cases hkk : k' = k
      · rw [hkk, Function.update_self] at hk'
        exact absurd (Option.some.inj hk').symm hrr
      · rw [Function.update_of_ne hkk] at hk'
        exact h.used_of_owner k' r' hk'
  inj k₁ k₂ r' h₁ h₂ := by
    by_cases hk₁ : k₁ = k <;> by_cases hk₂ : k₂ = k
    · rw [hk₁, hk₂]
    · rw [hk₁, Function.update_self] at h₁
      rw [Function.update_of_ne hk₂] at h₂
      cases h₁
      exact absurd h₂ (h.not_owned hr k₂)
    · rw [hk₂, Function.update_self] at h₂
      rw [Function.update_of_ne hk₁] at h₁
      cases h₂
      exact absurd h₁ (h.not_owned hr k₁)
    · rw [Function.update_of_ne hk₁] at h₁
      rw [Function.update_of_ne hk₂] at h₂
      exact h.inj k₁ k₂ r' h₁ h₂

/-- The resource of `k` is returned and its mark cleared. -/
theorem Exclusive.free (h : Exclusive valid owner used) (hk : owner k = some r) :
    Exclusive valid (Function.update owner k none) (Function.update used r false) := by
  have hsub : ∀ k' r', Function.update owner k none k' = some r' → k' ≠ k ∧ owner k' = some r' := by
    intro k' r' hk'
    by_cases hkk : k' = k
    · rw [hkk, Function.update_self] at hk'
      cases hk'
    · rw [Function.update_of_ne hkk] at hk'
      exact ⟨hkk, hk'⟩
  refine (h.forget fun k' r' hk' => (hsub k' r' hk').2).remark fun k' r' hk' => ?_
  have hrr : r' ≠ r := by
    rintro rfl
    exact (hsub k' r' hk').1 (h.inj k' k r' (hsub k' r' hk').2 hk)
  rw [Function.update_of_ne hrr]

/-- Giving an unmarked resource to a key that held none loses nothing. -/
theorem Exact.take (h : Exact valid owner used) (hv : valid r) (hr : used r = false)
    (hk : owner k = none) :
    Exact valid (Function.update owner k (some r)) (Function.update used r true) where
  toExclusive := h.toExclusive.take hv hr
  owned r' hr' := by
    by_cases hrr : r' = r
    · exact ⟨k, by rw [hrr, Function.update_self]⟩
    · rw [Function.update_of_ne hrr] at hr'
      obtain ⟨k', hk'⟩ := h.owned r' hr'
      refine ⟨k', ?_⟩
      rw [Function.update_of_ne, hk']
      rintro rfl
      rw [hk] at hk'
      cases hk'

end Allocation
