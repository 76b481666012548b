import Mathlib.Tactic

/-!
# Address spaces placed in a memory

The cells `κ` of some address spaces are held in the cells `ρ` of one memory: `place k` is the cell
where `k` is held, if it is held.  `Shows place init mem view` says what the memory holds in terms
of the address spaces: in the cell of `k` the last value written to `k`, and the initial one where
nothing was written.

* `Shows.extend`: more cells are placed;
* `Written place S val mem mem'`: an operation has written the cells of `S` and no others, composed
  by `Written.union`;
* `Shows.write`: what it does to what the memory shows.
-/

namespace Views

variable {κ ρ β : Type*}

/-- No cell of the memory holds two cells. -/
def Injective (place : κ → Option ρ) : Prop :=
  ∀ k k' r, place k = some r → place k' = some r → k = k'

/-- The memory holds the values written to the address spaces over the initial ones. -/
structure Shows (place : κ → Option ρ) (init mem : ρ → β) (view : κ → Option β) : Prop where
  placed : ∀ k r, place k = some r → mem r = (view k).getD (init r)
  free : ∀ r, (∀ k, place k ≠ some r) → mem r = init r
  unplaced : ∀ k, place k = none → view k = none

/-- The cells of `S` have got the values `val`, and the other cells of the memory are as they
were. -/
structure Written (place : κ → Option ρ) (S : Set κ) (val : κ → β) (mem mem' : ρ → β) : Prop where
  inside : ∀ k ∈ S, ∀ r, place k = some r → mem' r = val k
  outside : ∀ r, (∀ k ∈ S, place k ≠ some r) → mem' r = mem r

variable {place place' : κ → Option ρ} {init mem mem' mem'' : ρ → β} {view : κ → Option β}
  {S T : Set κ} {val : κ → β}

/-- A memory where nothing is placed. -/
theorem Shows.start (init : ρ → β) : Shows (fun _ : κ => none) init init fun _ => none where
  placed _ _ h := by cases h
  free _ _ := rfl
  unplaced _ _ := rfl

/-- Cells may be placed that were not, where nothing was. -/
theorem Shows.extend (h : Shows place init mem view)
    (hsub : ∀ k r, place k = some r → place' k = some r) (hinj : Injective place') :
    Shows place' init mem view where
  placed k r hk := by
    cases hplace : place k with
    | some r' =>
      have hr : r' = r := Option.some.inj ((hsub k r' hplace).symm.trans hk)
      exact h.placed k r (by rw [hplace, hr])
    | none =>
      rw [h.unplaced k hplace, Option.getD_none]
      refine h.free r fun k' hk' => ?_
      rw [hinj k k' r hk (hsub k' r hk'), hk'] at hplace
      cases hplace
  free r hr := h.free r fun k hk => hr k (hsub k r hk)
  unplaced k hk := by
    refine h.unplaced k ?_
    cases hplace : place k with
    | none => rfl
    | some r =>
      rw [hsub k r hplace] at hk
      cases hk

theorem Written.refl (place : κ → Option ρ) (val : κ → β) (mem : ρ → β) :
    Written place ∅ val mem mem where
  inside _ h := absurd h (Set.notMem_empty _)
  outside _ _ := rfl

/-- Two writes of the same values, one after the other, to cells that are held apart. -/
theorem Written.union
    (hinj : ∀ k ∈ S, ∀ k' ∈ T, ∀ r, place k = some r → place k' = some r → k = k')
    (hS : Written place S val mem mem') (hT : Written place T val mem' mem'') :
    Written place (S ∪ T) val mem mem'' where
  inside k hk r hr := by
    by_cases hkT : k ∈ T
    · exact hT.inside k hkT r hr
    · have hkS : k ∈ S := hk.resolve_right hkT
      rw [hT.outside r fun k' hk' hr' => hkT (hinj k hkS k' hk' r hr hr' ▸ hk')]
      exact hS.inside k hkS r hr
  outside r hr := by
    rw [hT.outside r fun k hk => hr k (Or.inr hk), hS.outside r fun k hk => hr k (Or.inl hk)]

theorem Written.congr {val' : κ → β} (h : Written place S val mem mem')
    (hval : ∀ k ∈ S, val k = val' k) : Written place S val' mem mem' where
  inside k hk r hr := by rw [← hval k hk, h.inside k hk r hr]
  outside := h.outside

/-- What the memory shows after a write of placed cells. -/
theorem Shows.write [DecidablePred (· ∈ S)] (h : Shows place init mem view) (hinj : Injective place)
    (hS : ∀ k ∈ S, place k ≠ none) (hw : Written place S val mem mem') :
    Shows place init mem' fun k => if k ∈ S then some (val k) else view k where
  placed k r hk := by
    by_cases hkS : k ∈ S
    · rw [if_pos hkS, Option.getD_some]
      exact hw.inside k hkS r hk
    · rw [if_neg hkS, hw.outside r fun k' hk' hr' => hkS (hinj k k' r hk hr' ▸ hk')]
      exact h.placed k r hk
  free r hr := by
    rw [hw.outside r fun k _ => hr k]
    exact h.free r hr
  unplaced k hk := by
    rw [if_neg fun hkS => hS k hkS hk]
    exact h.unplaced k hk

end Views
