import Mathlib.Tactic

/-!
# Lists whose elements have different keys

The list operations that address an element by its position, seen through the keys: when the keys of
a list differ, `set` replaces the element with the key at that position and `eraseIdx` removes it.
-/

namespace Keyed

variable {α κ : Type*} {key : α → κ} {l : List α} {i j : ℕ} {a b : α}

/-- A key is at one position only. -/
theorem index_unique (h : (l.map key).Nodup) (hi : l[i]? = some a) (hj : l[j]? = some b)
    (hk : key a = key b) : i = j := by
  have hil : i < (l.map key).length := by
    rw [List.length_map]
    exact (List.getElem?_eq_some_iff.1 hi).1
  apply (List.getElem?_inj hil h).1
  rw [List.getElem?_map, List.getElem?_map, hi, hj, Option.map_some, Option.map_some, hk]

/-- Replacing an element by one with its key keeps the keys. -/
theorem map_set (hi : l[i]? = some a) (hk : key b = key a) : (l.set i b).map key = l.map key := by
  obtain ⟨hlt, hget⟩ := List.getElem?_eq_some_iff.1 hi
  apply List.ext_getElem?
  intro j
  rw [List.getElem?_map, List.getElem?_map, List.getElem?_set]
  split_ifs with hij
  · rw [← hij, hi, Option.map_some, Option.map_some, hk]
  · rfl

theorem mem_set_iff (h : (l.map key).Nodup) (hi : l[i]? = some a) (x : α) :
    x ∈ l.set i b ↔ x = b ∨ (x ∈ l ∧ key x ≠ key a) := by
  obtain ⟨hlt, hget⟩ := List.getElem?_eq_some_iff.1 hi
  constructor
  · intro hx
    obtain ⟨j, hj⟩ := List.mem_iff_getElem?.1 hx
    by_cases hij : i = j
    · rw [← hij, List.getElem?_set_self hlt] at hj
      exact Or.inl (Option.some.inj hj).symm
    · rw [List.getElem?_set_ne hij] at hj
      exact Or.inr ⟨List.mem_of_getElem? hj, fun hk => hij (index_unique h hi hj hk.symm)⟩
  · rintro (rfl | ⟨hx, hk⟩)
    · exact List.mem_set hlt x
    · obtain ⟨j, hj⟩ := List.mem_iff_getElem?.1 hx
      have hij : i ≠ j := by
        rintro rfl
        rw [hi] at hj
        cases hj
        exact hk rfl
      rw [← List.getElem?_set_ne hij] at hj
      exact List.mem_of_getElem? hj

theorem mem_eraseIdx_iff (h : (l.map key).Nodup) (hi : l[i]? = some a) (x : α) :
    x ∈ l.eraseIdx i ↔ x ∈ l ∧ key x ≠ key a := by
  rw [List.mem_eraseIdx_iff_getElem?]
  constructor
  · rintro ⟨j, hij, hj⟩
    exact ⟨List.mem_of_getElem? hj, fun hk => hij (index_unique h hj hi hk)⟩
  · rintro ⟨hx, hk⟩
    obtain ⟨j, hj⟩ := List.mem_iff_getElem?.1 hx
    refine ⟨j, ?_, hj⟩
    rintro rfl
    rw [hi] at hj
    cases hj
    exact hk rfl

theorem nodup_eraseIdx (h : (l.map key).Nodup) (i : ℕ) : ((l.eraseIdx i).map key).Nodup :=
  h.sublist ((List.eraseIdx_sublist l i).map key)

end Keyed
