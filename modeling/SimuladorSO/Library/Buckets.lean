import Mathlib.Tactic

/-!
# Keys sorted into buckets

A list of buckets and a function that gives each key its class, if it has one.  `Sorted` says that a
key of class `i` occurs once, in the bucket `i`, and a key without class in none.

* `Sorted.enter`, `Sorted.leave`, `Sorted.move`: a key gets, loses or changes its class;
* `Sorted.count_flatten`: how often a key occurs in the buckets together.
-/

namespace Buckets

variable {κ : Type*} [BEq κ] {bs : List (List κ)} {b : List κ}
  {cls : κ → Option ℕ} {k : κ} {i j : ℕ}

/-- Each key with a class is once in the bucket of its class, and nowhere else. -/
structure Sorted (bs : List (List κ)) (cls : κ → Option ℕ) : Prop where
  count : ∀ i b, bs[i]? = some b → ∀ k, b.count k = if cls k = some i then 1 else 0
  bound : ∀ k i, cls k = some i → i < bs.length

/-- Empty buckets, before any key has a class. -/
theorem Sorted.replicate (n : ℕ) : Sorted (List.replicate n ([] : List κ)) fun _ => none where
  count i b hb k := by
    rw [List.eq_of_mem_replicate (List.mem_of_getElem? hb)]
    simp
  bound k i h := by simp at h

/-- In all the buckets together a key occurs once if it has a class. -/
theorem Sorted.count_flatten (h : Sorted bs cls) (k : κ) :
    bs.flatten.count k = if (cls k).isSome then 1 else 0 := by
  have hmap : bs.map (List.count k) =
      (List.range bs.length).map fun i => if cls k = some i then 1 else 0 := by
    refine List.ext_getElem? fun i => ?_
    rw [List.getElem?_map, List.getElem?_map]
    rcases lt_or_ge i bs.length with hi | hi
    · rw [List.getElem?_eq_getElem hi, List.getElem?_range hi]
      simp [h.count i _ (List.getElem?_eq_getElem hi) k]
    · rw [List.getElem?_eq_none hi, List.getElem?_eq_none (by simpa using hi)]
      rfl
  have hsum : ((List.range bs.length).map fun i => if cls k = some i then 1 else 0).sum =
      ∑ i ∈ Finset.range bs.length, if cls k = some i then 1 else 0 := rfl
  rw [List.count_flatten, hmap, hsum]
  cases hk : cls k with
  | none => simp
  | some c => simp [h.bound k c hk]

variable [LawfulBEq κ]

theorem Sorted.mem_iff (h : Sorted bs cls) (hb : bs[i]? = some b) : k ∈ b ↔ cls k = some i := by
  rw [← List.count_pos_iff, h.count i b hb k]
  split_ifs with hk
  · simp [hk]
  · simp [hk]

/-! ### Changes of class -/

variable [DecidableEq κ]

/-- A key without class enters a bucket. -/
theorem Sorted.enter (h : Sorted bs cls) (hk : cls k = none) (hi : i < bs.length) :
    Sorted (bs.modify i fun b => b ++ [k]) (Function.update cls k (some i)) where
  count j b hb k' := by
    rw [List.getElem?_modify] at hb
    obtain ⟨b', hb', rfl⟩ := Option.map_eq_some_iff.1 hb
    have hcount := h.count j b' hb' k'
    by_cases hkk : k' = k
    · subst hkk
      rw [hk, if_neg (by simp)] at hcount
      rw [Function.update_self]
      split_ifs with hij hji hji
      · simp [hcount]
      · exact absurd (congrArg some hij) hji
      · exact absurd (Option.some.inj hji) hij
      · exact hcount
    · rw [Function.update_of_ne hkk, ← hcount]
      split_ifs with hij
      · simp [Ne.symm hkk]
      · rfl
  bound k' j hj := by
    rw [List.length_modify]
    by_cases hkk : k' = k
    · rw [hkk, Function.update_self] at hj
      exact Option.some.inj hj ▸ hi
    · rw [Function.update_of_ne hkk] at hj
      exact h.bound k' j hj

/-- A key leaves its bucket. -/
theorem Sorted.leave (h : Sorted bs cls) (hk : cls k = some i) :
    Sorted (bs.modify i fun b => b.erase k) (Function.update cls k none) where
  count j b hb k' := by
    rw [List.getElem?_modify] at hb
    obtain ⟨b', hb', rfl⟩ := Option.map_eq_some_iff.1 hb
    have hcount := h.count j b' hb' k'
    by_cases hkk : k' = k
    · subst hkk
      rw [hk] at hcount
      rw [Function.update_self, if_neg (Option.some_ne_none j).symm]
      by_cases hij : i = j
      · rw [if_pos hij, List.count_erase_self, hcount, if_pos (congrArg some hij)]
      · rw [if_neg hij, hcount, if_neg fun hji => hij (Option.some.inj hji)]
    · rw [Function.update_of_ne hkk, ← hcount]
      split_ifs with hij
      · exact List.count_erase_of_ne hkk
      · rfl
  bound k' j hj := by
    rw [List.length_modify]
    by_cases hkk : k' = k
    · simp [hkk] at hj
    · rw [Function.update_of_ne hkk] at hj
      exact h.bound k' j hj

/-- A key goes from one bucket to another. -/
theorem Sorted.move (h : Sorted bs cls) (hk : cls k = some i) (hj : j < bs.length) :
    Sorted ((bs.modify i fun b => b.erase k).modify j fun b => b ++ [k])
      (Function.update cls k (some j)) := by
  have henter := (h.leave hk).enter (Function.update_self k none cls)
    (by rwa [List.length_modify] : j < (bs.modify i fun b => b.erase k).length)
  rwa [Function.update_idem] at henter

end Buckets
