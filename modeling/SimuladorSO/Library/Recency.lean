import Mathlib.Data.List.Dedup
import Mathlib.Data.List.DropRight
import Mathlib.Tactic

/-!
# The latest elements of a history

A window of `n` places over a history is its last `n` elements.  A window that begins full of
placeholders is one over a history with `n` of them in front.

* `rtake_push`: adding an element drops the oldest one of the window;
* `rtake_erase_push_of_mem`, `rtake_erase_push_of_notMem`: moving an element of the history to its
  end, when the window has it and when it has not;
* `dedup_push`: the distinct elements of a history, in the order of their last occurrences;
* `padded`: the window with placeholders, `mem_padded_iff` and `filter_padded` what is in it.
-/

namespace Recency

variable {κ : Type*} {n : ℕ} {k p : κ} {l : List κ}

/-! ### Windows -/

theorem rtake_append_length (old w : List κ) : (old ++ w).rtake w.length = w := by
  simp [List.rtake]

/-- A history with enough elements is what came before the window, and the window. -/
theorem exists_window (h : n ≤ l.length) :
    ∃ old w, l = old ++ w ∧ w.length = n ∧ l.rtake n = w := by
  refine ⟨l.take (l.length - n), l.drop (l.length - n), (List.take_append_drop _ _).symm, ?_, rfl⟩
  rw [List.length_drop]
  omega

/-- Adding an element drops the oldest one of the window. -/
theorem rtake_push (hn : 0 < n) (h : n ≤ l.length) :
    (l ++ [k]).rtake n = (l.rtake n).tail ++ [k] := by
  obtain ⟨old, w, rfl, hw, heq⟩ := exists_window h
  rw [heq]
  cases w with
  | nil =>
    rw [List.length_nil] at hw
    omega
  | cons a w =>
    have hlen : (w ++ [k]).length = n := by simpa using hw
    have happend : old ++ a :: w ++ [k] = (old ++ [a]) ++ (w ++ [k]) := by simp
    rw [happend, ← hlen, rtake_append_length, List.tail_cons]

variable [DecidableEq κ]

/-- Moving an element of the window to the end of the history. -/
theorem rtake_erase_push_of_mem (h : n ≤ l.length) (hk : k ∈ l.rtake n) (huna : l.count k ≤ 1) :
    (l.erase k ++ [k]).rtake n = (l.rtake n).erase k ++ [k] := by
  obtain ⟨old, w, rfl, hw, heq⟩ := exists_window h
  rw [heq] at hk ⊢
  have hold : k ∉ old := by
    intro hmem
    have hpos := List.count_pos_iff.2 hmem
    have hpos' := List.count_pos_iff.2 hk
    rw [List.count_append] at huna
    omega
  have hlen : (w.erase k ++ [k]).length = n := by
    have hpos := List.length_pos_of_mem hk
    rw [List.length_append, List.length_erase_of_mem hk, List.length_singleton]
    omega
  rw [List.erase_append_right _ hold, List.append_assoc, ← hlen, rtake_append_length]

/-- Moving an element from before the window, or a new one, to the end of the history. -/
theorem rtake_erase_push_of_notMem (hn : 0 < n) (h : n ≤ l.length) (hk : k ∉ l.rtake n) :
    (l.erase k ++ [k]).rtake n = (l.rtake n).tail ++ [k] := by
  obtain ⟨old, w, rfl, hw, heq⟩ := exists_window h
  rw [heq] at hk ⊢
  have herase : (old ++ w).erase k = old.erase k ++ w := by
    by_cases hold : k ∈ old
    · exact List.erase_append_left _ hold
    · rw [List.erase_append_right _ hold, List.erase_of_not_mem hk, List.erase_of_not_mem hold]
  have hw' : (old.erase k ++ w).rtake n = w := by rw [← hw, rtake_append_length]
  rw [herase, rtake_push hn (by rw [List.length_append]; omega), hw']

/-- The distinct elements of a history, in the order of their last occurrences, after one more. -/
theorem dedup_push (l : List κ) (k : κ) : (l ++ [k]).dedup = l.dedup.erase k ++ [k] := by
  induction l with
  | nil => simp
  | cons a l ih =>
    rw [List.cons_append]
    by_cases ha : a ∈ l
    · rw [List.dedup_cons_of_mem ha, List.dedup_cons_of_mem (List.mem_append_left _ ha), ih]
    · rw [List.dedup_cons_of_notMem ha]
      by_cases hak : a = k
      · rw [hak, List.erase_cons_head, List.dedup_cons_of_mem (by simp), ih,
          List.erase_of_not_mem (by rw [List.mem_dedup, ← hak]; exact ha)]
      · rw [List.dedup_cons_of_notMem (by simp [ha, hak]), ih,
          List.erase_cons_tail (by simpa using hak), List.cons_append]

/-! ### Windows with placeholders -/

/-- A window of `n` places that held `n` placeholders before the history. -/
def padded (n : ℕ) (p : κ) (l : List κ) : List κ := (List.replicate n p ++ l).rtake n

omit [DecidableEq κ] in
@[simp] theorem padded_nil (n : ℕ) (p : κ) : padded n p [] = List.replicate n p := by
  simp [padded, List.rtake]

omit [DecidableEq κ] in
/-- The placeholders that are left, and then the latest elements. -/
theorem padded_eq (n : ℕ) (p : κ) (l : List κ) :
    padded n p l = List.replicate (n - l.length) p ++ l.rtake n := by
  unfold padded List.rtake
  rw [List.drop_append, List.drop_replicate, List.length_append, List.length_replicate]
  congr 2
  · omega
  · omega

omit [DecidableEq κ] in
theorem mem_padded_iff (hk : k ≠ p) : k ∈ padded n p l ↔ k ∈ l.rtake n := by
  rw [padded_eq, List.mem_append]
  exact or_iff_right fun h => hk (List.eq_of_mem_replicate h)

/-- What is not a placeholder are the latest elements, in their order. -/
theorem filter_padded (hp : p ∉ l) : (padded n p l).filter (fun k => k ≠ p) = l.rtake n := by
  rw [padded_eq, List.filter_append, List.filter_eq_nil_iff.2, List.nil_append,
    List.filter_eq_self]
  · intro k hk
    have hmem : k ∈ l := List.mem_of_mem_drop hk
    exact decide_eq_true fun h => hp (h ▸ hmem)
  · intro k hk
    simp [List.eq_of_mem_replicate hk]

omit [DecidableEq κ] in
/-- A new element in the place of the oldest one. -/
theorem padded_push (hn : 0 < n) : padded n p (l ++ [k]) = (padded n p l).tail ++ [k] := by
  unfold padded
  rw [← List.append_assoc]
  exact rtake_push hn (by simp)

/-- An element of the window moved to its end. -/
theorem padded_dedup_push_of_mem (hk : k ≠ p) (hmem : k ∈ padded n p l.dedup) :
    padded n p (l ++ [k]).dedup = (padded n p l.dedup).erase k ++ [k] := by
  have hno : k ∉ List.replicate n p := fun h => hk (List.eq_of_mem_replicate h)
  have huna : (List.replicate n p ++ l.dedup).count k ≤ 1 := by
    rw [List.count_append, List.count_eq_zero.2 hno, zero_add]
    exact List.nodup_iff_count_le_one.1 (List.nodup_dedup l) k
  have hpush := rtake_erase_push_of_mem (n := n) (by simp) hmem huna
  rw [List.erase_append_right _ hno, List.append_assoc] at hpush
  rw [dedup_push]
  exact hpush

/-- An element that the window has not, added in the place of the oldest one. -/
theorem padded_dedup_push_of_notMem (hn : 0 < n) (hk : k ≠ p) (hmem : k ∉ padded n p l.dedup) :
    padded n p (l ++ [k]).dedup = (padded n p l.dedup).tail ++ [k] := by
  have hno : k ∉ List.replicate n p := fun h => hk (List.eq_of_mem_replicate h)
  have hpush := rtake_erase_push_of_notMem hn (by simp) hmem
  rw [List.erase_append_right _ hno, List.append_assoc] at hpush
  rw [dedup_push]
  exact hpush

end Recency
