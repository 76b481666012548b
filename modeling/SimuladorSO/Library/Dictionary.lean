import Mathlib.Tactic

/-!
# Finite dictionaries

A dictionary is an association list in which `put` replaces the previous entry of its key.  Only
`get` observes it; the simp lemmas below say what `get` answers after each operation.
-/

namespace Dictionary

/-- A dictionary with keys `κ` and values `α`. -/
abbrev Dict (κ α : Type*) := List (κ × α)

variable {κ α : Type*} [DecidableEq κ]

/-- The value stored under a key. -/
def get (d : Dict κ α) (k : κ) : Option α := List.lookup k d

/-- Remove the entry of a key. -/
def remove (d : Dict κ α) (k : κ) : Dict κ α := d.filter fun p => decide (p.1 ≠ k)

/-- Store a value under a key, replacing the previous one. -/
def put (d : Dict κ α) (k : κ) (v : α) : Dict κ α := (k, v) :: remove d k

@[simp] theorem get_nil (k : κ) : get ([] : Dict κ α) k = none := rfl

theorem get_cons (p : κ × α) (d : Dict κ α) (k : κ) :
    get (p :: d) k = if k = p.1 then some p.2 else get d k := by
  unfold get
  rw [List.lookup_cons]
  by_cases h : k = p.1
  · simp [h]
  · rw [if_neg h, beq_eq_false_iff_ne.2 h]

@[simp] theorem get_remove_self (d : Dict κ α) (k : κ) : get (remove d k) k = none := by
  induction d with
  | nil => rfl
  | cons p d ih =>
    unfold remove at ih ⊢
    rw [List.filter_cons]
    split_ifs with h
    · have hpk : p.1 ≠ k := by simpa using h
      rw [get_cons, if_neg hpk.symm, ih]
    · exact ih

@[simp] theorem get_remove_of_ne (d : Dict κ α) {k k' : κ} (h : k' ≠ k) :
    get (remove d k) k' = get d k' := by
  induction d with
  | nil => rfl
  | cons p d ih =>
    unfold remove at ih ⊢
    rw [List.filter_cons]
    split_ifs with hp
    · rw [get_cons, get_cons, ih]
    · have hpk : p.1 = k := by simpa using hp
      rw [ih, get_cons, if_neg (by rw [hpk]; exact h)]

@[simp] theorem get_put_self (d : Dict κ α) (k : κ) (v : α) : get (put d k v) k = some v := by
  simp [put, get_cons]

@[simp] theorem get_put_of_ne (d : Dict κ α) {k k' : κ} (v : α) (h : k' ≠ k) :
    get (put d k v) k' = get d k' := by
  simp [put, get_cons, h]

theorem get_put (d : Dict κ α) (k k' : κ) (v : α) :
    get (put d k v) k' = if k' = k then some v else get d k' := by
  split_ifs with h
  · rw [h, get_put_self]
  · rw [get_put_of_ne d v h]

theorem get_remove (d : Dict κ α) (k k' : κ) :
    get (remove d k) k' = if k' = k then none else get d k' := by
  split_ifs with h
  · rw [h, get_remove_self]
  · rw [get_remove_of_ne d h]

/-- The keys are the first components of the entries. -/
theorem get_isSome_iff (d : Dict κ α) (k : κ) : (get d k).isSome ↔ k ∈ d.map Prod.fst := by
  induction d with
  | nil => simp
  | cons p d ih =>
    rw [get_cons, List.map_cons, List.mem_cons, ← ih]
    split_ifs with h
    · simp [h]
    · simp [h]

end Dictionary
