import Mathlib.Tactic

/-!
# Caches as lists with replacement

A cache is a list of entries, oldest first, looked up by the key of the first match.  An entry is
loaded by dropping the oldest and adding the new one at the end (`load`), and refreshed by moving
it to the end (`refresh`).

* `Unique key real c`: the keys satisfying `real` occur once (the others are placeholders);
* `Coherent key val alive source c`: the entries of live keys hold the value of their source;
* both are kept by `load` and `refresh`, and a coherent cache answers for a live key only what the
  source does (`Coherent.find_eq`);
* `map_load`, `map_refresh`: what they do to the keys.
-/

namespace Cache

variable {ε κ ρ : Type*} [DecidableEq κ]

/-- The first entry with the key. -/
def find (key : ε → κ) (c : List ε) (k : κ) : Option ε := c.find? fun e => key e = k

/-- Drop the oldest entry and add a new one as the latest. -/
def load (c : List ε) (e : ε) : List ε := c.tail ++ [e]

/-- Move the entry of a key, given as `e`, to the end. -/
def refresh (key : ε → κ) (c : List ε) (k : κ) (e : ε) : List ε :=
  c.eraseP (fun e => key e = k) ++ [e]

/-- The keys satisfying `real` occur once. -/
def Unique (key : ε → κ) (real : κ → Prop) (c : List ε) : Prop :=
  c.Pairwise fun a b => real (key a) → key a ≠ key b

/-- The entries of live keys hold the value of their source. -/
def Coherent (key : ε → κ) (val : ε → ρ) (alive : κ → Prop) (source : κ → ρ) (c : List ε) : Prop :=
  ∀ e ∈ c, alive (key e) → val e = source (key e)

variable {key : ε → κ} {val : ε → ρ} {real alive : κ → Prop} {source : κ → ρ} {c : List ε} {e : ε}
  {k : κ}

theorem find_some (h : find key c k = some e) : e ∈ c ∧ key e = k :=
  ⟨List.mem_of_find?_eq_some h, by simpa using List.find?_some h⟩

theorem find_eq_none_iff : find key c k = none ↔ ∀ e ∈ c, key e ≠ k := by
  simp [find]

/-- With unique keys every entry is the one that its key finds. -/
theorem Unique.find_eq (h : Unique key real c) (hr : real k) (he : e ∈ c) (hk : key e = k) :
    find key c k = some e := by
  induction c with
  | nil => cases he
  | cons a c ih =>
    obtain ⟨ha, hc⟩ := List.pairwise_cons.1 h
    unfold find
    rw [List.find?_cons]
    rcases List.mem_cons.1 he with rfl | he
    · simp [hk]
    · by_cases hak : key a = k
      · exact absurd (hak.trans hk.symm) (ha e he (hak ▸ hr))
      · simp only [hak, decide_false]
        exact ih hc he

/-! ### Replacement -/

theorem mem_load {e' : ε} (h : e' ∈ load c e) : e' ∈ c ∨ e' = e := by
  rcases List.mem_append.1 h with h | h
  · exact Or.inl (List.mem_of_mem_tail h)
  · exact Or.inr (List.mem_singleton.1 h)

theorem mem_refresh {e' : ε} (h : e' ∈ refresh key c k e) : e' ∈ c ∨ e' = e := by
  rcases List.mem_append.1 h with h | h
  · exact Or.inl (List.mem_of_mem_eraseP h)
  · exact Or.inr (List.mem_singleton.1 h)

omit [DecidableEq κ] in
/-- An entry is added at the end of a cache that has none with its key. -/
theorem Unique.concat (h : Unique key real c) (hne : ∀ a ∈ c, real (key a) → key a ≠ key e) :
    Unique key real (c ++ [e]) := by
  refine List.pairwise_append.2 ⟨h, List.pairwise_singleton _ _, fun a ha b hb => ?_⟩
  rw [List.mem_singleton.1 hb]
  exact hne a ha

theorem Unique.load (h : Unique key real c) (hnone : find key c (key e) = none) :
    Unique key real (load c e) :=
  Unique.concat (List.Pairwise.sublist (List.tail_sublist c) h) fun a ha _ =>
    find_eq_none_iff.1 hnone a (List.mem_of_mem_tail ha)

/-- Once the first entry with a real key is erased, no other has it. -/
theorem Unique.eraseP_ne (h : Unique key real c) (hr : real k) :
    ∀ a ∈ c.eraseP (fun e => key e = k), key a ≠ k := by
  induction c with
  | nil => simp
  | cons a c ih =>
    obtain ⟨ha, hc⟩ := List.pairwise_cons.1 h
    intro b hb
    by_cases hak : key a = k
    · rw [List.eraseP_cons_of_pos (by simpa using hak)] at hb
      rw [← hak]
      exact (ha b hb (hak ▸ hr)).symm
    · rw [List.eraseP_cons_of_neg (by simpa using hak)] at hb
      rcases List.mem_cons.1 hb with rfl | hb
      · exact hak
      · exact ih hc b hb

theorem Unique.refresh (h : Unique key real c) (hk : key e = k) :
    Unique key real (refresh key c k e) := by
  refine Unique.concat (List.Pairwise.sublist List.eraseP_sublist h) fun a ha hreal hak => ?_
  rw [hk] at hak
  exact h.eraseP_ne (hak ▸ hreal) a ha hak

omit [DecidableEq κ] in
theorem Coherent.of_mem {c' : List ε} (h : Coherent key val alive source c)
    (he : alive (key e) → val e = source (key e)) (hmem : ∀ e' ∈ c', e' ∈ c ∨ e' = e) :
    Coherent key val alive source c' := by
  intro e' he'
  rcases hmem e' he' with hc | rfl
  · exact h e' hc
  · exact he

/-- What a coherent cache finds for a live key. -/
theorem Coherent.find_eq (h : Coherent key val alive source c) (ha : alive k)
    (hf : find key c k = some e) : val e = source k := by
  obtain ⟨he, rfl⟩ := find_some hf
  exact h e he ha

/-- A cache with unique live keys is coherent when it answers for each of them what the source
does. -/
theorem Unique.coherent (h : Unique key real c) (hreal : ∀ k, alive k → real k)
    (hf : ∀ k e, alive k → find key c k = some e → val e = source k) :
    Coherent key val alive source c := fun e he ha =>
  hf (key e) e ha (h.find_eq (hreal _ ha) he rfl)

/-! ### The keys of a cache -/

/-- Only a key of the cache is found. -/
theorem find_eq_none_iff_notMem : find key c k = none ↔ k ∉ c.map key := by
  rw [find_eq_none_iff, List.mem_map]
  push Not
  rfl

omit [DecidableEq κ] in
theorem map_load (c : List ε) (e : ε) : (load c e).map key = (c.map key).tail ++ [key e] := by
  unfold load
  rw [List.map_append, List.map_tail, List.map_singleton]

theorem map_eraseP (c : List ε) (k : κ) :
    (c.eraseP fun e => key e = k).map key = (c.map key).erase k := by
  induction c with
  | nil => rfl
  | cons e c ih =>
    by_cases hk : key e = k
    · rw [List.eraseP_cons_of_pos (by simpa using hk), List.map_cons, hk, List.erase_cons_head]
    · rw [List.eraseP_cons_of_neg (by simpa using hk), List.map_cons, List.map_cons, ih,
        List.erase_cons_tail (by simpa using hk)]

theorem map_refresh (c : List ε) (k : κ) (e : ε) :
    (refresh key c k e).map key = (c.map key).erase k ++ [key e] := by
  unfold refresh
  rw [List.map_append, map_eraseP, List.map_singleton]

end Cache
