import SimuladorSO.Library.Dictionary

/-!
# Names registered one after another

A register keeps three things of the entries `rs` that reach it one after another, each a name with
two values: the list of the names, each once; by name, the first value of the first entry; and, by
name, the second value of the last one.

* `Registered`: the three are those of the entries;
* `Registered.first`, `Registered.again`: one more entry, with a new name or one already there;
* `find?_of_finer`: the first entry for a coarse test is also the first for a finer one that it
  passes.
-/

namespace Naming

open Dictionary

variable {κ α β : Type*}

/-- The first for a test is the first for any finer test that it passes. -/
theorem find?_of_finer {γ : Type*} {p q : γ → Bool} {l : List γ} {x : γ}
    (hpq : ∀ y, q y = true → p y = true) (h : l.find? p = some x) (hx : q x = true) :
    l.find? q = some x := by
  obtain ⟨-, as, bs, rfl, has⟩ := List.find?_eq_some_iff_append.1 h
  refine List.find?_eq_some_iff_append.2 ⟨hx, as, bs, rfl, fun y hy => ?_⟩
  have hy' := has y hy
  cases hq : q y with
  | false => rfl
  | true =>
    rw [hpq y hq] at hy'
    cases hy'

/-- One more copy of an element is never the first. -/
theorem find?_append_mem {l : List κ} {n : κ} (hn : n ∈ l) (p : κ → Bool) :
    (l ++ [n]).find? p = l.find? p := by
  rw [List.find?_append]
  cases hl : l.find? p with
  | some m => rfl
  | none => simpa using List.find?_eq_none.1 hl n hn

variable [DecidableEq κ]

/-- What is known of the entries `rs`. -/
structure Registered (rs : List (κ × α × β)) (names : List κ) (firsts : Dict κ α)
    (lasts : Dict κ β) : Prop where
  names : ∀ p, names.find? p = (rs.map Prod.fst).find? p
  firsts : ∀ n, get firsts n = (rs.find? (·.1 = n)).map fun r => r.2.1
  lasts : ∀ n, get lasts n = (rs.reverse.find? (·.1 = n)).map fun r => r.2.2

variable {rs : List (κ × α × β)} {names : List κ} {firsts : Dict κ α} {lasts : Dict κ β} {n : κ}

theorem Registered.empty : Registered ([] : List (κ × α × β)) [] [] [] :=
  ⟨fun _ => rfl, fun _ => rfl, fun _ => rfl⟩

theorem Registered.isSome_names (h : Registered rs names firsts lasts) (p : κ → Bool) :
    (names.find? p).isSome = true ↔ ∃ r ∈ rs, p r.1 = true := by
  rw [h.names, List.find?_isSome]
  simp only [List.mem_map, exists_exists_and_eq_and]

theorem Registered.isSome_firsts (h : Registered rs names firsts lasts) (n : κ) :
    (get firsts n).isSome = true ↔ ∃ r ∈ rs, r.1 = n := by
  rw [h.firsts, Option.isSome_map, List.find?_isSome]
  simp only [decide_eq_true_eq]

/-- A name with a first value has a last one. -/
theorem Registered.lasts_of_mem (h : Registered rs names firsts lasts) (hn : ∃ r ∈ rs, r.1 = n) :
    ∃ r ∈ rs, r.1 = n ∧ get lasts n = some r.2.2 := by
  obtain ⟨r₀, hr₀, hname⟩ := hn
  have hsome : (rs.reverse.find? (·.1 = n)).isSome = true :=
    List.find?_isSome.2 ⟨r₀, List.mem_reverse.2 hr₀, decide_eq_true hname⟩
  obtain ⟨r, hr⟩ := Option.isSome_iff_exists.1 hsome
  have hmatch := List.find?_some hr
  refine ⟨r, List.mem_reverse.1 (List.mem_of_find?_eq_some hr), of_decide_eq_true hmatch, ?_⟩
  rw [h.lasts, hr]
  rfl

/-- The last values after one more entry. -/
theorem Registered.lasts_put (h : Registered rs names firsts lasts) (n : κ) (a : α) (b : β)
    (m : κ) : get (put lasts n b) m =
      ((rs ++ [(n, a, b)]).reverse.find? (·.1 = m)).map fun r => r.2.2 := by
  rw [List.reverse_append, List.reverse_singleton, List.singleton_append, List.find?_cons, get_put]
  by_cases hm : m = n
  · rw [if_pos hm, hm, decide_eq_true rfl]
    rfl
  · rw [if_neg hm, decide_eq_false (Ne.symm hm), h.lasts]

/-- The names after one more entry with a name already there. -/
theorem Registered.again (h : Registered rs names firsts lasts)
    (hn : (get firsts n).isSome = true) (a : α) (b : β) :
    Registered (rs ++ [(n, a, b)]) names firsts (put lasts n b) where
  names p := by
    obtain ⟨r, hr, hname⟩ := (h.isSome_firsts n).1 hn
    rw [List.map_append, List.map_singleton, h.names,
      find?_append_mem (List.mem_map.2 ⟨r, hr, hname⟩)]
  firsts m := by
    rw [h.firsts, List.find?_append]
    by_cases hm : n = m
    · rw [h.firsts, Option.isSome_map] at hn
      obtain ⟨r, hr⟩ := Option.isSome_iff_exists.1 hn
      rw [← hm, hr]
      rfl
    · rw [List.find?_singleton, decide_eq_false hm, if_neg Bool.false_ne_true, Option.or_none]
  lasts := h.lasts_put n a b

/-- A first entry of its name. -/
theorem Registered.first (h : Registered rs names firsts lasts)
    (hn : ¬ (get firsts n).isSome = true) (a : α) (b : β) :
    Registered (rs ++ [(n, a, b)]) (names ++ [n]) (put firsts n a) (put lasts n b) where
  names p := by
    rw [List.map_append, List.map_singleton, List.find?_append, List.find?_append, h.names]
  firsts m := by
    rw [get_put, List.find?_append, List.find?_singleton]
    by_cases hm : m = n
    · rw [h.firsts, Option.isSome_map, Bool.not_eq_true, Option.isSome_eq_false_iff,
        Option.isNone_iff_eq_none] at hn
      rw [if_pos hm, hm, hn, decide_eq_true rfl]
      rfl
    · rw [if_neg hm, decide_eq_false (Ne.symm hm), if_neg Bool.false_ne_true, Option.or_none,
        h.firsts]
  lasts := h.lasts_put n a b

end Naming
