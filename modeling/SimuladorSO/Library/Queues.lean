import Mathlib.Tactic

/-!
# Elements placed in queues

A family of queues and a placement function that says of each element which queue it is in.

* `Placed queues place`: every queue is free of duplicates and holds the elements placed in it;
  hence no element is in two queues, or twice in one (`Placed.count_eq`);
* `push` and `erase` move one element and its placement together;
* `Precedes c p q`: `p` stands before `q`; `Ahead c p q`: `q` is not there, or behind `p`;
* `Moves quits c c'`: what can happen to a first-in first-out queue.  As long as `p` stays, nobody
  behind it gets out but by giving up (`Moves.precedes`), or in front of it (`Moves.ahead`);
* `serve queues ls`: requests that pop the queues they name; each queue loses as many elements from
  its head, in their order, as requests name it (`poppedFrom_serve`, `remaining_cons`).
-/

namespace Queues

variable {ι α : Type*}

/-- Every queue holds, once each, the elements placed in it. -/
structure Placed (queues : ι → List α) (place : α → Option ι) : Prop where
  nodup : ∀ l, (queues l).Nodup
  mem_iff : ∀ l p, p ∈ queues l ↔ place p = some l

variable {queues : ι → List α} {place : α → Option ι} {l : ι} {p q : α} {ps : List α}

/-- Nothing placed. -/
theorem Placed.empty : Placed (fun _ : ι => ([] : List α)) fun _ => none where
  nodup _ := List.nodup_nil
  mem_iff := by simp

/-- The first element of a queue is placed in it. -/
theorem Placed.place_head (h : Placed queues place) (hq : queues l = p :: ps) :
    place p = some l :=
  (h.mem_iff l p).1 (by rw [hq]; exact List.mem_cons_self)

/-- An element is in one queue. -/
theorem Placed.eq_of_mem {m : ι} (h : Placed queues place) (hl : p ∈ queues l)
    (hm : p ∈ queues m) : l = m := by
  rw [h.mem_iff] at hl hm
  exact Option.some.inj (hl.symm.trans hm)

variable [DecidableEq ι] [DecidableEq α]

/-- An element that is in no queue is added at the end of one. -/
theorem Placed.push (h : Placed queues place) (hp : place p = none) (l : ι) :
    Placed (Function.update queues l (queues l ++ [p])) (Function.update place p (some l)) where
  nodup m := by
    rw [Function.update_apply]
    split_ifs with hm
    · refine List.nodup_append.2 ⟨h.nodup l, List.nodup_singleton p, fun a ha b hb => ?_⟩
      rintro rfl
      rw [h.mem_iff, List.mem_singleton.1 hb, hp] at ha
      cases ha
    · exact h.nodup m
  mem_iff m q := by
    rw [Function.update_apply, Function.update_apply]
    by_cases hm : m = l <;> by_cases hq : q = p
    · simp [hm, hq]
    · simp [hm, hq, h.mem_iff]
    · simp [hm, hq, h.mem_iff, hp, Ne.symm hm]
    · simp [hm, hq, h.mem_iff]

/-- An element is taken out of its queue. -/
theorem Placed.erase (h : Placed queues place) (hp : place p = some l) :
    Placed (Function.update queues l ((queues l).erase p)) (Function.update place p none) where
  nodup m := by
    rw [Function.update_apply]
    split_ifs
    · exact (h.nodup l).erase p
    · exact h.nodup m
  mem_iff m q := by
    rw [Function.update_apply, Function.update_apply]
    by_cases hm : m = l <;> by_cases hq : q = p
    · simp [hm, hq, (h.nodup l).mem_erase_iff]
    · simp [hm, hq, (h.nodup l).mem_erase_iff, h.mem_iff]
    · simp [hm, hq, h.mem_iff, hp, Ne.symm hm]
    · simp [hm, hq, h.mem_iff]

/-- How often an element occurs in a queue. -/
theorem Placed.count_eq (h : Placed queues place) (l : ι) (p : α) :
    (queues l).count p = if place p = some l then 1 else 0 := by
  rw [List.Nodup.count (h.nodup l)]
  simp only [h.mem_iff]

/-! ### Order -/

/-- `p` stands before `q` in the queue. -/
def Precedes {α : Type*} (c : List α) (p q : α) : Prop := List.Sublist [p, q] c

section Precedes

variable {α : Type*} {c : List α} {p q a : α}

theorem Precedes.append (h : Precedes c p q) (d : List α) : Precedes (c ++ d) p q :=
  List.Sublist.trans h (List.sublist_append_left c d)

/-- The first element leaves: two others keep their order. -/
theorem Precedes.of_cons (h : Precedes (a :: c) p q) (hp : p ≠ a) : Precedes c p q := by
  cases h with
  | cons _ h => exact h
  | cons_cons _ h => exact absurd rfl hp

/-- Another element is taken out. -/
theorem Precedes.erase [DecidableEq α] (h : Precedes c p q) (hp : p ≠ a) (hq : q ≠ a) :
    Precedes (c.erase a) p q := by
  have hs := List.Sublist.erase a h
  rwa [List.erase_cons_tail (by simpa using hp), List.erase_cons_tail (by simpa using hq),
    List.erase_nil] at hs

/-- Elements leave at the head: two that stay keep their order. -/
theorem Precedes.drop (h : Precedes c p q) (hnodup : c.Nodup) {n : ℕ} (hp : p ∈ c.drop n) :
    Precedes (c.drop n) p q := by
  induction n generalizing c with
  | zero => simpa using h
  | succ n ih =>
    cases c with
    | nil => simp at hp
    | cons a c =>
      rw [List.drop_succ_cons] at hp ⊢
      rw [List.nodup_cons] at hnodup
      refine ih (h.of_cons ?_) hnodup.2 hp
      rintro rfl
      exact hnodup.1 (List.mem_of_mem_drop hp)

theorem precedes_append_singleton (hp : p ∈ c) (q : α) : Precedes (c ++ [q]) p q := by
  have hs : List.Sublist ([p] ++ [q]) (c ++ [q]) :=
    List.Sublist.append (List.singleton_sublist.2 hp) (List.Sublist.refl [q])
  exact hs

/-- `q` is not in the queue, or it is behind `p`. -/
def Ahead {α : Type*} (c : List α) (p q : α) : Prop := q ∈ c → Precedes c p q

/-- What can happen to a first-in first-out queue: elements leave at the head, one comes in at the
end, or one gives up and others leave at the head. -/
inductive Moves [DecidableEq α] (quits : α → Prop) (c : List α) : List α → Prop
  | leave (n : ℕ) : Moves quits c (c.drop n)
  | enter (a : α) (ha : a ∉ c) : Moves quits c (c ++ [a])
  | quit (a : α) (n : ℕ) (ha : quits a) : Moves quits c ((c.erase a).drop n)

variable [DecidableEq α] {quits : α → Prop} {c' : List α}

/-- Nobody overtakes one who stays: those behind it stay behind it, unless they give up. -/
theorem Moves.precedes (h : Moves quits c c') (hnodup : c.Nodup) (hpq : Precedes c p q)
    (hp : p ∈ c') (hq : ¬ quits q) : Precedes c' p q := by
  cases h with
  | leave n => exact hpq.drop hnodup hp
  | enter a ha => exact hpq.append [a]
  | quit a n ha =>
    have hqa : q ≠ a := fun h => hq (h ▸ ha)
    have hpa : p ≠ a := by
      rintro rfl
      exact (hnodup.not_mem_erase) (List.mem_of_mem_drop hp)
    exact (hpq.erase hpa hqa).drop (hnodup.erase a) hp

/-- Nobody gets in front of one who stays. -/
theorem Moves.ahead (h : Moves quits c c') (hnodup : c.Nodup) (hpq : Ahead c p q) (hp0 : p ∈ c)
    (hp : p ∈ c') : Ahead c' p q := by
  intro hq
  cases h with
  | leave n => exact (hpq (List.mem_of_mem_drop hq)).drop hnodup hp
  | enter a ha =>
    rcases List.mem_append.1 hq with hq | hq
    · exact (hpq hq).append [a]
    · rw [List.mem_singleton.1 hq]
      exact precedes_append_singleton hp0 a
  | quit a n ha =>
    have hqe : q ∈ c.erase a := List.mem_of_mem_drop hq
    have hqa : q ≠ a := by
      rintro rfl
      exact hnodup.not_mem_erase hqe
    have hpa : p ≠ a := by
      rintro rfl
      exact hnodup.not_mem_erase (List.mem_of_mem_drop hp)
    exact ((hpq (List.mem_of_mem_erase hqe)).erase hpa hqa).drop (hnodup.erase a) hp

end Precedes

/-! ### Requests that pop -/

section Serve

variable {ι α : Type*} [DecidableEq ι]

/-- Each request pops the queue that it names, unless that is empty; what it pops is kept with the
name. -/
def serve (queues : ι → List α) : List ι → List (ι × α)
  | [] => []
  | l :: ls =>
    ((queues l).head?.map (Prod.mk l)).toList ++
      serve (Function.update queues l (queues l).tail) ls

/-- The elements that the requests have popped from a queue. -/
def poppedFrom (l : ι) (popped : List (ι × α)) : List α :=
  (popped.filter fun x => x.1 = l).map Prod.snd

/-- The queues once the requests have been served. -/
def remaining (queues : ι → List α) (ls : List ι) (l : ι) : List α := (queues l).drop (ls.count l)

variable {queues : ι → List α} {l : ι} {ls : List ι}

theorem remaining_nil : remaining queues [] = queues := by
  funext l
  simp [remaining]

/-- The first request may be served on its own. -/
theorem remaining_cons :
    remaining queues (l :: ls) = remaining (Function.update queues l (queues l).tail) ls := by
  funext m
  simp only [remaining, Function.update_apply, List.count_cons]
  by_cases hm : m = l
  · simp [hm, List.drop_tail]
  · simp [hm, Ne.symm hm]

/-- Every queue loses its first elements, in their order, one for each request that names it. -/
theorem poppedFrom_serve (queues : ι → List α) (ls : List ι) (l : ι) :
    poppedFrom l (serve queues ls) = (queues l).take (ls.count l) := by
  induction ls generalizing queues with
  | nil => simp [serve, poppedFrom]
  | cons m ls ih =>
    have hrest := ih (Function.update queues m (queues m).tail)
    rw [poppedFrom] at hrest
    rw [serve, poppedFrom, List.filter_append, List.map_append, hrest, List.count_cons,
      Function.update_apply]
    by_cases hm : l = m
    · subst hm
      cases hq : queues l with
      | nil => simp
      | cons a c => simp
    · cases hq : queues m with
      | nil => simp [hm, Ne.symm hm]
      | cons a c => simp [hm, Ne.symm hm]

end Serve

end Queues
