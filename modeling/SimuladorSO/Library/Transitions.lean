import Mathlib.Tactic

/-!
# Partial transition systems and their runs

A transition system is given by a partial step function `step : σ → ε → Option σ`; an event with
no successor (`none`) does not happen, or never completes.  `run` executes a list of events.

* `Reachable step s t`: some run leads from `s` to `t`; `Reachable.induct` is its invariant rule;
* `Meets step C s es`: every step taken along `es` satisfies the condition `C`;
* `Along step P s es`: `P` holds at every state visited, the first one included;
* `along_of_meets`, `along_iff_meets`: from one step to a whole run, for the first direction and
  for both;
* `run_length_le`: events that lower a measure come to an end;
* `total step f s es`: what the steps contribute to a quantity; `run_total` is its rule;
* `run_refines`: forward simulation by a total abstract step function;
* `paired`, `run_refines_of_admits`: the same, where both sides say which events there may be.
-/

namespace Transitions

variable {σ ε α : Type*}

/-- Execute the events one after another. -/
def run (step : σ → ε → Option σ) : σ → List ε → Option σ
  | s, [] => some s
  | s, e :: es => (step s e).bind fun t => run step t es

variable {step : σ → ε → Option σ} {s t u : σ} {e : ε} {es fs : List ε}

@[simp] theorem run_nil : run step s [] = some s := rfl

theorem run_cons : run step s (e :: es) = (step s e).bind fun t => run step t es := rfl

theorem run_cons_eq_some :
    run step s (e :: es) = some u ↔ ∃ t, step s e = some t ∧ run step t es = some u := by
  rw [run_cons, Option.bind_eq_some_iff]

theorem run_append : run step s (es ++ fs) = (run step s es).bind fun t => run step t fs := by
  induction es generalizing s with
  | nil => rfl
  | cons e es ih =>
    rw [List.cons_append, run_cons, run_cons, Option.bind_assoc]
    simp only [ih]

/-! ### Reachable states -/

/-- Some run leads from `s` to `t`. -/
def Reachable (step : σ → ε → Option σ) (s t : σ) : Prop := ∃ es, run step s es = some t

/-- The invariant rule for reachable states. -/
theorem Reachable.induct {P : σ → Prop} (h0 : P s)
    (hstep : ∀ t e u, P t → step t e = some u → P u) (h : Reachable step s t) : P t := by
  obtain ⟨es, hes⟩ := h
  induction es generalizing s with
  | nil => cases hes; exact h0
  | cons e es ih =>
    obtain ⟨v, hv, hrun⟩ := run_cons_eq_some.1 hes
    exact ih (hstep s e v h0 hv) hrun

/-! ### Conditions on the steps and properties of the states of a run -/

/-- Every step taken along `es` from `s` satisfies `C`. -/
def Meets (step : σ → ε → Option σ) (C : σ → ε → Prop) : σ → List ε → Prop
  | _, [] => True
  | s, e :: es => ∀ t, step s e = some t → C s e ∧ Meets step C t es

/-- A run meets a condition that its events satisfy at every state. -/
theorem meets_of_forall {C : σ → ε → Prop} (h : ∀ e ∈ es, ∀ s, C s e) (s : σ) :
    Meets step C s es := by
  induction es generalizing s with
  | nil => trivial
  | cons e es ih =>
    exact fun t _ => ⟨h e List.mem_cons_self s,
      ih (fun e' he' => h e' (List.mem_cons_of_mem _ he')) t⟩

theorem Meets.append {C : σ → ε → Prop} (h : Meets step C s es)
    (hrest : ∀ t, run step s es = some t → Meets step C t fs) : Meets step C s (es ++ fs) := by
  induction es generalizing s with
  | nil => exact hrest s rfl
  | cons e es ih =>
    intro t ht
    obtain ⟨hc, hmeets⟩ := h t ht
    exact ⟨hc, ih hmeets fun u hu => hrest u (run_cons_eq_some.2 ⟨t, ht, hu⟩)⟩

theorem Meets.and {C D : σ → ε → Prop} (h : Meets step C s es) (h' : Meets step D s es) :
    Meets step (fun s e => C s e ∧ D s e) s es := by
  induction es generalizing s with
  | nil => trivial
  | cons e es ih =>
    intro t ht
    obtain ⟨hc, hrest⟩ := h t ht
    obtain ⟨hd, hrest'⟩ := h' t ht
    exact ⟨⟨hc, hd⟩, ih hrest hrest'⟩

/-- Every state visited along `es` from `s` satisfies `P`. -/
def Along (step : σ → ε → Option σ) (P : σ → Prop) : σ → List ε → Prop
  | s, [] => P s
  | s, e :: es => P s ∧ ∀ t, step s e = some t → Along step P t es

theorem Along.head {P : σ → Prop} (h : Along step P s es) : P s := by
  cases es with
  | nil => exact h
  | cons e es => exact h.1

theorem Along.imp {P Q : σ → Prop} (h : Along step P s es) (himp : ∀ s, P s → Q s) :
    Along step Q s es := by
  induction es generalizing s with
  | nil => exact himp s h
  | cons e es ih => exact ⟨himp s h.1, fun t ht => ih (h.2 t ht)⟩

theorem Along.last {P : σ → Prop} (h : Along step P s es) (hrun : run step s es = some t) :
    P t := by
  induction es generalizing s with
  | nil => cases hrun; exact h
  | cons e es ih =>
    obtain ⟨v, hv, hr⟩ := run_cons_eq_some.1 hrun
    exact ih (h.2 v hv) hr

/-- What an invariant of the steps implies holds along every run. -/
theorem along_of_invariant {I P : σ → Prop} (hinv : ∀ s e t, I s → step s e = some t → I t)
    (himp : ∀ s, I s → P s) (h0 : I s) : Along step P s es := by
  induction es generalizing s with
  | nil => exact himp s h0
  | cons e es ih => exact ⟨himp s h0, fun t ht => ih (hinv s e t h0 ht)⟩

/-- What is kept by the steps between states satisfying `P`, for the events satisfying `C`, is kept
along a run of such events through such states. -/
theorem Along.carry {I P Q : σ → Prop} {C : ε → Prop}
    (hinv : ∀ s e t, I s → step s e = some t → I t)
    (hstep : ∀ s e t, I s → C e → P s → P t → Q s → step s e = some t → Q t) (hi : I s)
    (hC : ∀ e ∈ es, C e) (h : Along step P s es) (hq : Q s) : Along step Q s es := by
  induction es generalizing s with
  | nil => exact hq
  | cons e es ih =>
    refine ⟨hq, fun t ht => ?_⟩
    have hrest := h.2 t ht
    exact ih (hinv s e t hi ht) (fun e' he' => hC e' (List.mem_cons_of_mem _ he')) hrest
      (hstep s e t hi (hC e List.mem_cons_self) h.head hrest.head hq ht)

/-- What every step satisfying `C` preserves holds along every run whose steps satisfy `C`. -/
theorem along_of_meets {P : σ → Prop} {C : σ → ε → Prop}
    (hstep : ∀ s e t, P s → C s e → step s e = some t → P t) (h0 : P s)
    (h : Meets step C s es) : Along step P s es := by
  induction es generalizing s with
  | nil => exact h0
  | cons e es ih =>
    refine ⟨h0, fun t ht => ?_⟩
    obtain ⟨hc, hrest⟩ := h t ht
    exact ih (hstep s e t h0 hc ht) hrest

/-- If a step from a good state leads to a good state exactly when it satisfies `C`, then all
states of a run are good exactly when all its steps satisfy `C`.  `I` is an invariant of the
steps that `hstep` may use. -/
theorem along_iff_meets {I P : σ → Prop} {C : σ → ε → Prop}
    (hinv : ∀ s e t, I s → step s e = some t → I t)
    (hstep : ∀ s e t, I s → P s → step s e = some t → (P t ↔ C s e)) (hi : I s) (h0 : P s) :
    Along step P s es ↔ Meets step C s es := by
  induction es generalizing s with
  | nil => exact iff_of_true h0 trivial
  | cons e es ih =>
    constructor
    · rintro ⟨-, h⟩ t ht
      have hc : C s e := (hstep s e t hi h0 ht).1 (h t ht).head
      have ht0 : P t := (hstep s e t hi h0 ht).2 hc
      exact ⟨hc, (ih (hinv s e t hi ht) ht0).1 (h t ht)⟩
    · intro h
      refine ⟨h0, fun t ht => ?_⟩
      obtain ⟨hc, hrest⟩ := h t ht
      exact (ih (hinv s e t hi ht) ((hstep s e t hi h0 ht).2 hc)).2 hrest

/-- Every event of the run satisfies `C` at the state it meets. -/
def Admits (step : σ → ε → Option σ) (C : σ → ε → Prop) : σ → List ε → Prop
  | _, [] => True
  | s, e :: es => C s e ∧ ∀ t, step s e = some t → Admits step C t es

instance Admits.decidable {C : σ → ε → Prop} [∀ s e, Decidable (C s e)] :
    (s : σ) → (es : List ε) → Decidable (Admits step C s es)
  | _, [] => isTrue trivial
  | s, e :: es =>
    match h : step s e with
    | none =>
      decidable_of_iff (C s e) ⟨fun hc => ⟨hc, fun t ht => by rw [h] at ht; cases ht⟩, And.left⟩
    | some t =>
      have : Decidable (Admits step C t es) := Admits.decidable t es
      decidable_of_iff (C s e ∧ Admits step C t es)
        ⟨fun hc => ⟨hc.1, fun u hu => by rw [h] at hu; cases hu; exact hc.2⟩,
          fun hc => ⟨hc.1, hc.2 t h⟩⟩

/-- A run of events that are admitted at every state. -/
theorem admits_of_forall {C : σ → ε → Prop} {D : ε → Prop} (hC : ∀ s e, D e → C s e)
    (h : ∀ e ∈ es, D e) (s : σ) : Admits step C s es := by
  induction es generalizing s with
  | nil => trivial
  | cons e es ih =>
    exact ⟨hC s e (h e List.mem_cons_self),
      fun t _ => ih (fun e' he' => h e' (List.mem_cons_of_mem _ he')) t⟩

/-- If admitted events have a step and preserve `P`, an admitted run completes and preserves `P`. -/
theorem run_of_admits {P : σ → Prop} {C : σ → ε → Prop}
    (hstep : ∀ s e, P s → C s e → ∃ t, step s e = some t ∧ P t) (h0 : P s)
    (h : Admits step C s es) : ∃ t, run step s es = some t ∧ P t := by
  induction es generalizing s with
  | nil => exact ⟨s, rfl, h0⟩
  | cons e es ih =>
    obtain ⟨v, hv, hP⟩ := hstep s e h0 h.1
    obtain ⟨t, ht, hPt⟩ := ih hP (h.2 v hv)
    exact ⟨t, run_cons_eq_some.2 ⟨v, hv, ht⟩, hPt⟩

theorem Admits.append {C : σ → ε → Prop} (h : Admits step C s (es ++ fs)) :
    Admits step C s es ∧ ∀ t, run step s es = some t → Admits step C t fs := by
  induction es generalizing s with
  | nil => exact ⟨trivial, fun t ht => Option.some.inj ht ▸ h⟩
  | cons e es ih =>
    refine ⟨⟨h.1, fun t ht => (ih (h.2 t ht)).1⟩, fun t hrun => ?_⟩
    obtain ⟨v, hv, hrest⟩ := run_cons_eq_some.1 hrun
    exact (ih (h.2 v hv)).2 t hrest

/-! ### Runs that come to rest -/

/-- A run of events that lower a measure is no longer than the measure. -/
theorem run_length_le {I : σ → Prop} {D : ε → Prop} {v : σ → ℕ}
    (hstep : ∀ s e t, I s → D e → step s e = some t → I t ∧ v t < v s) (h0 : I s)
    (hD : ∀ e ∈ es, D e) (h : run step s es = some t) : I t ∧ es.length + v t ≤ v s := by
  induction es generalizing s with
  | nil =>
    cases h
    exact ⟨h0, (Nat.zero_add _).le⟩
  | cons e es ih =>
    obtain ⟨u, hu, hrun⟩ := run_cons_eq_some.1 h
    obtain ⟨hI, hlt⟩ := hstep s e u h0 (hD e List.mem_cons_self) hu
    obtain ⟨ht, hle⟩ := ih hI (fun e' he' => hD e' (List.mem_cons_of_mem _ he')) hrun
    refine ⟨ht, ?_⟩
    rw [List.length_cons]
    omega

/-! ### Quantities that add up along a run -/

/-- What the steps of a run contribute, each at the state that it meets. -/
def total (step : σ → ε → Option σ) (f : σ → ε → ℤ) : σ → List ε → ℤ
  | _, [] => 0
  | s, e :: es => f s e + (step s e).elim 0 fun t => total step f t es

theorem total_cons {f : σ → ε → ℤ} (h : step s e = some t) :
    total step f s (e :: es) = f s e + total step f t es := by
  rw [total, h, Option.elim_some]

/-- A quantity that each step changes by its contribution changes by their total. -/
theorem run_total {I : σ → Prop} {v : σ → ℤ} {f : σ → ε → ℤ}
    (hinv : ∀ s e t, I s → step s e = some t → I t)
    (hstep : ∀ s e t, I s → step s e = some t → v t = v s + f s e) (h0 : I s)
    (h : run step s es = some t) : v t = v s + total step f s es := by
  induction es generalizing s with
  | nil =>
    cases h
    simp [total]
  | cons e es ih =>
    obtain ⟨u, hu, hrun⟩ := run_cons_eq_some.1 h
    rw [ih (hinv s e u h0 hu) hrun, hstep s e u h0 hu, total_cons hu, add_assoc]

theorem total_add (f g : σ → ε → ℤ) :
    total step (fun s e => f s e + g s e) s es = total step f s es + total step g s es := by
  induction es generalizing s with
  | nil => rfl
  | cons e es ih =>
    cases hs : step s e with
    | none => simp [total, hs]
    | some t =>
      rw [total_cons hs, total_cons hs, total_cons hs, ih]
      ring

/-- Contributions that do not depend on the state. -/
theorem total_eq_sum (g : ε → ℤ) (h : run step s es = some t) :
    total step (fun _ e => g e) s es = (es.map g).sum := by
  induction es generalizing s with
  | nil => rfl
  | cons e es ih =>
    obtain ⟨u, hu, hrun⟩ := run_cons_eq_some.1 h
    rw [total_cons hu, ih hrun, List.map_cons, List.sum_cons]

/-! ### Refinement -/

/-- Every event of the run is allowed (`Pre`) at the abstract state it meets. -/
def Allowed (astep : α → ε → α) (Pre : α → ε → Prop) : α → List ε → Prop
  | _, [] => True
  | a, e :: es => Pre a e ∧ Allowed astep Pre (astep a e) es

instance Allowed.decidable {astep : α → ε → α} {Pre : α → ε → Prop} [∀ a e, Decidable (Pre a e)] :
    (a : α) → (es : List ε) → Decidable (Allowed astep Pre a es)
  | _, [] => isTrue trivial
  | a, e :: es =>
    have : Decidable (Allowed astep Pre (astep a e) es) := Allowed.decidable (astep a e) es
    inferInstanceAs (Decidable (Pre a e ∧ Allowed astep Pre (astep a e) es))

/-- Forward simulation: if every allowed event has a concrete step that the abstract step
matches, then every allowed run completes and ends in a state related to the abstract one. -/
theorem run_refines {R : α → σ → Prop} {astep : α → ε → α} {Pre : α → ε → Prop}
    (hsim : ∀ a s e, R a s → Pre a e → ∃ t, step s e = some t ∧ R (astep a e) t) {a : α}
    (h : R a s) (hpre : Allowed astep Pre a es) :
    ∃ t, run step s es = some t ∧ R (es.foldl astep a) t := by
  induction es generalizing a s with
  | nil => exact ⟨s, rfl, h⟩
  | cons e es ih =>
    obtain ⟨v, hv, hR⟩ := hsim a s e h hpre.1
    obtain ⟨t, ht, hRt⟩ := ih hR hpre.2
    exact ⟨t, run_cons_eq_some.2 ⟨v, hv, ht⟩, hRt⟩

/-- A system next to a total abstract one that takes the same events. -/
def paired (astep : α → ε → α) (step : σ → ε → Option σ) (s : α × σ) (e : ε) : Option (α × σ) :=
  (step s.2 e).map fun t => (astep s.1 e, t)

/-- The abstract side of a run is a fold. -/
theorem run_paired {astep : α → ε → α} (a : α) (s : σ) (es : List ε) :
    run (paired astep step) (a, s) es = (run step s es).map fun t => (es.foldl astep a, t) := by
  induction es generalizing a s with
  | nil => rfl
  | cons e es ih =>
    rw [run_cons, run_cons, paired, Option.bind_map, Option.map_bind]
    exact Option.bind_congr fun t _ => ih (astep a e) t

/-- Forward simulation where the events are admitted by both sides together. -/
theorem run_refines_of_admits {R : α → σ → Prop} {astep : α → ε → α} {C : α × σ → ε → Prop}
    (hsim : ∀ a s e, R a s → C (a, s) e → ∃ t, step s e = some t ∧ R (astep a e) t) {a : α}
    (h : R a s) (hadm : Admits (paired astep step) C (a, s) es) :
    ∃ t, run step s es = some t ∧ R (es.foldl astep a) t := by
  have hpaso : ∀ (p : α × σ) e, R p.1 p.2 → C p e →
      ∃ q, paired astep step p e = some q ∧ R q.1 q.2 := by
    rintro ⟨a, s⟩ e hR hC
    obtain ⟨t, ht, hRt⟩ := hsim a s e hR hC
    exact ⟨(astep a e, t), by rw [paired, ht]; rfl, hRt⟩
  obtain ⟨⟨a', t⟩, hrun, hR⟩ := run_of_admits (P := fun p => R p.1 p.2) hpaso h hadm
  rw [run_paired] at hrun
  obtain ⟨t', ht', heq⟩ := Option.map_eq_some_iff.1 hrun
  obtain ⟨rfl, rfl⟩ := Prod.mk.inj heq
  exact ⟨t', ht', hR⟩

end Transitions
