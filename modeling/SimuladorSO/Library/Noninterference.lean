import SimuladorSO.Library.Transitions

/-!
# Noninterference

The events of a transition system have owners, and each owner sees a part of the state.  The two
unwinding conditions of `Separate` are about single steps: the others change nothing of what an
owner sees, and what it sees after a step of its own depends only on what it saw before.

* `Separate.run_congr`: two runs with the same events of the owner look the same to it, whatever
  the others do in each;
* `Separate.run_purge`: it cannot tell a run from the one in which only its own events are left.
-/

namespace Noninterference

open Transitions

variable {σ ε ι : Type*} [DecidableEq ι]

/-- The unwinding conditions for the owner `i`: `R` relates states that look the same to `i`, `I`
is an invariant, and `C` the condition that every event meets. -/
structure Separate (step : σ → ε → Option σ) (owner : ε → ι) (I : σ → Prop) (C : σ → ε → Prop)
    (R : σ → σ → Prop) (i : ι) : Prop where
  refl : ∀ s, R s s
  symm : ∀ s t, R s t → R t s
  trans : ∀ s t u, R s t → R t u → R s u
  inv : ∀ s e t, I s → C s e → step s e = some t → I t
  other : ∀ s e t, I s → C s e → owner e ≠ i → step s e = some t → R s t
  cond : ∀ s s' e, I s → I s' → R s s' → owner e = i → C s e → C s' e
  own : ∀ s s' e t, I s → I s' → R s s' → C s e → owner e = i → step s e = some t →
    ∃ t', step s' e = some t' ∧ R t t'

/-- The events of one owner. -/
def eventsOf (owner : ε → ι) (i : ι) (es : List ε) : List ε := es.filter fun e => owner e = i

variable {step : σ → ε → Option σ} {owner : ε → ι} {I : σ → Prop} {C : σ → ε → Prop}
  {R : σ → σ → Prop} {i : ι} {s s' t t' : σ} {e : ε} {es es' : List ε}

theorem eventsOf_cons_of_eq (h : owner e = i) :
    eventsOf owner i (e :: es) = e :: eventsOf owner i es :=
  List.filter_cons_of_pos (by simpa using h)

theorem eventsOf_cons_of_ne (h : owner e ≠ i) :
    eventsOf owner i (e :: es) = eventsOf owner i es :=
  List.filter_cons_of_neg (by simpa using h)

/-- The run in which only the events of the owner are left goes through, and meets the condition. -/
theorem Separate.run_purge_aux (h : Separate step owner I C R i) (hs : I s) (hs' : I s')
    (hR : R s s') (hm : Meets step C s es) (hrun : run step s es = some t) :
    ∃ t', run step s' (eventsOf owner i es) = some t' ∧ R t t' ∧
      Meets step C s' (eventsOf owner i es) := by
  induction es generalizing s s' with
  | nil =>
    cases hrun
    exact ⟨s', rfl, hR, trivial⟩
  | cons e es ih =>
    obtain ⟨u, hu, hrun⟩ := run_cons_eq_some.1 hrun
    obtain ⟨hc, hm⟩ := hm u hu
    have hIu := h.inv s e u hs hc hu
    by_cases he : owner e = i
    · rw [eventsOf_cons_of_eq he]
      obtain ⟨u', hu', hRu⟩ := h.own s s' e u hs hs' hR hc he hu
      have hc' := h.cond s s' e hs hs' hR he hc
      obtain ⟨t', ht', hRt, hm'⟩ := ih hIu (h.inv s' e u' hs' hc' hu') hRu hm hrun
      refine ⟨t', run_cons_eq_some.2 ⟨u', hu', ht'⟩, hRt, fun v hv => ?_⟩
      rw [hu'] at hv
      cases hv
      exact ⟨hc', hm'⟩
    · rw [eventsOf_cons_of_ne he]
      have hRu := h.trans u s s' (h.symm s u (h.other s e u hs hc he hu)) hR
      exact ih hIu hs' hRu hm hrun

/-- **An owner cannot tell that there are others.**  From states that look the same to it, the run
in which only its own events are left goes through, and ends in a state that looks the same. -/
theorem Separate.run_purge (h : Separate step owner I C R i) (hs : I s) (hs' : I s') (hR : R s s')
    (hm : Meets step C s es) (hrun : run step s es = some t) :
    ∃ t', run step s' (eventsOf owner i es) = some t' ∧ R t t' := by
  obtain ⟨t', ht', hRt, -⟩ := h.run_purge_aux hs hs' hR hm hrun
  exact ⟨t', ht', hRt⟩

/-- **Two runs with the same events of the owner** end in states that look the same to it. -/
theorem Separate.run_congr (h : Separate step owner I C R i) (hs : I s) (hs' : I s')
    (hR : R s s') (hm : Meets step C s es) (hm' : Meets step C s' es')
    (hrun : run step s es = some t) (hrun' : run step s' es' = some t')
    (hes : eventsOf owner i es = eventsOf owner i es') : R t t' := by
  obtain ⟨u, hu, hRu⟩ := h.run_purge hs hs (h.refl s) hm hrun
  obtain ⟨u', hu', hRu'⟩ := h.run_purge hs' hs (h.symm s s' hR) hm' hrun'
  rw [hes, hu'] at hu
  cases hu
  exact h.trans t u t' hRu (h.symm t' u hRu')

end Noninterference
