import SimuladorSO.Library.Transitions

/-!
# Forward simulations between transition systems

A step of one system is some steps of another one, that the step tells: none, one or more.  If each
step keeps the relation between the states of the two systems, so does a whole run.

* `traceOf`: what the steps of a run tell, one after another;
* `Simulates`: one step of the first system, under the condition `C`, is a run of the second one
  whose steps meet the condition `D`;
* `Simulates.run`: a whole run.
-/

namespace Transitions

variable {σ ε α β : Type*}

/-- What the steps of a run tell, each at the state that it meets. -/
def traceOf (step : σ → ε → Option σ) (tells : σ → ε → List β) : σ → List ε → List β
  | _, [] => []
  | s, e :: es => tells s e ++ (step s e).elim [] fun t => traceOf step tells t es

/-- A step of the first system is the run of the second one that it tells. -/
structure Simulates (step : σ → ε → Option σ) (C : σ → ε → Prop) (astep : α → β → Option α)
    (D : α → β → Prop) (tells : σ → ε → List β) (R : σ → α → Prop) : Prop where
  step : ∀ s e t a, R s a → C s e → step s e = some t →
    ∃ b, run astep a (tells s e) = some b ∧ Meets astep D a (tells s e) ∧ R t b

variable {step : σ → ε → Option σ} {C : σ → ε → Prop} {astep : α → β → Option α}
  {D : α → β → Prop} {tells : σ → ε → List β} {R : σ → α → Prop} {s t : σ} {a : α} {es : List ε}

theorem traceOf_cons {e : ε} (h : step s e = some t) :
    traceOf step tells s (e :: es) = tells s e ++ traceOf step tells t es := by
  rw [traceOf, h, Option.elim_some]

/-- **A run of the first system is a run of the second one.** -/
theorem Simulates.run (h : Simulates step C astep D tells R) (hR : R s a)
    (hm : Meets step C s es) (hrun : run step s es = some t) :
    ∃ b, Transitions.run astep a (traceOf step tells s es) = some b ∧
      Meets astep D a (traceOf step tells s es) ∧ R t b := by
  induction es generalizing s a with
  | nil =>
    cases hrun
    exact ⟨a, rfl, trivial, hR⟩
  | cons e es ih =>
    obtain ⟨u, hu, hrun⟩ := run_cons_eq_some.1 hrun
    obtain ⟨hc, hm⟩ := hm u hu
    obtain ⟨b, hb, hmb, hRu⟩ := h.step s e u a hR hc hu
    obtain ⟨c, hc, hmc, hRt⟩ := ih hRu hm hrun
    rw [traceOf_cons hu]
    refine ⟨c, ?_, hmb.append fun v hv => ?_, hRt⟩
    · rw [run_append, hb, Option.bind_some]
      exact hc
    · rw [hb] at hv
      cases hv
      exact hmc

end Transitions
