import SimuladorSO.Library.Simulation

/-!
# Queues that a system serves in order

A queue of the state of a transition system: each step takes out of it, at the head, the elements
that it tells, and others come in at the end.

* `Channel`: what one step does;
* `Channel.run`: the elements taken out in a run, and those that are left, begin with those that were
  there;
* `Channel.served`: so whoever was at a position has been taken out after as many others, or is still
  there.
-/

namespace Transitions

variable {σ ε α β : Type*}

/-- A step takes out of the queue what it tells, at the head, and others come in at the end. -/
structure Channel (step : σ → ε → Option σ) (I : σ → Prop) (C : ε → Prop) (queue : σ → List α)
    (out : σ → ε → List α) : Prop where
  inv : ∀ s e t, I s → C e → step s e = some t → I t
  step : ∀ s e t, I s → C e → step s e = some t → ∃ r, queue s ++ r = out s e ++ queue t

variable {step : σ → ε → Option σ} {I : σ → Prop} {C : ε → Prop} {queue : σ → List α}
  {out : σ → ε → List α} {s t : σ} {es : List ε}

/-- **First in, first out.** -/
theorem Channel.run (h : Channel step I C queue out) (hI : I s) (hC : ∀ e ∈ es, C e)
    (hrun : run step s es = some t) :
    ∃ r, queue s ++ r = traceOf step out s es ++ queue t := by
  induction es generalizing s with
  | nil =>
    cases hrun
    exact ⟨[], List.append_nil _⟩
  | cons e es ih =>
    obtain ⟨u, hu, hrun⟩ := run_cons_eq_some.1 hrun
    have he := hC e List.mem_cons_self
    obtain ⟨r, hr⟩ := h.step s e u hI he hu
    obtain ⟨r', hr'⟩ := ih (h.inv s e u hI he hu) (fun e he => hC e (List.mem_cons_of_mem _ he)) hrun
    refine ⟨r ++ r', ?_⟩
    rw [traceOf_cons hu, ← List.append_assoc, hr, List.append_assoc, hr', List.append_assoc]

/-- Whoever was at the position `n` has been taken out after `n` others, or is still there, with as
many less before it as have been taken out. -/
theorem Channel.served (h : Channel step I C queue out) (hI : I s) (hC : ∀ e ∈ es, C e)
    (hrun : Transitions.run step s es = some t) {n : ℕ} {p : α} (hp : (queue s)[n]? = some p) :
    (traceOf step out s es ++ queue t)[n]? = some p := by
  obtain ⟨r, hr⟩ := h.run hI hC hrun
  have hn := (List.getElem?_eq_some_iff.1 hp).1
  rw [← hr, List.getElem?_append_left hn, hp]

/-- What the steps tell, but for some of it. -/
theorem traceOf_filter (p : β → Bool) (tells : σ → ε → List β) (s : σ) (es : List ε) :
    traceOf step (fun s e => (tells s e).filter p) s es = (traceOf step tells s es).filter p := by
  induction es generalizing s with
  | nil => rfl
  | cons e es ih =>
    rw [traceOf, traceOf, List.filter_append]
    cases hs : step s e with
    | none => rfl
    | some t => exact congrArg _ (ih t)

end Transitions
