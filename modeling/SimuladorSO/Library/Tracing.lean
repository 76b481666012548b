import Mathlib.Tactic

/-!
# Computations that leave a trace

`Traced ε α` is a computation seen from outside: the effects that it has emitted, in their order,
and its value, if it comes back.  Effects emitted before it gets stuck stay.

* `emit`, `ofOption`: the two basic computations, one that has an effect and one that may get
  stuck;
* the monad that puts one computation after another, and its equations;
* `Yields`, `Matches`: what holds of a computation that comes back, and of another one that does the
  same, with a rule for each for sequences.
-/

namespace Tracing

universe u

/-- The effects of a computation, and its value if it comes back. -/
structure Traced (ε α : Type u) where
  effects : List ε
  value : Option α

variable {ε α β : Type u}

/-- Emit some effects. -/
def emit (es : List ε) : Traced ε PUnit := ⟨es, some ⟨⟩⟩

/-- Go on with a value, or get stuck without one. -/
def ofOption (o : Option α) : Traced ε α := ⟨[], o⟩

instance : Monad (Traced ε) where
  pure a := ⟨[], some a⟩
  bind x f :=
    match x.value with
    | none => ⟨x.effects, none⟩
    | some a => ⟨x.effects ++ (f a).effects, (f a).value⟩

@[simp] theorem pure_eq (a : α) : (pure a : Traced ε α) = ⟨[], some a⟩ := rfl

@[simp] theorem mk_some_bind (es : List ε) (a : α) (f : α → Traced ε β) :
    (⟨es, some a⟩ : Traced ε α) >>= f = ⟨es ++ (f a).effects, (f a).value⟩ := rfl

@[simp] theorem mk_none_bind (es : List ε) (f : α → Traced ε β) :
    (⟨es, none⟩ : Traced ε α) >>= f = ⟨es, none⟩ := rfl

@[simp] theorem emit_bind (es : List ε) (f : PUnit → Traced ε β) :
    emit es >>= f = ⟨es ++ (f ⟨⟩).effects, (f ⟨⟩).value⟩ := rfl

@[simp] theorem ofOption_some_bind (a : α) (f : α → Traced ε β) :
    ofOption (some a) >>= f = f a := rfl

@[simp] theorem ofOption_none_bind (f : α → Traced ε β) :
    ofOption none >>= f = (⟨[], none⟩ : Traced ε β) := rfl

/-! ### Rules -/

/-- What holds of the value and the effects of a computation, if it comes back. -/
def Yields (x : Traced ε α) (P : α → List ε → Prop) : Prop :=
  ∀ a, x.value = some a → P a x.effects

/-- If `x` comes back then so does `y`, with the same effects and a related value. -/
def Matches (R : α → β → Prop) (x : Traced ε α) (y : Traced ε β) : Prop :=
  ∀ a, x.value = some a → ∃ b, y.value = some b ∧ y.effects = x.effects ∧ R a b

variable {γ δ : Type u} {P : α → List ε → Prop} {Q : β → List ε → Prop} {R : α → β → Prop}
  {S : γ → δ → Prop}

theorem bind_value_eq_some {x : Traced ε α} {f : α → Traced ε β} {b : β}
    (h : (x >>= f).value = some b) :
    ∃ a, x.value = some a ∧ (f a).value = some b ∧
      (x >>= f).effects = x.effects ++ (f a).effects := by
  obtain ⟨es, _ | a⟩ := x
  · cases h
  · exact ⟨a, rfl, h, rfl⟩

theorem Yields.bind {x : Traced ε α} {f : α → Traced ε β} (hx : Yields x P)
    (hf : ∀ a es, P a es → Yields (f a) fun b fs => Q b (es ++ fs)) : Yields (x >>= f) Q := by
  intro b hb
  obtain ⟨a, ha, hb, heffects⟩ := bind_value_eq_some hb
  rw [heffects]
  exact hf a _ (hx a ha) b hb

theorem yields_pure {a : α} (h : P a []) : Yields (pure a) P := by
  rintro _ ⟨⟩
  exact h

theorem yields_ofOption {o : Option α} (h : ∀ a, o = some a → P a []) :
    Yields (ofOption o) P := h

theorem Yields.imp {P' : α → List ε → Prop} {x : Traced ε α} (h : Yields x P)
    (himp : ∀ a es, P a es → P' a es) : Yields x P' :=
  fun a ha => himp a _ (h a ha)

theorem Matches.bind {x : Traced ε α} {y : Traced ε β} {f : α → Traced ε γ} {g : β → Traced ε δ}
    (hx : Matches R x y) (hf : ∀ a b, R a b → Matches S (f a) (g b)) :
    Matches S (x >>= f) (y >>= g) := by
  intro c hc
  obtain ⟨a, ha, hc, heffects⟩ := bind_value_eq_some hc
  obtain ⟨b, hb, hes, hab⟩ := hx a ha
  obtain ⟨d, hd, hfs, hcd⟩ := hf a b hab c hc
  obtain ⟨es, o⟩ := y
  cases hb
  refine ⟨d, hd, ?_, hcd⟩
  rw [heffects, ← hes, ← hfs]
  rfl

theorem Matches.imp {R' : α → β → Prop} {x : Traced ε α} {y : Traced ε β} (h : Matches R x y)
    (himp : ∀ a b, R a b → R' a b) : Matches R' x y :=
  fun a ha => (h a ha).imp fun b hb => ⟨hb.1, hb.2.1, himp a b hb.2.2⟩

theorem matches_pure {a : α} {b : β} (h : R a b) :
    Matches R (pure a : Traced ε α) (pure b) := by
  rintro _ ⟨⟩
  exact ⟨b, rfl, rfl, h⟩

theorem matches_ofOption {o : Option α} {o' : Option β}
    (h : ∀ a, o = some a → ∃ b, o' = some b ∧ R a b) :
    Matches R (ofOption o : Traced ε α) (ofOption o') := by
  intro a ha
  obtain ⟨b, hb, hab⟩ := h a ha
  exact ⟨b, hb, rfl, hab⟩

end Tracing
