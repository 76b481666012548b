import Mathlib.Data.List.GetD
import SimuladorSO.Memoria.Respuestas

/-!
# The text that memoria reads

`leer_memoria` copies the bytes of each page to a buffer and joins the buffers as C strings, so the
text has the bytes of each page up to its first zero.

* `textoLeido`: the text from a logical address on;
* `textoLeido_eq_append`: it begins with the bytes before the first zero of the range, and nothing
  follows them exactly when the pages after that zero begin with another one.
-/

namespace SimuladorSO.Memoria

open CInt

variable {cfg : MemoriaConfiguracion} {a : ℤ}

/-- The bytes of the page from an address on. -/
theorem ediv_of_tramo {t : ℤ} (ht : 0 < t) {i : ℤ} (h0 : 0 ≤ i) (hi : i < t - a % t) :
    (a + i) / t = a / t ∧ (a + i) % t = a % t + i := by
  have hmod := Int.emod_nonneg a ht.ne'
  have hdiv := Int.mul_ediv_add_emod a t
  have ha : a + i = (a % t + i) + t * (a / t) := by linarith
  rw [ha, Int.add_mul_ediv_left _ _ ht.ne', Int.ediv_eq_zero_of_lt (by omega) (by omega),
    Int.add_mul_emod_self_left, Int.emod_eq_of_lt (by omega) (by omega)]
  exact ⟨by omega, rfl⟩

/-- The first byte of the next page. -/
theorem ediv_of_siguiente {t : ℤ} (ht : 0 < t) :
    (a + (t - a % t)) / t = a / t + 1 ∧ (a + (t - a % t)) % t = 0 := by
  have hdiv := Int.mul_ediv_add_emod a t
  have ha : a + (t - a % t) = t * (a / t + 1) := by linarith
  rw [ha, Int.mul_ediv_cancel_left _ ht.ne', Int.mul_emod_right]
  exact ⟨rfl, rfl⟩

theorem leerDe_eq (espacio : ℤ → UInt8) (base n : ℤ) :
    leerDe espacio base n = (List.range n.toNat).map fun k : ℕ => espacio (base + k) := by
  unfold leerDe
  simp only [List.bind_eq_flatMap, List.pure_def, List.map_flatMap, List.map_singleton]
  exact List.flatMap_pure_eq_map _ _

/-- The text that `leer_memoria` gathers from the logical address `a`, over the bytes of the
process: page by page, up to the first zero of each. -/
def textoLeido (cfg : MemoriaConfiguracion) (contenido : ℤ → UInt8) : ℕ → ℤ → ℤ → List UInt8
  | 0, _, _ => []
  | fuel + 1, a, n =>
    if n ≤ 0 then []
    else
      let bytes := min n (cfg.tamPagina - a % cfg.tamPagina)
      hastaCero (leerDe contenido a bytes) ++ textoLeido cfg contenido fuel (a + bytes) (n - bytes)

theorem mem_leerDe {espacio : ℤ → UInt8} {base n : ℤ} {x : UInt8} (hx : x ∈ leerDe espacio base n) :
    ∃ i, 0 ≤ i ∧ i < n ∧ x = espacio (base + i) := by
  rw [leerDe_eq] at hx
  obtain ⟨k, hk, rfl⟩ := List.mem_map.1 hx
  rw [List.mem_range] at hk
  exact ⟨k, by omega, by omega, rfl⟩

theorem leerDe_congr {espacio espacio' : ℤ → UInt8} {base base' n : ℤ}
    (h : ∀ i, 0 ≤ i → i < n → espacio (base + i) = espacio' (base' + i)) :
    leerDe espacio base n = leerDe espacio' base' n := by
  rw [leerDe_eq, leerDe_eq]
  refine List.map_congr_left fun k hk => ?_
  rw [List.mem_range] at hk
  exact h k (by omega) (by omega)

theorem leerDe_append (espacio : ℤ → UInt8) (a : ℤ) {b n : ℤ} (h0 : 0 ≤ b) (hb : b ≤ n) :
    leerDe espacio a n = leerDe espacio a b ++ leerDe espacio (a + b) (n - b) := by
  rw [leerDe_eq, leerDe_eq, leerDe_eq, show n.toNat = b.toNat + (n - b).toNat by omega,
    List.range_add, List.map_append, List.map_map]
  refine congrArg _ (List.map_congr_left fun k _ => ?_)
  dsimp only [Function.comp]
  rw [Nat.cast_add, Int.toNat_of_nonneg h0, add_assoc]

/-! ### The first zero of a range -/

/-- What a C string keeps of a range whose first zero is at `z`. -/
theorem hastaCero_leerDe {contenido : ℤ → UInt8} {z n : ℤ} (hz0 : 0 ≤ z) (hzn : z ≤ n)
    (hprev : ∀ i, 0 ≤ i → i < z → contenido (a + i) ≠ 0) (hcero : z < n → contenido (a + z) = 0) :
    hastaCero (leerDe contenido a n) = leerDe contenido a z := by
  have hresto : (leerDe contenido (a + z) (n - z)).takeWhile (fun x => x ≠ 0) = [] := by
    rcases eq_or_lt_of_le hzn with rfl | hlt
    · rw [sub_self]
      rfl
    · rw [leerDe_append contenido (a + z) zero_le_one (show 1 ≤ n - z by omega)]
      simp [leerDe_eq, hcero hlt]
  rw [hastaCero, leerDe_append contenido a hz0 hzn, List.takeWhile_append_of_pos, hresto,
    List.append_nil]
  intro x hx
  obtain ⟨i, h0, hi, rfl⟩ := mem_leerDe hx
  simpa using hprev i h0 hi

/-- The text is empty when the range, and each page of it, begins with a zero. -/
theorem textoLeido_eq_nil_iff {contenido : ℤ → UInt8} {fuel : ℕ} {n : ℤ} (hfuel : n.toNat < fuel) :
    textoLeido cfg contenido fuel a n = [] ↔
      ∀ i, 0 ≤ i → i < n → (i = 0 ∨ (a + i) % cfg.tamPagina = 0) → contenido (a + i) = 0 := by
  have ht := tamPagina_pos_int cfg
  induction fuel generalizing a n with
  | zero => omega
  | succ fuel ih =>
    unfold textoLeido
    by_cases hfin : n ≤ 0
    · rw [if_pos hfin]
      exact iff_of_true rfl fun i h0 hi => absurd hi (by omega)
    · have hmod := Int.emod_nonneg a ht.ne'
      have hlt := Int.emod_lt_of_pos a ht
      obtain ⟨b, hb⟩ : ∃ b, b = min n (cfg.tamPagina - a % cfg.tamPagina) := ⟨_, rfl⟩
      have htramo : hastaCero (leerDe contenido a b) = [] ↔ contenido a = 0 := by
        rw [leerDe_append contenido a zero_le_one (show 1 ≤ b by omega)]
        simp [hastaCero, leerDe_eq]
      have hsiguientes := ih (a := a + b) (n := n - b) (by omega)
      rw [if_neg hfin]
      dsimp only
      rw [← hb, List.append_eq_nil_iff, htramo]
      refine (and_congr_right' hsiguientes).trans ⟨?_, ?_⟩
      · rintro ⟨hcero, hresto⟩ i h0 hi hinicio
        rcases lt_or_ge i b with hib | hbi
        · -- the page of the address has no other first byte
          obtain ⟨-, hemod⟩ := ediv_of_tramo (a := a) ht h0 (by omega)
          obtain rfl : i = 0 := by omega
          rwa [add_zero]
        · have h := hresto (i - b) (by omega) (by omega)
          rw [show a + b + (i - b) = a + i by ring] at h
          exact h (hinicio.imp (fun h => by omega) id)
      · intro h
        refine ⟨by simpa using h 0 le_rfl (by omega) (Or.inl rfl), fun i h0 hi hinicio => ?_⟩
        rw [add_assoc]
        refine h (b + i) (by omega) (by omega) (Or.inr ?_)
        rw [← add_assoc]
        refine hinicio.elim (fun hi0 => ?_) id
        rw [hi0, add_zero, hb, min_eq_right (by omega)]
        exact (ediv_of_siguiente ht).2

/-- The text begins with the bytes before the first zero, and has no more when the pages that begin
after that zero begin with another one. -/
theorem textoLeido_eq_append (cfg : MemoriaConfiguracion) {contenido : ℤ → UInt8} {fuel : ℕ}
    {z n : ℤ} (hfuel : n.toNat < fuel) (hz0 : 0 ≤ z) (hzn : z ≤ n)
    (hprev : ∀ i, 0 ≤ i → i < z → contenido (a + i) ≠ 0) (hcero : z < n → contenido (a + z) = 0) :
    ∃ resto, textoLeido cfg contenido fuel a n = leerDe contenido a z ++ resto ∧
      (resto = [] ↔ ∀ i, z ≤ i → i < n → (a + i) % cfg.tamPagina = 0 → contenido (a + i) = 0) := by
  have ht := tamPagina_pos_int cfg
  induction fuel generalizing a n z with
  | zero => omega
  | succ fuel ih =>
    unfold textoLeido
    by_cases hfin : n ≤ 0
    · obtain rfl : z = 0 := by omega
      rw [if_pos hfin]
      exact ⟨[], rfl, iff_of_true rfl fun i h0 hi => absurd hi (by omega)⟩
    · have hmod := Int.emod_nonneg a ht.ne'
      have hlt := Int.emod_lt_of_pos a ht
      obtain ⟨b, hb⟩ : ∃ b, b = min n (cfg.tamPagina - a % cfg.tamPagina) := ⟨_, rfl⟩
      rw [if_neg hfin]
      dsimp only
      rw [← hb]
      rcases le_or_gt b z with hbz | hzb
      · -- the zero is after the page
        obtain ⟨resto, hresto, hnil⟩ := ih (a := a + b) (n := n - b) (z := z - b) (by omega)
          (by omega) (by omega)
          (fun i h0 hi => by rw [add_assoc]; exact hprev (b + i) (by omega) (by omega))
          (fun hlt => by
            rw [show a + b + (z - b) = a + z by ring]
            exact hcero (by omega))
        refine ⟨resto, ?_, hnil.trans ⟨fun h i hi hin hinicio => ?_, fun h i hi hin hinicio => ?_⟩⟩
        · rw [hastaCero_leerDe (by omega) le_rfl (fun i h0 hi => hprev i h0 (by omega))
            (fun h => absurd h (lt_irrefl b)), hresto, ← List.append_assoc,
            ← leerDe_append contenido a (by omega) hbz]
        · have hi' := h (i - b) (by omega) (by omega)
          rw [show a + b + (i - b) = a + i by ring] at hi'
          exact hi' hinicio
        · rw [add_assoc] at hinicio ⊢
          exact h (b + i) (by omega) (by omega) hinicio
      · -- the zero is in the page: what follows comes from the next ones
        refine ⟨_, by rw [hastaCero_leerDe hz0 hzb.le hprev fun _ => hcero (by omega)], ?_⟩
        rw [textoLeido_eq_nil_iff (by omega)]
        constructor
        · intro h i hi hin hinicio
          rcases lt_or_ge i b with hib | hbi
          · obtain ⟨-, hemod⟩ := ediv_of_tramo (a := a) ht (show 0 ≤ i by omega) (by omega)
            obtain rfl : i = z := by omega
            exact hcero hin
          · have hi' := h (i - b) (by omega) (by omega)
            rw [show a + b + (i - b) = a + i by ring] at hi'
            exact hi' (Or.inr hinicio)
        · intro h i h0 hi hinicio
          rw [add_assoc]
          refine h (b + i) (by omega) (by omega) ?_
          rw [← add_assoc]
          refine hinicio.elim (fun hi0 => ?_) id
          rw [hi0, add_zero, hb, min_eq_right (by omega)]
          exact (ediv_of_siguiente ht).2

/-- Without zeros the text is all the bytes. -/
theorem textoLeido_sin_ceros {contenido : ℤ → UInt8} {fuel : ℕ} {n : ℤ} (hfuel : n.toNat < fuel)
    (hceros : ∀ i, 0 ≤ i → i < n → contenido (a + i) ≠ 0) :
    textoLeido cfg contenido fuel a n = leerDe contenido a n := by
  rcases le_total n 0 with hn | hn
  · obtain ⟨fuel, rfl⟩ := Nat.exists_eq_succ_of_ne_zero (show fuel ≠ 0 by omega)
    unfold textoLeido
    rw [if_pos hn, leerDe, Int.toNat_of_nonpos hn]
    rfl
  · obtain ⟨resto, hresto, hnil⟩ := textoLeido_eq_append cfg hfuel hn le_rfl hceros
      fun h => absurd h (lt_irrefl n)
    rw [hresto, hnil.2 fun i hi hin => absurd hi (by omega), List.append_nil]

end SimuladorSO.Memoria
