import SimuladorSO.Memoria.Cuentas

/-!
# A growth that fails

`ampliar_proceso` takes the frames one by one and stops where there is none left, and then
`redimensionar_proceso` raises the page counter by all the pages asked for.  `ComoEstaba` says that
a request has left the process and the bitmap as they were; after a growth that was answered
`OUT_OF_MEMORY` it never holds (`redimensionarProceso_fallido`).
-/

namespace SimuladorSO.Memoria

open CInt Dictionary Loops Transitions

/-- The page counter and the frames of the process, and the bitmap, are as they were. -/
structure ComoEstaba (m m' : Estado) (pid : ℤ) : Prop where
  cantPaginas : (get m'.registroTablaDePaginas pid).map TablaDePaginas.cantPaginas =
    (get m.registroTablaDePaginas pid).map TablaDePaginas.cantPaginas
  marcos : ∀ pagina, obtenerMarco m' pid pagina = obtenerMarco m pid pagina
  framesLibres : m'.framesLibres = m.framesLibres

variable {cfg : MemoriaConfiguracion} {m m' : Estado} {pid tamanio : ℤ} {envios : List Envio}

/-- A growth without unmarked frames changes neither the table nor the bitmap. -/
theorem iterate_ocuparMarco_lleno (tab : TablaDePaginas) {framesLibres : ℤ → Bool}
    (hlleno : marcosSinUsar cfg framesLibres = 0) (n : ℕ) :
    (iterate (ocuparMarco cfg) n ⟨tab, framesLibres, false⟩).tab = tab ∧
      (iterate (ocuparMarco cfg) n ⟨tab, framesLibres, false⟩).framesLibres = framesLibres := by
  refine iterate_induct (P := fun _ (s : Ampliacion) =>
    s.tab = tab ∧ s.framesLibres = framesLibres) ⟨rfl, rfl⟩ fun i _ s hs => ?_
  cases herror : s.huboError with
  | true => rwa [ocuparMarco_of_error i herror]
  | false =>
    rcases ocuparMarco_cases cfg i s herror with ⟨-, heq⟩ | ⟨marco, hv, hfree, -, -⟩
    · rw [heq]
      exact hs
    · have hupd := marcosSinUsar_update hv hfree
      rw [hs.2] at hupd
      omega

/-- What a growth that was answered `OUT_OF_MEMORY` has done: it has run out of frames before its
last iteration, and the counter counts them all. -/
theorem redimensionarProceso_oom
    (hr : redimensionarProceso cfg m pid tamanio = some (m', envios))
    (hoom : .mensaje "OUT_OF_MEMORY" ∈ envios) :
    ∃ tab s, ∃ nuevas : ℤ, get m.registroTablaDePaginas pid = some tab ∧
      0 < nuevas ∧ nuevas < 2 ^ 31 ∧ marcosSinUsar cfg m.framesLibres < nuevas ∧
      s = iterate (ocuparMarco cfg) nuevas.toNat ⟨tab, m.framesLibres, false⟩ ∧
      m' = { m with
        framesLibres := s.framesLibres
        registroTablaDePaginas := put m.registroTablaDePaginas pid
          ⟨int32 (tab.cantPaginas + nuevas), s.tab.frameSegunPagina⟩ } := by
  obtain ⟨tab, hg, hcases⟩ := redimensionarProceso_cases hr
  rcases hcases with ⟨-, s, -, rfl, -⟩ | ⟨-, s, hs, rfl, hm'⟩ | ⟨-, rfl, -⟩
  · simp at hoom
  · have herror : s.huboError = true := by
      by_contra hno
      rw [if_neg hno] at hoom
      simp at hoom
    have hlt : marcosSinUsar cfg m.framesLibres <
        (int32 (paginasNecesarias cfg tamanio - tab.cantPaginas)).toNat :=
      (iterate_ocuparMarco cfg tab m.framesLibres _).error.1 (hs ▸ herror)
    have hrango := inRange_int32 (paginasNecesarias cfg tamanio - tab.cantPaginas)
    exact ⟨tab, s, _, hg, by omega, hrango.2, by omega, hs, hm'⟩
  · cases hoom

/-- **A failed growth is never undone.**  Whenever a resize is answered `OUT_OF_MEMORY` the page
counter has changed; the frames of the process and the bitmap are as they were only if there was no
unmarked frame at all, otherwise those that there were have been taken. -/
theorem redimensionarProceso_fallido (cfg : MemoriaConfiguracion) (m m' : Estado)
    (pid tamanio : ℤ) (envios : List Envio)
    (hr : redimensionarProceso cfg m pid tamanio = some (m', envios))
    (hoom : .mensaje "OUT_OF_MEMORY" ∈ envios) :
    ¬ ComoEstaba m m' pid ∧
      ((∀ pagina, obtenerMarco m' pid pagina = obtenerMarco m pid pagina) ∧
        m'.framesLibres = m.framesLibres ↔ marcosSinUsar cfg m.framesLibres = 0) := by
  obtain ⟨tab, s, nuevas, hg, h0, hrango, hlt, hs, rfl⟩ := redimensionarProceso_oom hr hoom
  constructor
  · intro h
    have hcant := h.cantPaginas
    dsimp only at hcant
    rw [get_put_self, hg, Option.map_some, Option.map_some] at hcant
    exact int32_add_ne tab.cantPaginas h0 hrango (Option.some.inj hcant)
  · constructor
    · rintro ⟨-, hframes⟩
      have hlibres := (iterate_ocuparMarco cfg tab m.framesLibres nuevas.toNat).libres
      rw [← hs, show s.framesLibres = m.framesLibres from hframes] at hlibres
      omega
    · intro hlleno
      obtain ⟨htab, hframes⟩ := iterate_ocuparMarco_lleno tab hlleno nuevas.toNat
      rw [← hs] at htab hframes
      refine ⟨fun pagina => ?_, hframes⟩
      unfold obtenerMarco
      dsimp only
      rw [get_put_self, hg, htab]

/-- **Two pages and three more.**  A process with two of four frames asks for five pages: it is
answered `OUT_OF_MEMORY`, it keeps the two other frames, and its counter says five. -/
theorem redimensionarProceso_fallido_cuatro_marcos :
    ∃ m m', run (paso cfgCuatroMarcos) (generarEspacioMemoria fun _ => 0)
        [.guardar 1, .redimensionar 1 32] = some m ∧
      redimensionarProceso cfgCuatroMarcos m 1 80 = some (m', [.mensaje "OUT_OF_MEMORY"]) ∧
      (obtenerMarco m 1 2, m.framesLibres 2) = (-1, false) ∧
      (obtenerMarco m' 1 2, m'.framesLibres 2) = (2, true) ∧
      (get m'.registroTablaDePaginas 1).map TablaDePaginas.cantPaginas = some 5 ∧
      ¬ ComoEstaba m m' 1 := by
  refine ⟨_, _, rfl, rfl, by decide, by decide, by decide, fun h => ?_⟩
  have hmarco := h.marcos 2
  revert hmarco
  decide

/-- The same growth, as the theorem says it. -/
theorem redimensionarProceso_fallido_ocupa :
    ∃ m m', redimensionarProceso cfgCuatroMarcos m 1 80 = some (m', [.mensaje "OUT_OF_MEMORY"]) ∧
      ¬ ComoEstaba m m' 1 :=
  ⟨⟨fun _ => 0, [(1, ⟨2, [(1, 1), (0, 0)]⟩)], fun marco => marco = 0 ∨ marco = 1, []⟩, _, rfl,
    (redimensionarProceso_fallido cfgCuatroMarcos _ _ 1 80 _ rfl List.mem_cons_self).1⟩

end SimuladorSO.Memoria
