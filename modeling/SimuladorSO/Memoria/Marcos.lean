import SimuladorSO.Library.Allocation
import SimuladorSO.Library.Transitions
import SimuladorSO.Memoria.Estado

/-!
# Frames: who holds which

The page tables seen as an ownership of frames by pairs `(pid, page)`, with the bitmap as the
marks.  Each loop of the page-table functions gets one lemma about that ownership, and
`MarcosExclusivos` is the invariant of every sequence of operations: whatever the page counters
say, a mapped frame has one owner, is inside the memory and is marked.
-/

namespace SimuladorSO.Memoria

open CInt Dictionary Loops Allocation Transitions

/-- The frame that the registered tables give to a pair `(pid, page)`. -/
def duenio (registro : Dict ℤ TablaDePaginas) (k : ℤ × ℤ) : Option ℤ :=
  (get registro k.1).bind fun tabla => get tabla.frameSegunPagina k.2

/-- A frame number inside the memory. -/
def MarcoValido (cfg : MemoriaConfiguracion) (marco : ℤ) : Prop :=
  0 ≤ marco ∧ marco < totalMarcos cfg

/-- The table of `pid` maps the page to the frame. -/
def Mapea (m : Estado) (pid pagina marco : ℤ) : Prop :=
  duenio m.registroTablaDePaginas (pid, pagina) = some marco

/-- The ownership of frames is exclusive, in range and marked. -/
def MarcosExclusivos (cfg : MemoriaConfiguracion) (m : Estado) : Prop :=
  Exclusive (MarcoValido cfg) (duenio m.registroTablaDePaginas) m.framesLibres

variable {cfg : MemoriaConfiguracion} {registro : Dict ℤ TablaDePaginas} {pid : ℤ}

theorem duenio_put (tabla : TablaDePaginas) (k : ℤ × ℤ) :
    duenio (put registro pid tabla) k =
      if k.1 = pid then get tabla.frameSegunPagina k.2 else duenio registro k := by
  unfold duenio
  rw [get_put]
  split_ifs <;> rfl

theorem duenio_of_get {tabla : TablaDePaginas} (h : get registro pid = some tabla) (pagina : ℤ) :
    duenio registro (pid, pagina) = get tabla.frameSegunPagina pagina := by
  simp [duenio, h]

/-- The frame that memoria answers is that of the page, or none. -/
theorem obtenerMarco_cases (m : Estado) (pid pagina : ℤ) :
    obtenerMarco m pid pagina = -1 ∨ Mapea m pid pagina (obtenerMarco m pid pagina) := by
  unfold obtenerMarco Mapea duenio
  cases hg : get m.registroTablaDePaginas pid with
  | none => exact Or.inl rfl
  | some tabla =>
    cases hp : get tabla.frameSegunPagina pagina with
    | none => exact Or.inl (by simp [hp])
    | some marco => exact Or.inr (by simp [hp])

theorem obtenerMarco_of_mapea {m : Estado} {pagina marco : ℤ} (h : Mapea m pid pagina marco) :
    obtenerMarco m pid pagina = marco := by
  unfold Mapea duenio at h
  unfold obtenerMarco
  obtain ⟨tabla, htabla, hframe⟩ := Option.bind_eq_some_iff.1 h
  rw [htabla]
  simp only [hframe, Option.getD_some]

/-- Registering a table again under its pid changes no owner. -/
theorem duenio_put_self {tabla : TablaDePaginas} (h : get registro pid = some tabla) :
    duenio (put registro pid tabla) = duenio registro := by
  funext k
  rw [duenio_put]
  split_ifs with hk
  · rw [← duenio_of_get h, ← hk]
  · rfl

/-- The page counter of a table plays no part in the ownership. -/
theorem duenio_put_mk (tabla : TablaDePaginas) (cant : ℤ) :
    duenio (put registro pid ⟨cant, tabla.frameSegunPagina⟩) =
      duenio (put registro pid tabla) := by
  funext k
  rw [duenio_put, duenio_put]

theorem duenio_put_frame (tabla : TablaDePaginas) (pagina marco : ℤ) :
    duenio (put registro pid
        { tabla with frameSegunPagina := put tabla.frameSegunPagina pagina marco }) =
      Function.update (duenio (put registro pid tabla)) (pid, pagina) (some marco) := by
  funext k
  rw [duenio_put, Function.update_apply, duenio_put, get_put]
  by_cases h1 : k.1 = pid <;> by_cases h2 : k.2 = pagina <;> simp [h1, h2, Prod.ext_iff]

theorem duenio_remove_frame (tabla : TablaDePaginas) (pagina : ℤ) :
    duenio (put registro pid
        { tabla with frameSegunPagina := remove tabla.frameSegunPagina pagina }) =
      Function.update (duenio (put registro pid tabla)) (pid, pagina) none := by
  funext k
  rw [duenio_put, Function.update_apply, duenio_put, get_remove]
  by_cases h1 : k.1 = pid <;> by_cases h2 : k.2 = pagina <;> simp [h1, h2, Prod.ext_iff]

/-! ### The loops -/

/-- One iteration of `reducir_proceso` keeps the ownership exclusive: a frame whose mark is
cleared loses its only owner. -/
theorem liberarPagina_exclusive (i : ℕ) (s : TablaDePaginas × (ℤ → Bool))
    (h : Exclusive (MarcoValido cfg) (duenio (put registro pid s.1)) s.2) :
    Exclusive (MarcoValido cfg) (duenio (put registro pid (liberarPagina i s).1))
      (liberarPagina i s).2 := by
  unfold liberarPagina
  cases hg : get s.1.frameSegunPagina (s.1.cantPaginas - i) with
  | none => exact h
  | some marco =>
    rw [duenio_remove_frame]
    exact h.free (by rw [duenio_put, if_pos rfl, hg])

/-- One iteration of `ampliar_proceso`: it stops, or gives the first unmarked frame to a page. -/
theorem ocuparMarco_cases (cfg : MemoriaConfiguracion) (i : ℕ) (s : Ampliacion)
    (hs : s.huboError = false) :
    ((∀ j, 0 ≤ j → j < (totalMarcos cfg : ℤ) → s.framesLibres j = true) ∧
      ocuparMarco cfg i s = { s with huboError := true }) ∨
    ∃ marco, MarcoValido cfg marco ∧ s.framesLibres marco = false ∧
      (∀ j, 0 ≤ j → j < marco → s.framesLibres j = true) ∧
      ocuparMarco cfg i s =
        { tab := { s.tab with
            frameSegunPagina := put s.tab.frameSegunPagina (s.tab.cantPaginas + i) marco }
          framesLibres := Function.update s.framesLibres marco true
          huboError := false } := by
  have hspec := firstFrom_spec (fun j => !s.framesLibres j) 0 (totalMarcos cfg)
  unfold ocuparMarco
  rw [if_neg (by simp [hs])]
  rcases hspec with ⟨h, hnone⟩ | ⟨h1, h2, h3, h4⟩
  · refine Or.inl ⟨fun j hj hjn => ?_, by simp only [h, if_true]⟩
    simpa using hnone j hj (by simpa using hjn)
  · have hne : firstFrom (fun j => !s.framesLibres j) 0 (totalMarcos cfg) ≠ -1 := by omega
    refine Or.inr ⟨_, ⟨h1, by simpa using h2⟩, by simpa using h3, fun j hj hlt => ?_,
      by simp only [if_neg hne]⟩
    simpa using h4 j hj hlt

/-- After `huboError` the iterations change nothing. -/
theorem ocuparMarco_of_error (i : ℕ) {s : Ampliacion} (hs : s.huboError = true) :
    ocuparMarco cfg i s = s := by
  unfold ocuparMarco
  rw [if_pos hs]

theorem ocuparMarco_exclusive (i : ℕ) (s : Ampliacion)
    (h : Exclusive (MarcoValido cfg) (duenio (put registro pid s.tab)) s.framesLibres) :
    Exclusive (MarcoValido cfg) (duenio (put registro pid (ocuparMarco cfg i s).tab))
      (ocuparMarco cfg i s).framesLibres := by
  cases hs : s.huboError with
  | true => rwa [ocuparMarco_of_error i hs]
  | false =>
    rcases ocuparMarco_cases cfg i s hs with ⟨-, heq⟩ | ⟨marco, hv, hfree, -, heq⟩
    · rw [heq]; exact h
    · rw [heq, duenio_put_frame]
      exact h.take hv hfree

/-- The counter of the table is the same in every iteration of `ampliar_proceso`. -/
theorem ocuparMarco_cantPaginas (i : ℕ) (s : Ampliacion) :
    (ocuparMarco cfg i s).tab.cantPaginas = s.tab.cantPaginas := by
  unfold ocuparMarco
  split_ifs
  · rfl
  · dsimp only; split_ifs <;> rfl

theorem liberarPagina_cantPaginas (i : ℕ) (s : TablaDePaginas × (ℤ → Bool)) :
    (liberarPagina i s).1.cantPaginas = s.1.cantPaginas := by
  unfold liberarPagina
  split <;> rfl

/-- The bitmap after the loop of `liberar_proceso_de_memoria`: the frames of the pages
`0, …, n - 1` are cleared, and no other. -/
theorem iterate_liberarMarco (tabla : TablaDePaginas) (n : ℕ) (framesLibres : ℤ → Bool) (r : ℤ) :
    iterate (liberarMarco tabla) n framesLibres r = true ↔
      framesLibres r = true ∧ ∀ i : ℕ, i < n → get tabla.frameSegunPagina (i : ℤ) ≠ some r := by
  induction n with
  | zero => simp
  | succ n ih =>
    rw [iterate_succ, liberarMarco]
    have hlt : (∀ i : ℕ, i < n + 1 → get tabla.frameSegunPagina (i : ℤ) ≠ some r) ↔
        (∀ i : ℕ, i < n → get tabla.frameSegunPagina (i : ℤ) ≠ some r) ∧
          get tabla.frameSegunPagina (n : ℤ) ≠ some r := by
      constructor
      · exact fun h => ⟨fun i hi => h i (by omega), h n (by omega)⟩
      · rintro ⟨h, hn⟩ i hi
        rcases Nat.lt_succ_iff_lt_or_eq.1 hi with hi | rfl
        exacts [h i hi, hn]
    rw [hlt, ← and_assoc, ← ih]
    cases hg : get tabla.frameSegunPagina (n : ℤ) with
    | none => simp
    | some marco =>
      by_cases hr : r = marco
      · simp [hr]
      · simp [Function.update_of_ne hr, Ne.symm hr]

/-! ### The operations -/

theorem guardarProcesoEnMemoria_exclusivos {m : Estado} (h : MarcosExclusivos cfg m) (pid : ℤ) :
    MarcosExclusivos cfg (guardarProcesoEnMemoria m pid) := by
  refine Exclusive.forget h fun k r hk => ?_
  rw [guardarProcesoEnMemoria, duenio_put] at hk
  split_ifs at hk with hpid
  · simp at hk
  · exact hk

theorem liberarProcesoDeMemoria_exclusivos {m : Estado} (h : MarcosExclusivos cfg m) (pid : ℤ) :
    MarcosExclusivos cfg (liberarProcesoDeMemoria m pid) := by
  unfold liberarProcesoDeMemoria
  cases hg : get m.registroTablaDePaginas pid with
  | none => exact h
  | some tabla =>
    have hsub : ∀ k r, duenio (remove m.registroTablaDePaginas pid) k = some r →
        k.1 ≠ pid ∧ duenio m.registroTablaDePaginas k = some r := by
      intro k r hk
      unfold duenio at hk ⊢
      rw [get_remove] at hk
      split_ifs at hk with hpid
      · cases hk
      · exact ⟨hpid, hk⟩
    refine (Exclusive.forget h fun k r hk => (hsub k r hk).2).remark fun k r hk => ?_
    obtain ⟨hpid, hk⟩ := hsub k r hk
    have hused := h.used_of_owner k r hk
    -- a frame of another process is none of those cleared
    rw [hused, iterate_liberarMarco]
    refine ⟨hused, fun i _ hi => hpid ?_⟩
    rw [← duenio_of_get hg] at hi
    exact congrArg Prod.fst (h.inj k (pid, i) r hk hi)

/-- What `redimensionar_proceso` does to a state, when it comes back. -/
theorem redimensionarProceso_cases {m m' : Estado} {pid tamanio : ℤ} {envios : List Envio}
    (h : redimensionarProceso cfg m pid tamanio = some (m', envios)) :
    ∃ tab, get m.registroTablaDePaginas pid = some tab ∧
      ((tab.cantPaginas > paginasNecesarias cfg tamanio ∧
          ∃ s, s = iterate liberarPagina
              (int32 (tab.cantPaginas - paginasNecesarias cfg tamanio)).toNat
              (tab, m.framesLibres) ∧
            envios = [.mensaje "OK"] ∧
            m' = { m with
              framesLibres := s.2
              registroTablaDePaginas := put m.registroTablaDePaginas pid
                ⟨int32 (tab.cantPaginas -
                    int32 (tab.cantPaginas - paginasNecesarias cfg tamanio)),
                  s.1.frameSegunPagina⟩ }) ∨
        (tab.cantPaginas < paginasNecesarias cfg tamanio ∧
          ∃ s, s = iterate (ocuparMarco cfg)
              (int32 (paginasNecesarias cfg tamanio - tab.cantPaginas)).toNat
              ⟨tab, m.framesLibres, false⟩ ∧
            envios = [.mensaje (if s.huboError then "OUT_OF_MEMORY" else "OK")] ∧
            m' = { m with
              framesLibres := s.framesLibres
              registroTablaDePaginas := put m.registroTablaDePaginas pid
                ⟨int32 (tab.cantPaginas +
                    int32 (paginasNecesarias cfg tamanio - tab.cantPaginas)),
                  s.tab.frameSegunPagina⟩ }) ∨
        (tab.cantPaginas = paginasNecesarias cfg tamanio ∧ envios = [] ∧ m' = m)) := by
  unfold redimensionarProceso at h
  cases hg : get m.registroTablaDePaginas pid with
  | none => rw [hg] at h; cases h
  | some tab =>
    rw [hg] at h
    refine ⟨tab, rfl, ?_⟩
    simp only [reducirProceso, ampliarProceso] at h
    rcases lt_trichotomy tab.cantPaginas (paginasNecesarias cfg tamanio) with hlt | heq | hgt
    · rw [if_neg (by omega), if_pos hlt] at h
      have hc : (iterate (ocuparMarco cfg)
          (int32 (paginasNecesarias cfg tamanio - tab.cantPaginas)).toNat
          ⟨tab, m.framesLibres, false⟩).tab.cantPaginas = tab.cantPaginas :=
        iterate_induct (P := fun _ (s : Ampliacion) => s.tab.cantPaginas = tab.cantPaginas) rfl
          fun i _ s hs => by rw [ocuparMarco_cantPaginas, hs]
      rw [hc] at h
      cases h
      exact Or.inr (Or.inl ⟨hlt, _, rfl, rfl, rfl⟩)
    · rw [if_neg (by omega), if_neg (by omega)] at h
      cases h
      exact Or.inr (Or.inr ⟨heq, rfl, rfl⟩)
    · rw [if_pos hgt] at h
      have hc : (iterate liberarPagina
          (int32 (tab.cantPaginas - paginasNecesarias cfg tamanio)).toNat
          (tab, m.framesLibres)).1.cantPaginas = tab.cantPaginas :=
        iterate_induct
          (P := fun _ (s : TablaDePaginas × (ℤ → Bool)) => s.1.cantPaginas = tab.cantPaginas) rfl
          fun i _ s hs => by rw [liberarPagina_cantPaginas, hs]
      rw [hc] at h
      cases h
      exact Or.inl ⟨hgt, _, rfl, rfl, rfl⟩

theorem redimensionarProceso_exclusivos {m m' : Estado} {pid tamanio : ℤ} {envios : List Envio}
    (h : MarcosExclusivos cfg m)
    (hr : redimensionarProceso cfg m pid tamanio = some (m', envios)) :
    MarcosExclusivos cfg m' := by
  obtain ⟨tab, hg, hcases⟩ := redimensionarProceso_cases hr
  have h0 : Exclusive (MarcoValido cfg) (duenio (put m.registroTablaDePaginas pid tab))
      m.framesLibres := by rw [duenio_put_self hg]; exact h
  rcases hcases with ⟨-, s, hs, -, rfl⟩ | ⟨-, s, hs, -, rfl⟩ | ⟨-, -, rfl⟩
  · have hloop : Exclusive (MarcoValido cfg) (duenio (put m.registroTablaDePaginas pid s.1)) s.2 :=
      hs ▸ iterate_induct (P := fun _ s => Exclusive (MarcoValido cfg)
        (duenio (put m.registroTablaDePaginas pid s.1)) s.2) h0
        fun i _ s hs => liberarPagina_exclusive i s hs
    unfold MarcosExclusivos
    rwa [duenio_put_mk]
  · have hloop : Exclusive (MarcoValido cfg) (duenio (put m.registroTablaDePaginas pid s.tab))
        s.framesLibres :=
      hs ▸ iterate_induct (P := fun _ s => Exclusive (MarcoValido cfg)
        (duenio (put m.registroTablaDePaginas pid s.tab)) s.framesLibres) h0
        fun i _ s hs => ocuparMarco_exclusive i s hs
    unfold MarcosExclusivos
    rwa [duenio_put_mk]
  · exact h

/-! ### Every sequence of operations -/

/-- The operations on the page tables. -/
inductive Operacion
  | guardar (pid : ℤ)
  | redimensionar (pid tamanioNuevo : ℤ)
  | liberar (pid : ℤ)
  deriving DecidableEq

/-- One operation; only `redimensionar` of a pid without a table does not come back. -/
def paso (cfg : MemoriaConfiguracion) (m : Estado) : Operacion → Option Estado
  | .guardar pid => some (guardarProcesoEnMemoria m pid)
  | .redimensionar pid tamanioNuevo => (redimensionarProceso cfg m pid tamanioNuevo).map Prod.fst
  | .liberar pid => some (liberarProcesoDeMemoria m pid)

/-- The requests of the kernel change the instructions before the tables. -/
theorem recibirInfoKernel_exclusivos {m : Estado} (h : MarcosExclusivos cfg m)
    (pedido : PedidoKernel) : MarcosExclusivos cfg (recibirInfoKernel m pedido) := by
  cases pedido with
  | iniciarProceso archivo pid =>
    exact guardarProcesoEnMemoria_exclusivos (m := ejecutarScript m archivo pid) h pid
  | finalizarProceso pid =>
    exact liberarProcesoDeMemoria_exclusivos
      (m := { m with diccionarioInstrucciones := remove m.diccionarioInstrucciones pid }) h pid

theorem paso_exclusivos {m m' : Estado} (op : Operacion) (h : MarcosExclusivos cfg m)
    (hp : paso cfg m op = some m') : MarcosExclusivos cfg m' := by
  cases op with
  | guardar pid => cases hp; exact guardarProcesoEnMemoria_exclusivos h pid
  | liberar pid => cases hp; exact liberarProcesoDeMemoria_exclusivos h pid
  | redimensionar pid tamanio =>
    obtain ⟨⟨m₁, envios⟩, hr, rfl⟩ := Option.map_eq_some_iff.1 hp
    exact redimensionarProceso_exclusivos h hr

theorem generarEspacioMemoria_exclusivos (espacio : ℤ → UInt8) :
    MarcosExclusivos cfg (generarEspacioMemoria espacio) :=
  Exact.empty.toExclusive

/-- **Frames are never shared.**  In every state reached from start-up by any operations, on any
pids and with any sizes, a mapped frame is inside the memory, is marked, and is mapped by one page
of one process. -/
theorem marcos_exclusivos (cfg : MemoriaConfiguracion) (espacio : ℤ → UInt8)
    (ops : List Operacion) (m : Estado)
    (hrun : run (paso cfg) (generarEspacioMemoria espacio) ops = some m) :
    (∀ pid pagina pid' pagina' marco, Mapea m pid pagina marco → Mapea m pid' pagina' marco →
        pid = pid' ∧ pagina = pagina') ∧
      (∀ pid pagina marco, Mapea m pid pagina marco →
        (0 ≤ marco ∧ marco < (cfg.tamMemoria : ℤ) / cfg.tamPagina) ∧
          m.framesLibres marco = true) := by
  have h : MarcosExclusivos cfg m :=
    Reachable.induct (P := MarcosExclusivos cfg) (generarEspacioMemoria_exclusivos espacio)
      (fun _ op _ hi hp => paso_exclusivos op hi hp) ⟨ops, hrun⟩
  refine ⟨fun pid pagina pid' pagina' marco h1 h2 => ?_, fun pid pagina marco h1 => ?_⟩
  · exact Prod.mk.inj (h.inj (pid, pagina) (pid', pagina') marco h1 h2)
  · have hv := h.valid_of_owner (pid, pagina) marco h1
    unfold MarcoValido totalMarcos at hv
    push_cast at hv
    exact ⟨hv, h.used_of_owner (pid, pagina) marco h1⟩

/-- Four frames of 16 bytes. -/
def cfgCuatroMarcos : MemoriaConfiguracion where
  tamMemoria := 64
  tamPagina := 16
  monticulo := .minimo
  tamPagina_pos := by norm_num
  tamMemoria_int := by norm_num
  tamPagina_int := by norm_num

/-- Two processes in four frames: the frame of page 0 of the second is of nobody else. -/
theorem marcos_exclusivos_dos_procesos :
    ∃ m, run (paso cfgCuatroMarcos) (generarEspacioMemoria fun _ => 0)
        [.guardar 1, .redimensionar 1 32, .guardar 2, .redimensionar 2 16] = some m ∧
      Mapea m 2 0 2 ∧ ∀ pid pagina, Mapea m pid pagina 2 → pid = 2 ∧ pagina = 0 := by
  refine ⟨_, rfl, rfl, fun pid pagina h => ?_⟩
  have hexcl := marcos_exclusivos cfgCuatroMarcos (fun _ => 0)
    [.guardar 1, .redimensionar 1 32, .guardar 2, .redimensionar 2 16] _ rfl
  exact hexcl.1 pid pagina 2 0 2 h rfl

end SimuladorSO.Memoria
