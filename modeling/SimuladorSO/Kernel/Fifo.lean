import SimuladorSO.Kernel.Desalojos
import SimuladorSO.Kernel.Semaforos

/-!
# The kernel without a quantum

Where no quantum ends, no call of `replanificar` has to wait for the return of a process, the reason
with which the thread of the CPU's answers calls it is one of the process itself, and every ready
process is in `cola_ready`.  Every operation of the kernel keeps this (`SinReloj`), but for the
packet at the end of a quantum.
-/

namespace SimuladorSO.Kernel

open Commons

/-- No quantum has ended, no call of `replanificar` is for one, the user has evicted nobody, and no
process has priority. -/
structure SinReloj (k : Estado) : Prop where
  finPorQuantum : k.finPorQuantum = false
  porUsuario : k.desalojaPorUsuario = false
  permisos : k.semReplanificacionQuantum = 0
  motivo : noEsQuantum k.motivo = true
  motivos : ∀ m ∈ k.porReplanificar, noEsQuantum m = true
  readyM : k.cola .readyM = []

variable {cfg : KernelConfiguracion} {k k₁ k' : Estado} {p : ℕ} {l : Lugar} {motivo : Cadena}

theorem sinReloj_inicial (cfg : KernelConfiguracion) : SinReloj (Estado.inicial cfg) :=
  ⟨rfl, rfl, rfl, rfl, fun _ hm => absurd hm List.not_mem_nil, rfl⟩

theorem SinReloj.congr (h : SinReloj k) (hfin : k'.finPorQuantum = k.finPorQuantum)
    (husuario : k'.desalojaPorUsuario = k.desalojaPorUsuario)
    (hpermisos : k'.semReplanificacionQuantum = k.semReplanificacionQuantum)
    (hmotivo : k'.motivo = k.motivo) (hmotivos : k'.porReplanificar = k.porReplanificar)
    (hcola : k'.cola .readyM = k.cola .readyM) : SinReloj k' := by
  refine ⟨hfin.trans h.finPorQuantum, husuario.trans h.porUsuario, hpermisos.trans h.permisos,
    ?_, ?_, hcola.trans h.readyM⟩
  · rw [hmotivo]
    exact h.motivo
  · rw [hmotivos]
    exact h.motivos

/-- A queue other than that of the processes with priority changes. -/
theorem SinReloj.of_update {c : List ℕ} (h : SinReloj k)
    (hcola : k'.cola = Function.update k.cola l c) (hl : l ≠ .readyM)
    (hfin : k'.finPorQuantum = k.finPorQuantum)
    (husuario : k'.desalojaPorUsuario = k.desalojaPorUsuario)
    (hpermisos : k'.semReplanificacionQuantum = k.semReplanificacionQuantum)
    (hmotivo : k'.motivo = k.motivo) (hmotivos : k'.porReplanificar = k.porReplanificar) :
    SinReloj k' :=
  h.congr hfin husuario hpermisos hmotivo hmotivos
    (by rw [hcola, Function.update_of_ne hl.symm])

/-- Another call of `replanificar` is made. -/
theorem fichas_pedir (k : Estado) (motivo : Cadena) :
    ({ k with porReplanificar := k.porReplanificar ++ [motivo] } : Estado).fichas =
      k.fichas + (noEsQuantum motivo).toNat := by
  show (k.porReplanificar ++ [motivo]).countP noEsQuantum + k.semReplanificacionQuantum +
    k.esPrimerProceso.toNat = _
  rw [List.countP_append, List.countP_singleton, Estado.fichas]
  cases noEsQuantum motivo with
  | true =>
    rw [if_pos rfl, Bool.toNat_true]
    omega
  | false => rfl

/-- Another call of `replanificar` is made, for a reason other than the quantum. -/
theorem SinReloj.pedir (h : SinReloj k) (hm : noEsQuantum motivo = true) :
    SinReloj { k with porReplanificar := k.porReplanificar ++ [motivo] } := by
  refine ⟨h.finPorQuantum, h.porUsuario, h.permisos, h.motivo, fun m hmem => ?_, h.readyM⟩
  rcases List.mem_append.1 hmem with hmem | hmem
  · exact h.motivos m hmem
  · rw [List.mem_singleton.1 hmem]
    exact hm

theorem SinReloj.wait (h : SinReloj k) (recurso : Cadena) :
    SinReloj (Kernel.wait cfg k recurso p).1 := by
  rcases wait_cases cfg k recurso p with ⟨-, heq⟩ | ⟨i, k₁, -, rfl, ⟨-, heq⟩ | ⟨-, heq⟩⟩
  · rw [heq]
    exact h
  · rw [heq]
    exact h.of_update (l := .recurso i) rfl (by simp) rfl rfl rfl rfl rfl
  · rw [heq]
    exact h.congr rfl rfl rfl rfl rfl rfl

/-! ### Waking processes up, and requests of the running process -/

section SinPrioridad

variable (hvrr : cfg.algoritmoPlanificacion ≠ .VRR)

include hvrr

theorem SinReloj.iniciar (h : SinReloj k) (hm : noEsQuantum motivo = true) :
    SinReloj (Kernel.iniciar cfg k p motivo) := by
  have hq : ¬ stringEqualsIgnoreCase motivo "QUANTUM".toList = true := by
    simpa [noEsQuantum] using hm
  unfold Kernel.iniciar
  rw [if_pos (Or.inr hvrr)]
  dsimp only
  rw [if_neg hq]
  exact h.of_update (l := .ready) rfl (by decide) rfl rfl rfl rfl rfl

theorem SinReloj.desbloquear (h : SinReloj k) (hl : l ≠ .readyM) (hm : noEsQuantum motivo = true)
    (hd : Kernel.desbloquear cfg k l motivo = some k') : SinReloj k' := by
  obtain ⟨q, k₁, hq, rfl⟩ := desbloquear_eq_some hd
  obtain ⟨resto, -, rfl⟩ := desencolar_eq_some hq
  exact SinReloj.iniciar hvrr
    (h.of_update (l := l) rfl hl rfl rfl rfl rfl rfl) hm

theorem SinReloj.signal {recurso : Cadena} {b : Bool} (h : SinReloj k)
    (hs : Kernel.signal cfg k recurso p = some (k', b)) : SinReloj k' := by
  rcases signal_cases hs with ⟨-, rfl, -⟩ | ⟨i, k₁, -, -, hk₁, hquitar⟩
  · exact h
  · obtain ⟨-, rfl⟩ := quitar_eq_some hquitar
    rcases hk₁ with ⟨-, hdes⟩ | ⟨-, rfl⟩
    · have h₀ : SinReloj { k with
          instanciasRecurso := Function.update k.instanciasRecurso i (k.instanciasRecurso i + 1)
          reloj := k.reloj.seguir cfg k.finPorQuantum } := h.congr rfl rfl rfl rfl rfl rfl
      exact (h₀.desbloquear hvrr (by simp) (by decide) hdes).congr rfl rfl rfl rfl rfl rfl
    · exact h.congr rfl rfl rfl rfl rfl rfl

theorem SinReloj.finDeIo {idInterfaz mensaje : Cadena} (h : SinReloj k)
    (hf : Kernel.finDeIo cfg k idInterfaz mensaje = some k') : SinReloj k' := by
  rcases finDeIo_cases hf with rfl | ⟨i, fin, hfin, -, hd⟩
  · exact h
  · have hm : ∀ fin ∈ mensajesDeFin, noEsQuantum fin = true := by decide
    exact h.desbloquear hvrr (by simp) (hm fin hfin) hd

theorem SinReloj.exitPrima (h : SinReloj k)
    (hx : Kernel.exitPrima cfg k p = some k') : SinReloj k' := by
  obtain ⟨k₁, hl, rfl⟩ := exitPrima_eq_some hx
  have h₁ : SinReloj k₁ := liberarRecursosDesde_induct (P := SinReloj)
    (fun _ _ _ _ h _ hs => h.signal hvrr hs) h hl
  exact h₁.of_update (l := .exit) rfl (by decide) rfl rfl rfl rfl rfl

theorem SinReloj.atenderSolicitudCpu {lista : List Cadena} (h : SinReloj k)
    (hm : noEsQuantum motivo = true)
    (ha : Kernel.atenderSolicitudCpu cfg k lista p motivo = some k') : SinReloj k' := by
  rcases atenderSolicitudCpu_cases ha with ⟨-, rfl⟩ | ⟨k₀, hk₀, hcases⟩
  · exact h.iniciar hvrr hm
  have h₀ : SinReloj k₀ := by
    rw [hk₀]
    exact h.congr rfl rfl rfl rfl rfl rfl
  rcases hcases with ⟨noCumplio, motivo', ⟨b, hmotivo⟩, ht⟩ | ⟨interfaz, -, hb⟩ |
    ⟨recurso, rfl⟩ | ⟨recurso, hs⟩ | rfl
  · obtain ⟨k₁, he, rfl⟩ := terminar_eq_some ht
    have hdesaloja : SinReloj (desalojarPorInstruccion cfg k₀) :=
      h₀.congr rfl rfl rfl rfl rfl rfl
    have h₁ := hdesaloja.exitPrima hvrr he
    exact ⟨h₁.finPorQuantum, h₁.porUsuario, h₁.permisos, motivoDeExit_eq_some hmotivo,
      h₁.motivos, h₁.readyM⟩
  · obtain ⟨i, mensajes, -, -, rfl⟩ := bloquearPorIo_eq_some hb
    exact h₀.of_update (l := .io i) rfl (by simp) rfl rfl rfl rfl rfl
  · exact h₀.wait recurso
  · exact h₀.signal hvrr hs
  · exact h₀

/-- A packet of the CPU for a reason other than the quantum. -/
theorem SinReloj.recibirPaqueteCpu {lista : List Cadena} (h : SinReloj k)
    (hm : noEsQuantum motivo = true)
    (hr : Kernel.recibirPaqueteCpu cfg k p motivo lista = some k') : SinReloj k' := by
  unfold Kernel.recibirPaqueteCpu at hr
  split_ifs at hr
  have h₀ : SinReloj { k with motivo := motivo } :=
    ⟨h.finPorQuantum, h.porUsuario, h.permisos, hm, h.motivos, h.readyM⟩
  exact h₀.atenderSolicitudCpu hvrr hm hr

end SinPrioridad

/-- The answer to `FIN_INSTRUCCION` depends only on whether the process was evicted by it. -/
theorem SinReloj.recibirMensajeCpu_eq (h : SinReloj k) :
    recibirMensajeCpu k =
      if k.desalojaPorInstruccion then
        ({ k with porReplanificar := k.porReplanificar ++ [k.motivo] }, .noContinua)
      else (k, .continua) := by
  unfold recibirMensajeCpu
  rw [if_neg (by simp [h.finPorQuantum]), h.porUsuario, if_neg Bool.false_ne_true]

/-! ### Creation, admission and dispatch -/

theorem SinReloj.administrarProcesosNew (h : SinReloj k)
    (ha : Kernel.administrarProcesosNew k = some k') : SinReloj k' := by
  obtain ⟨q, k₁, pendientes, primero, -, -, hd, ⟨rfl, rfl⟩, rfl⟩ :=
    administrarProcesosNew_eq_some ha
  obtain ⟨resto, -, rfl⟩ := desencolar_eq_some hd
  have hpide : SinReloj { k with porReplanificar :=
      k.porReplanificar ++ if k.esPrimerProceso then ["NEW".toList] else [] } := by
    have hm : noEsQuantum "NEW".toList = true := by decide
    split_ifs
    · exact h.pedir hm
    · exact h.congr rfl rfl rfl rfl (List.append_nil _) rfl
  have hsale : SinReloj { k with cola := Function.update k.cola .new resto, porReplanificar :=
      k.porReplanificar ++ if k.esPrimerProceso then ["NEW".toList] else [] } :=
    hpide.of_update (l := .new) rfl (by decide) rfl rfl rfl rfl rfl
  exact hsale.of_update (l := .ready) rfl (by decide) rfl rfl rfl rfl rfl

theorem SinReloj.conectarInterfaz (h : SinReloj k) (idInterfaz permitidas : Cadena)
    (conexion : ℤ) : SinReloj (Kernel.conectarInterfaz k idInterfaz permitidas conexion) := by
  unfold Kernel.conectarInterfaz
  dsimp only
  split_ifs
  · exact h.congr rfl rfl rfl rfl rfl rfl
  · exact h.of_update (l := .io k.interfaces.length) rfl (by simp) rfl rfl rfl rfl rfl

/-- Without priorities every process is taken from `cola_ready`. -/
theorem empezarReplanificacion_ready (hvrr : cfg.algoritmoPlanificacion ≠ .VRR)
    (he : Kernel.empezarReplanificacion cfg k motivo = some (k', l)) : l = .ready := by
  have helegir : ∀ k : Estado, elegirCola cfg k motivo = .ready := by
    intro k
    rw [elegirCola, if_neg (fun hc => hvrr hc.1)]
  unfold Kernel.empezarReplanificacion at he
  simp only [helegir] at he
  split_ifs at he <;>
    · cases he
      rfl

/-- A call of `replanificar` that is taken up waits for no quantum. -/
theorem SinReloj.empezarReplanificacion (h : SinReloj k)
    (he : Kernel.empezarReplanificacion cfg k motivo = some (k', l)) :
    SinReloj { k' with porReplanificar := k'.porReplanificar.erase motivo } := by
  obtain ⟨quantum, rfl, -, hquantum⟩ := empezarReplanificacion_eq_some he
  rw [h.permisos] at hquantum
  exact ⟨h.finPorQuantum, h.porUsuario, Nat.eq_zero_of_add_eq_zero_right hquantum, h.motivo,
    fun m hm => h.motivos m (List.mem_of_mem_erase hm), h.readyM⟩

/-- A process is taken from `cola_ready`, since the other queue is empty. -/
theorem SinReloj.terminarReplanificacion (h : SinReloj k)
    (ht : Kernel.terminarReplanificacion k l = some k') : SinReloj k' := by
  obtain ⟨m, q, k₁, _, _, _, _, hm, hd, rfl⟩ := terminarReplanificacion_desencola ht
  obtain ⟨resto, hcola, rfl⟩ := desencolar_eq_some hd
  refine h.of_update (l := m) rfl ?_ rfl rfl rfl rfl rfl
  rintro rfl
  rw [h.readyM] at hcola
  cases hcola

/-- A dispatch takes a permit and a pid with the process. -/
theorem Sincronizados.terminarReplanificacion (h : Sincronizados k)
    (ht : Kernel.terminarReplanificacion k l = some k') : Sincronizados k' := by
  obtain ⟨hnew, hready, hreadyM, hpids, hpidsM⟩ := h
  obtain ⟨q, k₁, ⟨-, -, hd, rfl⟩ | ⟨-, -, hd, rfl⟩⟩ := terminarReplanificacion_eq_some ht
  · obtain ⟨resto, hcola, rfl⟩ := desencolar_eq_some hd
    have hcola : k.cola .readyM = q :: resto := hcola
    constructor <;> simp [pasarAExec, Estado.cambiarEstado, hnew, hready, hreadyM, hpids, hpidsM,
      hcola]
  · obtain ⟨resto, hcola, rfl⟩ := desencolar_eq_some hd
    have hcola : k.cola .ready = q :: resto := hcola
    constructor <;> simp [pasarAExec, Estado.cambiarEstado, hnew, hready, hreadyM, hpids, hpidsM,
      hcola]

end SimuladorSO.Kernel
