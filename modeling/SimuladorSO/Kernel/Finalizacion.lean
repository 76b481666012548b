import SimuladorSO.Kernel.Nodos
import SimuladorSO.Kernel.Interfaces
import SimuladorSO.Kernel.Semaforos
import SimuladorSO.Kernel.Desalojos

/-!
# `FINALIZAR_PROCESO`

What the console command leaves of a process, from whatever state, and of the others.

* `finalizarEnConsola`: the command with its wait for the end of the instruction;
* `Finalizado`, `FinalizaBien`: the process is in `cola_exit`, nothing else is left of it, and only
  those that its resources wake up have moved;
* `Finalizable`: the states of the process from which it is so;
* `Registrados`: what every step keeps of the lists that the command reads;
* `finalizarProceso_iff`: exactly from which states the command does what it should.
-/

namespace SimuladorSO.Kernel

open Queues Counting Transitions Commons Dictionary

/-- `FINALIZAR_PROCESO` in the thread of the console.  For a process in EXEC it sets its flag and
waits for a permit, which the handler of the next message of the CPU, the end of the instruction,
may post. -/
def finalizarEnConsola (cfg : KernelConfiguracion) (k : Estado) (pid : ℕ) : Option Estado :=
  (encontrarPcb cfg k pid).bind fun k =>
    if k.estado pid = some .exec then
      let k₁ := (recibirMensajeCpu { k with desalojaPorUsuario := true }).1
      if k₁.semCasoExitUsuario = k.semCasoExitUsuario then none
      else
        let k₁ := { k₁ with semCasoExitUsuario := k₁.semCasoExitUsuario - 1 }
        exitPrima cfg (pedidoDeDesalojo k₁ "FINALIZAR_PROCESO".toList pid) pid
    else exitPrima cfg k pid

/-- The process is once in `cola_exit`, and nothing else is left of it. -/
structure Finalizado (k : Estado) (p : ℕ) : Prop where
  enExit : (k.enCola .exit).count p = 1
  enOtra : ∀ l, l ≠ .exit → p ∉ k.enCola l
  colaExec : p ∉ k.colaExec
  pids : p ∉ k.listaPidsReady
  pidsM : p ∉ k.listaPidsReadyM
  estado : k.estado p = some .exit
  recursos : ∀ r ∈ k.listaRecursosRetenidos, r.pid ≠ p
  /-- Memoria has been asked once to release it. -/
  memoria : k.enviados.count (.finalizarProceso p) = 1

/-- The process is in the same state and the same queues. -/
structure DondeEstaba (k k' : Estado) (q : ℕ) : Prop where
  estado : k'.estado q = k.estado q
  colas : ∀ l, q ∈ k'.enCola l ↔ q ∈ k.enCola l
  exec : q ∈ k'.colaExec ↔ q ∈ k.colaExec

/-- The records of a process for a resource. -/
def RecursosRetenidos.esDeProceso (cfg : KernelConfiguracion) (p i : ℕ) (r : RecursosRetenidos) :
    Bool :=
  r.pid == p && r.esDe cfg i

/-- The instances of a resource that the process has got: its records, but for that of the
instance for which it waits. -/
def Estado.otorgadas (cfg : KernelConfiguracion) (k : Estado) (p i : ℕ) : ℕ :=
  k.listaRecursosRetenidos.countP (RecursosRetenidos.esDeProceso cfg p i) -
    (if p ∈ k.cola (.recurso i) then 1 else 0)

/-- The state of a process that a resource wakes up. -/
def estadoAlDespertar (cfg : KernelConfiguracion) : EstadoProceso :=
  if cfg.algoritmoPlanificacion = .VRR then .readyM else .ready

/-- A process that waited for a resource that `p` had got is ready. -/
def Despertado (cfg : KernelConfiguracion) (k k' : Estado) (p q : ℕ) : Prop :=
  ∃ i, 0 < k.otorgadas cfg p i ∧ q ∈ k.cola (.recurso i) ∧
    k'.estado q = some (estadoAlDespertar cfg)

/-- The command comes back, the process has ended, and every other one is where it was, but for
those that its resources wake up. -/
def FinalizaBien (cfg : KernelConfiguracion) (k : Estado) (p : ℕ) : Prop :=
  ∃ k', finalizarEnConsola cfg k p = some k' ∧ Finalizado k' p ∧
    ∀ q ≠ p, DondeEstaba k k' q ∨ Despertado cfg k k' p q

/-- The process is new, in EXEC at the end of an instruction that neither evicts it nor ends its
quantum, or waits for a resource whose name is not taken for another; its pid is in no list of those
that are ready; and `cola_exec` does not hold it but in EXEC. -/
def Finalizable (k : Estado) (p : ℕ) : Prop :=
  ∃ e, k.estado p = some e ∧ e.finalizable = true ∧ p ∉ k.listaPidsReady ∧
    p ∉ k.listaPidsReadyM ∧
    (if e = .exec then k.finPorQuantum = false ∧ k.desalojaPorInstruccion = false
      else p ∉ k.colaExec)

variable {cfg : KernelConfiguracion} {fuera : Finset ℕ} {k k₁ k' : Estado} {p q : ℕ} {l : Lugar}
  {motivo : Cadena}

/-! ### The release of the resources -/

theorem signal_colaExec {recurso : Cadena} {b : Bool} (h : signal cfg k recurso p = some (k', b)) :
    k'.colaExec = k.colaExec := by
  rcases signal_cases h with ⟨-, rfl, -⟩ | ⟨i, k₁, -, -, ⟨-, hdes⟩ | ⟨-, rfl⟩, hquitar⟩
  · rfl
  · obtain ⟨-, rfl⟩ := quitar_eq_some hquitar
    obtain ⟨q, k₂, hd, rfl⟩ := desbloquear_eq_some hdes
    obtain ⟨resto, -, rfl⟩ := desencolar_eq_some hd
    exact iniciar_colaExec _ _
  · obtain ⟨-, rfl⟩ := quitar_eq_some hquitar
    rfl

theorem liberarRecursos_colaExec (h : liberarRecursos cfg k p = some k') :
    k'.colaExec = k.colaExec :=
  liberarRecursosDesde_induct (P := fun k₁ => k₁.colaExec = k.colaExec)
    (fun _ _ _ _ h _ hs => (signal_colaExec hs).trans h) rfl h

/-- The loop of `liberar_recursos` ends when there are no records left. -/
theorem liberarRecursosDesde_sin_registros {fuel : ℕ}
    (h : liberarRecursosDesde cfg p fuel k = some k') :
    ∀ r ∈ k'.listaRecursosRetenidos, r.pid ≠ p :=
  liberarRecursosDesde_elim (P := fun _ k' => ∀ r ∈ k'.listaRecursosRetenidos, r.pid ≠ p)
    (fun _ hnone => by simpa using hnone) (fun _ _ _ _ _ _ _ ih => ih) h

/-- What the release of the resources of a process does to the others. -/
structure Soltados (cfg : KernelConfiguracion) (p : ℕ) (k k' : Estado) : Prop where
  registros : List.Sublist k'.listaRecursosRetenidos k.listaRecursosRetenidos
  colas : ∀ i q, q ∈ k'.cola (.recurso i) → q ∈ k.cola (.recurso i)
  estados : ∀ q, k'.estado q = k.estado q ∨
    ∃ i, (∃ r ∈ k.listaRecursosRetenidos, r.esDeProceso cfg p i = true) ∧
      q ∈ k.cola (.recurso i) ∧ k'.estado q = some (estadoAlDespertar cfg)

theorem Soltados.refl (cfg : KernelConfiguracion) (p : ℕ) (k : Estado) : Soltados cfg p k k :=
  ⟨List.Sublist.refl _, fun _ _ h => h, fun _ => Or.inl rfl⟩

theorem Soltados.trans (h : Soltados cfg p k k₁) (h₁ : Soltados cfg p k₁ k') :
    Soltados cfg p k k' where
  registros := h₁.registros.trans h.registros
  colas i q hq := h.colas i q (h₁.colas i q hq)
  estados q := by
    rcases h₁.estados q with heq | ⟨i, ⟨r, hr, hde⟩, hq, hready⟩
    · rw [heq]
      exact h.estados q
    · exact Or.inr ⟨i, ⟨r, h.registros.mem hr, hde⟩, h.colas i q hq, hready⟩

/-- The state that `iniciar` gives for a reason other than the quantum. -/
theorem iniciar_estadoAlDespertar (hmotivo : stringEqualsIgnoreCase motivo "QUANTUM".toList = false)
    (k : Estado) (p : ℕ) : (iniciar cfg k p motivo).listaEstados =
      k.listaEstados.set (p - 1) (estadoAlDespertar cfg) := by
  unfold iniciar estadoAlDespertar
  by_cases hvrr : cfg.algoritmoPlanificacion = .VRR
  · rw [if_neg (by rw [hmotivo]; simp [hvrr]), if_pos hvrr]
    rfl
  · rw [if_pos (Or.inr hvrr), if_neg hvrr]
    dsimp only
    split_ifs <;> rfl

/-- The head of the queue of a resource becomes ready, and nobody else changes. -/
theorem Ubicados.desbloquear_soltados {i : ℕ} (h : Ubicados cfg fuera k)
    (hr : ∃ r ∈ k.listaRecursosRetenidos, r.esDeProceso cfg p i = true)
    (hmotivo : stringEqualsIgnoreCase motivo "QUANTUM".toList = false)
    (hd : Kernel.desbloquear cfg k (.recurso i) motivo = some k') : Soltados cfg p k k' := by
  obtain ⟨q₀, k₁, hq₀, rfl⟩ := desbloquear_eq_some hd
  obtain ⟨-, -, hsacado⟩ := h.desencolar hq₀
  obtain ⟨resto, hcola, rfl⟩ := desencolar_eq_some hq₀
  obtain ⟨-, hlista, hcolas⟩ := desbloquear_recursos hd
  refine ⟨by rw [hlista], fun j q hq => ?_, fun q => ?_⟩
  · rw [hcolas] at hq
    split_ifs at hq
    · exact List.mem_of_mem_tail hq
    · exact hq
  · have hset := @iniciar_estadoAlDespertar cfg _ hmotivo
      { k with cola := Function.update k.cola (.recurso i) resto } q₀
    have hest := (hsacado.estado_set (Finset.mem_insert_self q₀ fuera) hset).2
    rw [hest, Function.update_apply]
    split_ifs with hqq
    · subst hqq
      exact Or.inr ⟨i, hr, by simp [hcola], rfl⟩
    · exact Or.inl rfl

theorem Ubicados.signal_soltados {r : RecursosRetenidos} {b : Bool} (h : Ubicados cfg fuera k)
    (hr : r ∈ k.listaRecursosRetenidos) (hp : r.pid = p)
    (hs : Kernel.signal cfg k r.recurso p = some (k', b)) : Soltados cfg p k k' := by
  rcases signal_cases hs with ⟨-, rfl, -⟩ | ⟨i, k₁, hi, -, hk₁, hquitar⟩
  · exact .refl cfg p k'
  obtain ⟨-, rfl⟩ := quitar_eq_some hquitar
  have hde : r.esDeProceso cfg p i = true := by
    simp [RecursosRetenidos.esDeProceso, RecursosRetenidos.esDe, hp, hi]
  have h₁ : Soltados cfg p k k₁ := by
    rcases hk₁ with ⟨-, hdes⟩ | ⟨-, rfl⟩
    · have h₀ : Ubicados cfg fuera { k with
          instanciasRecurso := Function.update k.instanciasRecurso i (k.instanciasRecurso i + 1)
          reloj := k.reloj.seguir cfg k.finPorQuantum } := h.congr rfl rfl rfl rfl rfl
      have hdesp := h₀.desbloquear_soltados (p := p) ⟨r, hr, hde⟩ (by decide) hdes
      exact ⟨hdesp.registros, hdesp.colas, hdesp.estados⟩
    · exact ⟨List.Sublist.refl _, fun _ _ h => h, fun _ => Or.inl rfl⟩
  exact h₁.trans ⟨List.eraseP_sublist, fun _ _ h => h, fun _ => Or.inl rfl⟩

theorem Ubicados.liberarRecursos_soltados (h : Ubicados cfg fuera k)
    (hl : Kernel.liberarRecursos cfg k p = some k') : Soltados cfg p k k' := by
  refine (liberarRecursosDesde_induct
    (P := fun k₁ => Ubicados cfg fuera k₁ ∧ Soltados cfg p k k₁) ?_ ⟨h, .refl cfg p k⟩ hl).2
  rintro k₁ k₂ b r ⟨hu, hsoltados⟩ hfind hs
  have hpid : r.pid = p := by simpa using List.find?_some hfind
  exact ⟨hu.signal hs,
    hsoltados.trans (hu.signal_soltados (List.mem_of_find?_eq_some hfind) hpid hs)⟩

/-! ### `encontrar_pcb` -/

/-- The process leaves `cola_exec` if it is in EXEC; its state and the other processes stay. -/
theorem Ubicados.encontrarPcb_frame (h : Ubicados cfg ∅ k) (hsem : ∀ i, k.semHayProceso i = 0)
    (he : Kernel.encontrarPcb cfg k p = some k') :
    k'.listaEstados = k.listaEstados ∧ k'.interfaces = k.interfaces ∧
      k'.enviados = k.enviados ∧ k'.colaExec =
        if k.estado p = some .exec then k.colaExec.filter fun q => q != p else k.colaExec := by
  have hadmitido : Ubicados cfg ∅ { k with
      semMultiprogramacion := k.semMultiprogramacion + 1 } := h.congr rfl rfl rfl rfl rfl
  have hexec : k'.colaExec =
      if k.estado p = some .exec then k.colaExec.filter fun q => q != p else k.colaExec := by
    rcases encontrarPcb_cases he with ⟨hs, hsacar⟩ | ⟨hs, hsacar⟩ | ⟨hs, hsacar⟩ |
      ⟨hs, resto, hresto, rfl⟩ | ⟨i, hpermiso, -⟩ |
      ⟨e, i, k₁, hs, -, -, -, hno, -, hsacar, hquitar⟩
    · obtain ⟨-, rfl⟩ := sacarDe_eq_some (h.colocados.nodup _) hsacar
      simp [hs]
    · obtain ⟨-, rfl⟩ := sacarDe_eq_some (hadmitido.colocados.nodup _) hsacar
      simp [hs]
    · obtain ⟨-, rfl⟩ := sacarDe_eq_some (hadmitido.colocados.nodup _) hsacar
      simp [hs]
    · rw [pcbEnCola_eq] at hresto
      split_ifs at hresto
      rw [if_pos hs]
      exact (Option.some.inj hresto).symm
    · exact absurd (hsem i) hpermiso
    · obtain ⟨-, rfl⟩ := sacarDe_eq_some (h.colocados.nodup _) hsacar
      obtain ⟨-, rfl⟩ := quitar_eq_some hquitar
      simp [hs, hno]
  obtain ⟨_, _, _, _, _, _, rfl⟩ := encontrarPcb_eq_some he
  exact ⟨rfl, rfl, rfl, hexec⟩

/-- One record of the process is taken away. -/
theorem countP_esDeProceso_eraseP {recurso : Cadena} {lista : List RecursosRetenidos} {j : ℕ}
    (hj : encontrarColaRecurso cfg recurso = some j)
    (hany : lista.any (RecursosRetenidos.concuerda recurso p) = true) (i : ℕ) :
    lista.countP (RecursosRetenidos.esDeProceso cfg p i) =
      (lista.eraseP (RecursosRetenidos.concuerda recurso p)).countP
        (RecursosRetenidos.esDeProceso cfg p i) + if i = j then 1 else 0 := by
  obtain ⟨r, hr, hcon⟩ := List.any_eq_true.1 hany
  obtain ⟨a, l₁, l₂, -, ha, heq, herase⟩ := List.exists_of_eraseP hr hcon
  obtain ⟨hnombre, hpid⟩ := concuerda_iff.1 ha
  have hde : RecursosRetenidos.esDeProceso cfg p i a = decide (i = j) := by
    simp only [RecursosRetenidos.esDeProceso, RecursosRetenidos.esDe, hpid,
      encontrarColaRecurso_congr hnombre, hj, beq_self_eq_true, Bool.true_and]
    by_cases hij : i = j
    · simp [hij]
    · simp [hij, Ne.symm hij]
  rw [herase, heq, List.countP_append, List.countP_append, List.countP_cons, hde]
  simp only [decide_eq_true_eq]
  exact (Nat.add_assoc _ _ _).symm

/-- The records that are left to be released are those of the instances that it has got. -/
theorem Ubicados.encontrarPcb_otorgadas (h : Ubicados cfg ∅ k)
    (hsem : ∀ i, k.semHayProceso i = 0) (he : Kernel.encontrarPcb cfg k p = some k') :
    List.Sublist k'.listaRecursosRetenidos k.listaRecursosRetenidos ∧
      ∀ i, k'.listaRecursosRetenidos.countP (RecursosRetenidos.esDeProceso cfg p i) =
        k.otorgadas cfg p i := by
  have hadmitido : Ubicados cfg ∅ { k with
      semMultiprogramacion := k.semMultiprogramacion + 1 } := h.congr rfl rfl rfl rfl rfl
  -- a process that is in another queue waits for no resource
  have hqueda : ∀ {k' : Estado}, k'.listaRecursosRetenidos = k.listaRecursosRetenidos →
      (∀ i, p ∉ k.cola (.recurso i)) →
      List.Sublist k'.listaRecursosRetenidos k.listaRecursosRetenidos ∧
        ∀ i, k'.listaRecursosRetenidos.countP (RecursosRetenidos.esDeProceso cfg p i) =
          k.otorgadas cfg p i := by
    intro k' hlista hno
    rw [hlista]
    exact ⟨List.Sublist.refl _, fun i => by rw [Estado.otorgadas, if_neg (hno i), Nat.sub_zero]⟩
  have hotra : ∀ {l}, p ∈ k.cola l → (∀ i, Lugar.recurso i ≠ l) → ∀ i, p ∉ k.cola (.recurso i) := by
    intro l hp hl i hpi
    exact hl i (h.colocados.eq_of_mem hpi hp)
  rcases encontrarPcb_cases he with ⟨-, hs⟩ | ⟨-, hs⟩ | ⟨-, hs⟩ | ⟨hexec, resto, -, rfl⟩ |
    ⟨i, hpermiso, -⟩ | ⟨e, j, k₁, -, -, -, -, -, hj, hs, hq⟩
  · obtain ⟨hp, rfl⟩ := sacarDe_eq_some (h.colocados.nodup _) hs
    exact hqueda rfl (hotra hp (by simp))
  · obtain ⟨hp, rfl⟩ := sacarDe_eq_some (hadmitido.colocados.nodup _) hs
    exact hqueda rfl (hotra hp (by simp))
  · obtain ⟨hp, rfl⟩ := sacarDe_eq_some (hadmitido.colocados.nodup _) hs
    exact hqueda rfl (hotra hp (by simp))
  · exact hqueda rfl fun i => (h.apartar hexec).notMem_cola (Finset.mem_insert_self p ∅) _
  · exact absurd (hsem i) hpermiso
  · obtain ⟨hp, rfl⟩ := sacarDe_eq_some (h.colocados.nodup _) hs
    obtain ⟨hany, rfl⟩ := quitar_eq_some hq
    refine ⟨List.eraseP_sublist, fun i => ?_⟩
    have hcola : p ∈ k.cola (.recurso i) ↔ i = j := by
      have hplace := (h.colocados.mem_iff _ p).1 hp
      rw [h.colocados.mem_iff, hplace]
      simpa using eq_comm
    have hcuenta := countP_esDeProceso_eraseP hj hany i
    dsimp only at hcuenta ⊢
    rw [Estado.otorgadas, hcuenta]
    simp only [hcola, Nat.add_sub_cancel]

/-! ### Every step -/

/-- A process that `encontrar_pcb` finds has not ended. -/
theorem Ubicados.encontrarPcb_exit (h : Ubicados cfg ∅ k)
    (he : Kernel.encontrarPcb cfg k p = some k') :
    p ∉ k.cola .exit ∧ k'.cola .exit = k.cola .exit := by
  have hno : p ∉ k.cola .exit := by
    obtain ⟨e, hs, -, hcases⟩ := h.encontrarPcb_grado he
    intro hp
    rw [h.exit_iff.2 hp] at hs
    cases hs
    simp [EstadoProceso.bloqueado] at hcases
  exact ⟨hno, by rw [(h.encontrarPcb_colas he).1, List.erase_of_not_mem hno]⟩

/-- A message to the CPU ends no process. -/
theorem pedidoDeDesalojo_salidas (k : Estado) (motivo : Cadena) (p : ℕ) :
    Salidas k (pedidoDeDesalojo k motivo p) :=
  ⟨[], (List.append_nil _).symm, List.filterMap_append⟩

/-- No step takes a process out of `cola_exit`, or puts one in without asking memoria for it. -/
theorem paso_salidas (h : Ubicados cfg ∅ k) (hsem : ∀ i, k.semHayProceso i = 0) {ev : Evento}
    (hp : paso cfg k ev = some k') : Salidas k k' := by
  cases ev with
  | iniciarProceso path =>
    cases hp
    exact (h.iniciarProceso_ajeno path).salidas
  | finalizarProceso p =>
    obtain ⟨k₁, he, hx⟩ := Option.bind_eq_some_iff.1 hp
    obtain ⟨-, -, henv, -⟩ := h.encontrarPcb_frame hsem he
    have h₁ := h.encontrarPcb he
    have hsalidas : Salidas k k₁ := .congr (h.encontrarPcb_exit he).2 henv
    dsimp only at hx
    split_ifs at hx
    · have h₂ : Ubicados cfg (insert p ∅)
          (pedidoDeDesalojo k₁ "FINALIZAR_PROCESO".toList p) := h₁.congr rfl rfl rfl rfl rfl
      exact (hsalidas.trans (pedidoDeDesalojo_salidas k₁ _ p)).trans (h₂.exitPrima_salidas hx)
    · exact hsalidas.trans (h₁.exitPrima_salidas hx)
  | iniciarPlanificacion =>
    cases hp
    exact .congr rfl rfl
  | detenerPlanificacion =>
    obtain ⟨-, rfl⟩ := detenerPlanificacion_eq_some hp
    exact .congr rfl rfl
  | administrarProcesosNew => exact (h.administrarProcesosNew_ajeno hp).salidas
  | replanificar motivo =>
    obtain ⟨hexec, hr⟩ := paso_replanificar_eq_some hp
    obtain ⟨quantum, l, ht⟩ := replanificar_eq_some hr
    have h₀ : Ubicados cfg ∅ { k with
        semPlanificacion := k.semPlanificacion - 1
        semReplanificacionQuantum := quantum
        porReplanificar := k.porReplanificar.erase motivo } := h.congr rfl rfl rfl rfl rfl
    obtain ⟨q, -, -, hexit, hfin, -⟩ :=
      h₀.terminarReplanificacion_frame (h.sin_exec hexec) ht
    exact ⟨[], by rw [hexit, List.append_nil], by rw [hfin, List.append_nil]; rfl⟩
  | enviarACpu =>
    obtain ⟨-, rfl⟩ := enviarACpu_eq_some hp
    exact .congr rfl rfl
  | paquete motivo lista =>
    obtain ⟨pid, hpid, hr⟩ := paquete_eq_some hp
    have hmotivo : Salidas k { k with motivo := motivo } := .congr rfl rfl
    have h₀ : Ubicados cfg ∅ { k with motivo := motivo } := h.congr rfl rfl rfl rfl rfl
    refine hmotivo.trans ?_
    cases hq : noEsQuantum motivo with
    | true =>
      rcases h₀.atenderSolicitudCpu_desalojos (h.enEjecucion_iff.1 hpid) hq hr with hk | hk
      · exact hk.salidas
      · exact hk.salidas
    | false =>
      have hquantum : stringEqualsIgnoreCase motivo "QUANTUM".toList = true := by
        simpa only [noEsQuantum, Bool.not_eq_false'] using hq
      simp only [atenderSolicitudCpu, hquantum, if_true, Option.some.injEq] at hr
      subst hr
      obtain ⟨hexit, henv, -⟩ := iniciar_frame cfg { k with motivo := motivo } pid motivo
      exact .congr hexit henv
  | finInstruccion =>
    cases hp
    unfold recibirMensajeCpu
    split_ifs <;> exact .congr rfl rfl
  | quantum finPorQuantum =>
    cases hp
    exact .congr rfl rfl
  | conectarInterfaz idInterfaz permitidas conexion =>
    cases hp
    exact (conectarInterfaz_ajeno k idInterfaz permitidas conexion).salidas
  | finDeIo idInterfaz mensaje => exact (h.finDeIo_ajeno hp).salidas

/-- The names of the interfaces and what is kept under them have not changed; their queues may
have. -/
structure MismosNombres (k k' : Estado) : Prop where
  interfaces : k'.interfaces = k.interfaces
  semHayProceso : k'.semHayProceso = k.semHayProceso
  conexiones : k'.diccionarioConexionesIo = k.diccionarioConexionesIo
  permitidas : k'.diccionarioInstruccionesPermitidasIo = k.diccionarioInstruccionesPermitidasIo

theorem MismosNombres.refl (k : Estado) : MismosNombres k k := ⟨rfl, rfl, rfl, rfl⟩

theorem MismosNombres.trans (h : MismosNombres k k₁) (h₁ : MismosNombres k₁ k') :
    MismosNombres k k' where
  interfaces := h₁.interfaces.trans h.interfaces
  semHayProceso := h₁.semHayProceso.trans h.semHayProceso
  conexiones := h₁.conexiones.trans h.conexiones
  permitidas := h₁.permitidas.trans h.permitidas

theorem MismasInterfaces.nombres (h : MismasInterfaces k k') : MismosNombres k k' :=
  ⟨h.interfaces, h.semHayProceso, h.conexiones, h.permitidas⟩

/-- Only a connection adds a name or changes what is kept under one. -/
theorem paso_mismosNombres (hsem : ∀ i, k.semHayProceso i = 0) {ev : Evento}
    (hno : ∀ idInterfaz permitidas conexion, ev ≠ .conectarInterfaz idInterfaz permitidas conexion)
    (hp : paso cfg k ev = some k') : MismosNombres k k' := by
  cases ev with
  | paquete motivo lista =>
    obtain ⟨pid, -, hr⟩ := paquete_eq_some hp
    have hmotivo : MismosNombres k { k with motivo := motivo } := ⟨rfl, rfl, rfl, rfl⟩
    rcases atenderSolicitudCpu_interfaces hr with hk | ⟨k₀, interfaz, hk, -, hb⟩
    · exact hmotivo.trans hk.nombres
    · obtain ⟨i, mensajes, -, -, rfl⟩ := bloquearPorIo_eq_some hb
      exact (hmotivo.trans hk.nombres).trans ⟨rfl, rfl, rfl, rfl⟩
  | conectarInterfaz idInterfaz permitidas conexion => exact absurd rfl (hno _ _ _)
  | finDeIo idInterfaz mensaje =>
    rcases finDeIo_cases hp with rfl | ⟨i, fin, -, -, hd⟩
    · exact .refl _
    · obtain ⟨q, k₁, hq, rfl⟩ := desbloquear_eq_some hd
      obtain ⟨resto, -, rfl⟩ := desencolar_eq_some hq
      refine MismosNombres.trans ?_ (iniciar_mismasInterfaces cfg _ q _).nombres
      exact ⟨rfl, rfl, rfl, rfl⟩
  | finalizarProceso pid => exact (finalizarProceso_mismasInterfaces hsem hp).nombres
  | administrarProcesosNew => exact (administrarProcesosNew_mismasInterfaces hp).nombres
  | replanificar motivo =>
    have hk := (replanificar_mismasInterfaces (paso_replanificar_eq_some hp).2).nombres
    exact ⟨hk.interfaces, hk.semHayProceso, hk.conexiones, hk.permitidas⟩
  | enviarACpu =>
    obtain ⟨-, rfl⟩ := enviarACpu_eq_some hp
    exact ⟨rfl, rfl, rfl, rfl⟩
  | detenerPlanificacion =>
    obtain ⟨-, rfl⟩ := detenerPlanificacion_eq_some hp
    exact ⟨rfl, rfl, rfl, rfl⟩
  | finInstruccion =>
    cases hp
    unfold recibirMensajeCpu
    split_ifs <;> exact ⟨rfl, rfl, rfl, rfl⟩
  | _ =>
    cases hp
    exact ⟨rfl, rfl, rfl, rfl⟩

/-- Nothing posts the semaphore of an interface. -/
theorem paso_semHayProceso (hsem : ∀ i, k.semHayProceso i = 0) {ev : Evento}
    (hp : paso cfg k ev = some k') : ∀ i, k'.semHayProceso i = 0 := by
  by_cases hno : ∀ idInterfaz permitidas conexion,
      ev ≠ .conectarInterfaz idInterfaz permitidas conexion
  · intro i
    rw [(paso_mismosNombres hsem hno hp).semHayProceso, hsem]
  · push Not at hno
    obtain ⟨idInterfaz, permitidas, conexion, rfl⟩ := hno
    cases hp
    unfold conectarInterfaz
    dsimp only
    intro i
    split_ifs
    · exact hsem i
    · show Function.update k.semHayProceso k.interfaces.length 0 i = 0
      rw [Function.update_apply]
      split_ifs
      · rfl
      · exact hsem i

/-- What the lists that `FINALIZAR_PROCESO` reads have to do with the queues. -/
structure Registrados (cfg : KernelConfiguracion) (k : Estado) : Prop where
  ubicados : Ubicados cfg ∅ k
  contados : Contados cfg k
  semHayProceso : ∀ i, k.semHayProceso i = 0
  finalizados : k.finalizados = k.cola .exit
  /-- A ready process is in its list; what else is there was left by processes that ended. -/
  pids : List.Sublist (k.cola .ready) k.listaPidsReady
  pidsM : List.Sublist (k.cola .readyM) k.listaPidsReadyM
  /-- Only nodes of `cola_exit` are overwritten. -/
  pisados : ∀ q ∈ k.pisados, q ∈ k.cola .exit

theorem registrados_inicial (cfg : KernelConfiguracion) :
    Registrados cfg (Estado.inicial cfg) where
  ubicados := ubicados_inicial cfg
  contados := contados_inicial cfg
  semHayProceso _ := rfl
  finalizados := rfl
  pids := List.Sublist.refl _
  pidsM := List.Sublist.refl _
  pisados _ hq := absurd hq List.not_mem_nil

/-- A queue from which the head is taken is still a part of its list without its head. -/
theorem sublist_tail {cola lista : List ℕ} {resto : List ℕ} (h : List.Sublist cola lista)
    (hcola : cola = p :: resto) : List.Sublist resto lista.tail := by
  have htail := h.tail
  rwa [hcola, List.tail_cons] at htail

theorem paso_registrados (h : Registrados cfg k) {ev : Evento} (hp : paso cfg k ev = some k') :
    Registrados cfg k' := by
  obtain ⟨hu, hc, hsem, hfin, hpids, hpidsM, hpisados⟩ := h
  obtain ⟨ps, hexit, hfin'⟩ := paso_salidas hu hsem hp
  obtain ⟨hsigue, -, hnuevos, -⟩ := paso_pisados hp
  obtain ⟨k₁, hsale, -, -, ⟨r, hr, hpr, -⟩, ⟨m, hm, hpm, -⟩⟩ := paso_colas hu hp
  have hk₁ : List.Sublist (k₁.cola .ready) k₁.listaPidsReady ∧
      List.Sublist (k₁.cola .readyM) k₁.listaPidsReadyM := by
    cases hsale with
    | nadie => exact ⟨hpids, hpidsM⟩
    | crea p => exact ⟨by simpa using hpids, by simpa using hpidsM⟩
    | admite hcola => exact ⟨by simpa using hpids, by simpa using hpidsM⟩
    | despacha hcola => exact ⟨by simpa using sublist_tail hpids hcola, by simpa using hpidsM⟩
    | despachaM hcola => exact ⟨by simpa using hpids, by simpa using sublist_tail hpidsM hcola⟩
    | finaliza hev hcolas hsemNew hready hreadyM hlista hlistaM =>
      rw [hcolas, hcolas, hlista, hlistaM]
      exact ⟨List.erase_sublist.trans hpids, List.erase_sublist.trans hpidsM⟩
  refine ⟨paso_ubicados hu hp, (paso_recursos hc hu hp).1, paso_semHayProceso hsem hp,
    by rw [hfin', hfin, hexit], ?_, ?_, fun q hq => ?_⟩
  · rw [hr, hpr]
    exact List.Sublist.append hk₁.1 (List.Sublist.refl r)
  · rw [hm, hpm]
    exact List.Sublist.append hk₁.2 (List.Sublist.refl m)
  · exact (hnuevos q hq).elim (fun hq => hsigue q (hpisados q hq)) id

/-! ### The command -/

theorem Registrados.congr_usuario (h : Registrados cfg k) (b : Bool) :
    Registrados cfg { k with desalojaPorUsuario := b } :=
  ⟨h.ubicados.congr rfl rfl rfl rfl rfl, h.contados.congr ⟨rfl, rfl, fun _ => rfl⟩,
    h.semHayProceso, h.finalizados, h.pids, h.pidsM, h.pisados⟩

/-- A queue without overwritten nodes holds its processes. -/
theorem mem_enCola (h : p ∉ k.pisados) : p ∈ k.enCola l ↔ p ∈ k.cola l := by
  unfold Estado.enCola
  split_ifs with hl
  · rw [hl, List.mem_filter]
    simp [h]
  · rfl

theorem mem_enCola_congr (hpisados : k'.pisados = k.pisados)
    (hcola : ∀ l, q ∈ k'.cola l ↔ q ∈ k.cola l) (l : Lugar) :
    q ∈ k'.enCola l ↔ q ∈ k.enCola l := by
  unfold Estado.enCola
  split_ifs
  · rw [List.mem_filter, List.mem_filter, hpisados, hcola]
  · exact hcola l

/-- A process in EXIT has been pushed to `cola_exit`, and memoria has been asked for it. -/
theorem Registrados.exit_unico (h : Registrados cfg k) (hp : k.estado p = some .exit) :
    (k.cola .exit).count p = 1 ∧ (∀ l, l ≠ .exit → p ∉ k.cola l) ∧
      k.enviados.count (.finalizarProceso p) = 1 := by
  have hmem : p ∈ k.cola .exit := h.ubicados.mem_cola hp rfl
  have hcuenta : (k.cola .exit).count p = 1 :=
    List.count_eq_one_of_mem (h.ubicados.colocados.nodup _) hmem
  refine ⟨hcuenta, fun l hl hpl => hl (h.ubicados.colocados.eq_of_mem hpl hmem), ?_⟩
  rw [← count_finalizados, h.finalizados, hcuenta]

/-- Processes with the same state are in the same queues. -/
theorem Ubicados.mem_cola_congr (h : Ubicados cfg ∅ k) (h' : Ubicados cfg ∅ k')
    (hint : k'.interfaces = k.interfaces) (hq : k'.estado q = k.estado q) (l : Lugar) :
    q ∈ k'.cola l ↔ q ∈ k.cola l := by
  rw [h.colocados.mem_iff, h'.colocados.mem_iff, if_neg (Finset.notMem_empty q),
    if_neg (Finset.notMem_empty q), Estado.lugar, Estado.lugar, hint, hq]

/-- What `FINALIZAR_PROCESO` leaves of the process and of the others. -/
theorem Registrados.finalizarProceso (h : Registrados cfg k)
    (hf : finalizarProceso cfg k p = some k') :
    (Finalizado k' p ↔ p ∉ k.listaPidsReady ∧ p ∉ k.listaPidsReadyM ∧
      (k.estado p ≠ some .exec → p ∉ k.colaExec)) ∧
    ∀ q ≠ p, DondeEstaba k k' q ∨ Despertado cfg k k' p q := by
  have hpaso : paso cfg k (.finalizarProceso p) = some k' := hf
  have h' := paso_registrados h hpaso
  obtain ⟨k₁, mensajes, he, hx⟩ := finalizarProceso_eq_some hf
  obtain ⟨hlista, hint, -, hexec⟩ := h.ubicados.encontrarPcb_frame h.semHayProceso he
  obtain ⟨hcolas, -, -, -, hpids, hpidsM⟩ := h.ubicados.encontrarPcb_colas he
  obtain ⟨-, hotorgadas⟩ := h.ubicados.encontrarPcb_otorgadas h.semHayProceso he
  have h₁ : Ubicados cfg (insert p ∅) { k₁ with enviados := mensajes } :=
    (h.ubicados.encontrarPcb he).congr rfl rfl rfl rfl rfl
  obtain ⟨k₂, hl, hk'⟩ := exitPrima_eq_some hx
  have h₂ := h₁.liberarRecursos hl
  obtain ⟨-, -, hestados⟩ := h₁.liberarRecursos_soltados hl
  obtain ⟨-, -, ⟨r, hr, hpr, -⟩, ⟨m, hm, hpm, -⟩⟩ := (h₁.liberarRecursos_cuentas hl).1
  -- the fields of the last state
  have hest : k'.estado = Function.update k₂.estado p (some .exit) :=
    (h₂.estado_set (Finset.mem_insert_self p ∅) (by rw [hk']; rfl)).2
  have hint' : k'.interfaces = k.interfaces := by
    rw [hk', ← hint]
    exact (liberarRecursos_mismasInterfaces hl).interfaces
  have hexec' : k'.colaExec =
      if k.estado p = some .exec then k.colaExec.filter fun q => q != p else k.colaExec := by
    have hexec₂ := liberarRecursos_colaExec hl
    rw [hk', ← hexec]
    exact hexec₂
  have hexit : k'.estado p = some .exit := by rw [hest, Function.update_self]
  obtain ⟨henExit, henOtra, hmemoria⟩ := h'.exit_unico hexit
  -- nothing is overwritten
  have hpisados : k'.pisados = k.pisados := (finalizarProceso_salida hf).pisados
  have hsin : p ∉ k'.pisados := fun hp =>
    (h.ubicados.encontrarPcb_exit he).1 (h.pisados p (hpisados ▸ hp))
  -- those that become ready are others
  have hpids' : p ∈ k'.listaPidsReady ↔ p ∈ k.listaPidsReady := by
    have hno : p ∉ k'.cola .ready := henOtra .ready (by decide)
    have hcola : k'.cola .ready = k₁.cola .ready ++ r := by rw [hk']; exact hr
    have hpid : k'.listaPidsReady = k₁.listaPidsReady ++ r := by rw [hk']; exact hpr
    rw [hcola, List.mem_append, not_or] at hno
    rw [hpid, List.mem_append, hpids]
    simp [hno.2]
  have hpidsM' : p ∈ k'.listaPidsReadyM ↔ p ∈ k.listaPidsReadyM := by
    have hno : p ∉ k'.cola .readyM := henOtra .readyM (by decide)
    have hcola : k'.cola .readyM = k₁.cola .readyM ++ m := by rw [hk']; exact hm
    have hpid : k'.listaPidsReadyM = k₁.listaPidsReadyM ++ m := by rw [hk']; exact hpm
    rw [hcola, List.mem_append, not_or] at hno
    rw [hpid, List.mem_append, hpidsM]
    simp [hno.2]
  refine ⟨⟨fun hfin => ⟨fun hp => hfin.pids (hpids'.2 hp), fun hp => hfin.pidsM (hpidsM'.2 hp),
    fun hne => ?_⟩, fun ⟨hpid, hpidM, hcolaExec⟩ => ?_⟩, fun q hq => ?_⟩
  · have hno := hfin.colaExec
    rwa [hexec', if_neg hne] at hno
  · refine ⟨?_, fun l hl hp => henOtra l hl ((mem_enCola hsin).1 hp), ?_,
      fun hp => hpid (hpids'.1 hp), fun hp => hpidM (hpidsM'.1 hp), hexit, ?_, hmemoria⟩
    · unfold Estado.enCola
      rw [if_pos rfl, List.count_filter (by simpa using hsin), henExit]
    · rw [hexec']
      split_ifs with hs
      · simp
      · exact hcolaExec hs
    · have hregistros := liberarRecursosDesde_sin_registros hl
      rw [hk']
      exact hregistros
  · have hq₁ : Estado.estado { k₁ with enviados := mensajes } q = k.estado q :=
      congrFun (estado_of_listaEstados hlista) q
    rcases hestados q with heq | ⟨i, ⟨reg, hreg, hde⟩, hcola, hready⟩
    · have hestado : k'.estado q = k.estado q := by
        rw [hest, Function.update_of_ne hq, heq, hq₁]
      refine Or.inl ⟨hestado, mem_enCola_congr hpisados
        (h.ubicados.mem_cola_congr h'.ubicados hint' hestado), ?_⟩
      rw [hexec']
      split_ifs <;> simp [hq]
    · refine Or.inr ⟨i, ?_, ?_, ?_⟩
      · rw [← hotorgadas i]
        exact List.countP_pos_iff.2 ⟨reg, hreg, hde⟩
      · have hcola₁ : q ∈ k₁.cola (.recurso i) := hcola
        rw [hcolas] at hcola₁
        exact List.mem_of_mem_erase hcola₁
      · rw [hest, Function.update_of_ne hq]
        exact hready

/-! ### The states in which the process is found -/

theorem space_notMem_ultimaPalabra (texto : Cadena) : ' ' ∉ ultimaPalabra texto := by
  intro h
  have hmem := List.mem_takeWhile_imp (List.mem_reverse.1 h)
  simp at hmem

theorem stringContains_append {texto b : Cadena} (h : stringContains texto b = true)
    (antes : Cadena) : stringContains (antes ++ texto) b = true := by
  unfold stringContains at h ⊢
  exact decide_eq_true ((of_decide_eq_true h).trans (List.suffix_append antes texto).isInfix)

/-- Where the text of the state has `IO`, the process is not found. -/
theorem encontrarPcb_io {recurso : Cadena} (hsem : ∀ i, k.semHayProceso i = 0)
    (hs : k.estado p = some (.blockRecurso recurso))
    (hio : stringContains recurso "IO".toList = true) : encontrarPcb cfg k p = none := by
  have htexto : stringContains (EstadoProceso.blockRecurso recurso).texto "IO".toList = true :=
    stringContains_append hio _
  unfold encontrarPcb
  rw [hs]
  dsimp only
  rw [if_pos htexto]
  cases encontrarCola k.interfaces
      (ultimaPalabra (EstadoProceso.blockRecurso recurso).texto) with
  | none => rfl
  | some i => exact if_pos (hsem i)

/-- `encontrar_pcb` comes back from no other state. -/
theorem Registrados.finalizable_of_encontrarPcb (h : Registrados cfg k)
    (he : encontrarPcb cfg k p = some k') : ∃ e, k.estado p = some e ∧ e.finalizable = true := by
  rcases encontrarPcb_cases he with ⟨hs, -⟩ | ⟨hs, -⟩ | ⟨hs, -⟩ | ⟨hs, -⟩ | ⟨i, hpermiso, -⟩ |
    ⟨e, i, k₁, hs, -, -, -, -, hi, hsacar, -⟩
  · exact ⟨.new, hs, rfl⟩
  · exact ⟨.ready, hs, rfl⟩
  · exact ⟨.readyM, hs, rfl⟩
  · exact ⟨.exec, hs, rfl⟩
  · exact absurd (h.semHayProceso i) hpermiso
  · obtain ⟨hp, -⟩ := sacarDe_eq_some (h.ubicados.colocados.nodup _) hsacar
    obtain ⟨-, e', hs', hlugar⟩ := h.ubicados.estado_of_mem hp
    rw [hs] at hs'
    cases hs'
    obtain ⟨recurso, rfl⟩ : ∃ recurso, e = .blockRecurso recurso := estado_of_lugarDe hlugar
    have hrecurso : encontrarColaRecurso cfg recurso = some i := by
      simpa [lugarDe] using hlugar
    -- the last word of the text is the name, but for case
    have hespacio : ' ' ∉ recurso :=
      notMem_space_of_equals (equals_of_encontrarColaRecurso hrecurso hi)
        (space_notMem_ultimaPalabra _)
    have hio : stringContains recurso "IO".toList = false := by
      rw [← Bool.not_eq_true]
      intro hio
      rw [encontrarPcb_io h.semHayProceso hs hio] at he
      cases he
    refine ⟨_, hs, ?_⟩
    simp only [EstadoProceso.finalizable, hio]
    simpa using hespacio

/-- A process in EXEC is taken out of `cola_exec`. -/
theorem encontrarPcb_exec (hs : k.estado p = some .exec) :
    encontrarPcb cfg k p = (pcbEnCola k.colaExec p).map fun resto =>
      { k with semMultiprogramacion := k.semMultiprogramacion + 1, colaExec := resto } := by
  unfold encontrarPcb
  rw [hs]

/-- The handler of the end of the instruction posts the permit for which the command waits, if
nothing else evicts the process. -/
theorem recibirMensajeCpu_usuario (hquantum : k.finPorQuantum = false)
    (hinstruccion : k.desalojaPorInstruccion = false) :
    (recibirMensajeCpu { k with desalojaPorUsuario := true }).1 =
      { k with
        semCasoExitUsuario := k.semCasoExitUsuario + 1
        desalojaPorUsuario := false } := by
  simp [recibirMensajeCpu, hquantum, hinstruccion]

theorem recibirMensajeCpu_semCasoExitUsuario
    (h : ¬(k.finPorQuantum = false ∧ k.desalojaPorInstruccion = false)) :
    (recibirMensajeCpu { k with desalojaPorUsuario := true }).1.semCasoExitUsuario =
      k.semCasoExitUsuario := by
  unfold recibirMensajeCpu
  cases hinstruccion : k.desalojaPorInstruccion with
  | true => simp
  | false =>
    have hquantum : k.finPorQuantum = true := by simpa [hinstruccion] using h
    simp [hquantum]

/-- The command is `finalizarProceso`, but for a process in EXEC that its instruction or the end of
its quantum takes away first. -/
theorem Registrados.finalizarEnConsola_eq (h : Registrados cfg k) (p : ℕ) :
    finalizarEnConsola cfg k p =
      if k.estado p = some .exec then
        if k.finPorQuantum = false ∧ k.desalojaPorInstruccion = false then
          Kernel.finalizarProceso cfg { k with desalojaPorUsuario := false } p
        else none
      else Kernel.finalizarProceso cfg k p := by
  unfold finalizarEnConsola Kernel.finalizarProceso
  split_ifs with hs hflags
  · have hs' : Estado.estado { k with desalojaPorUsuario := false } p = some .exec := hs
    rw [encontrarPcb_exec hs, encontrarPcb_exec hs']
    cases pcbEnCola k.colaExec p with
    | none => rfl
    | some resto =>
      have hs₁ : Estado.estado { k with
          semMultiprogramacion := k.semMultiprogramacion + 1, colaExec := resto } p =
          some .exec := hs
      have hs₂ : Estado.estado { k with
          semMultiprogramacion := k.semMultiprogramacion + 1, colaExec := resto,
          desalojaPorUsuario := false } p = some .exec := hs
      have hmensaje := recibirMensajeCpu_usuario (k := { k with
          semMultiprogramacion := k.semMultiprogramacion + 1, colaExec := resto })
        hflags.1 hflags.2
      rw [Option.map_some, Option.map_some, Option.bind_some, Option.bind_some]
      dsimp only at hmensaje ⊢
      rw [if_pos hs₁, if_pos hs₂, hmensaje]
      exact if_neg (Nat.succ_ne_self _)
  · rw [encontrarPcb_exec hs]
    cases pcbEnCola k.colaExec p with
    | none => rfl
    | some resto =>
      have hs₁ : Estado.estado { k with
          semMultiprogramacion := k.semMultiprogramacion + 1, colaExec := resto } p =
          some .exec := hs
      rw [Option.map_some, Option.bind_some]
      dsimp only
      rw [if_pos hs₁]
      exact if_pos (recibirMensajeCpu_semCasoExitUsuario (k := { k with
        semMultiprogramacion := k.semMultiprogramacion + 1, colaExec := resto }) hflags)
  · cases he : encontrarPcb cfg k p with
    | none => rfl
    | some k₁ =>
      obtain ⟨hlista, -⟩ := h.ubicados.encontrarPcb_frame h.semHayProceso he
      have hs₁ : k₁.estado p ≠ some .exec := by rwa [estado_of_listaEstados hlista]
      rw [Option.bind_some, Option.bind_some]
      dsimp only
      rw [if_neg hs₁, if_neg hs₁]

/-- The command ends the process, and moves no other but those that wake up, exactly from the
states that `Finalizable` lists. -/
theorem Registrados.finalizaBien_iff (h : Registrados cfg k) :
    FinalizaBien cfg k p ↔ Finalizable k p := by
  unfold FinalizaBien
  rw [h.finalizarEnConsola_eq]
  have h₀ := h.congr_usuario false
  constructor
  · rintro ⟨k', hf, hfin, -⟩
    split_ifs at hf with hs hflags
    · -- the end of the instruction of a process in EXEC
      obtain ⟨hpid, hpidM, -⟩ := (h₀.finalizarProceso hf).1.1 hfin
      exact ⟨.exec, hs, rfl, hpid, hpidM, by rwa [if_pos rfl]⟩
    · obtain ⟨k₁, -, he, -⟩ := finalizarProceso_eq_some hf
      obtain ⟨e, he, hfinalizable⟩ := h.finalizable_of_encontrarPcb he
      obtain ⟨hpid, hpidM, hexec⟩ := (h.finalizarProceso hf).1.1 hfin
      have hne : e ≠ .exec := fun heq => hs (heq ▸ he)
      exact ⟨e, he, hfinalizable, hpid, hpidM, by rw [if_neg hne]; exact hexec hs⟩
  · rintro ⟨e, he, hfinalizable, hpid, hpidM, hexec⟩
    split_ifs at hexec with heq
    · subst heq
      have he₀ : Estado.estado { k with desalojaPorUsuario := false } p = some .exec := he
      obtain ⟨k', hf⟩ := finalizarProceso_completa h₀.ubicados h₀.contados he₀ rfl
      obtain ⟨hiff, hotros⟩ := h₀.finalizarProceso hf
      refine ⟨k', by rw [if_pos he, if_pos hexec, hf], hiff.2 ⟨hpid, hpidM, absurd he₀⟩,
        fun q hq => ?_⟩
      rcases hotros q hq with hdonde | hdespertado
      · exact Or.inl ⟨hdonde.estado, hdonde.colas, hdonde.exec⟩
      · exact Or.inr hdespertado
    · have hne : k.estado p ≠ some .exec := fun hs =>
        heq (Option.some.inj (he.symm.trans hs))
      obtain ⟨k', hf⟩ := finalizarProceso_completa h.ubicados h.contados he hfinalizable
      obtain ⟨hiff, hotros⟩ := h.finalizarProceso hf
      exact ⟨k', by rw [if_neg hne, hf], hiff.2 ⟨hpid, hpidM, fun _ => hexec⟩, hotros⟩

/-- **`FINALIZAR_PROCESO`** comes back with the process ended, and every other one where it was or
woken up by its resources, exactly from the states that `Finalizable` lists, in every reachable
state and for every process. -/
theorem finalizarProceso_iff (cfg : KernelConfiguracion) (evs : List Evento) :
    Along (paso cfg) (fun k => ∀ p, 0 < p → p < k.contadorPid →
      (FinalizaBien cfg k p ↔ Finalizable k p)) (Estado.inicial cfg) evs :=
  along_of_invariant (I := Registrados cfg) (fun _ _ _ h hp => paso_registrados h hp)
    (fun _ h _ _ _ => h.finalizaBien_iff) (registrados_inicial cfg)

/-- The command does not come back for a process that is blocked by an interface: nothing posts
the semaphore on which `encontrar_pcb` waits. -/
theorem finalizarProceso_bloqueado_por_io :
    ∃ k, run (paso ⟨.FIFO, [], 1⟩) (Estado.inicial ⟨.FIFO, [], 1⟩)
        [.conectarInterfaz "GEN".toList "IO_GEN_SLEEP".toList 7, .iniciarProceso [],
          .iniciarPlanificacion, .administrarProcesosNew, .replanificar "NEW".toList, .enviarACpu,
          .paquete "IO_GEN_SLEEP".toList ["GEN".toList, "10".toList]] = some k ∧
      k.estado 1 = some (.blockIo "GEN".toList) ∧ ¬ FinalizaBien ⟨.FIFO, [], 1⟩ k 1 := by
  refine ⟨_, rfl, rfl, ?_⟩
  rintro ⟨k', hf, -⟩
  have hnone : (none : Option Estado) = some k' := hf
  cases hnone

end SimuladorSO.Kernel
