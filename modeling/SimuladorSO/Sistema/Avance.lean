import SimuladorSO.Kernel.Planificacion
import SimuladorSO.Sistema.Fifo
import SimuladorSO.Sistema.Terminacion

/-!
# FIFO does not stop

The two programs do what is left to do by themselves, in any order, and then they rest: the CPU
executes a process, or there is none that could be, or they wait for the console.

* `Estado.pendiente`: what is left to do, which every internal step lowers;
* `EnReposo`: why nothing is left to do;
* `fifo_avanza`: an internal run is short, and it ends only at rest.

With a quantum this fails: the clock and the handlers of the CPU's messages wait for each other.
-/

namespace SimuladorSO.Sistema

open Commons Kernel Cpu Transitions

/-- The step is one of the kernel's threads or of the CPU's ports: it needs neither the console nor
an interface nor an instruction. -/
def esInterno : Evento → Bool
  | .kernel .administrarProcesosNew => true
  | .kernel _ => false
  | .hacerInstruccion _ _ => false
  | _ => true

/-- The CPU waits for the interrupt of its process. -/
def FaseCpu.desaloja : FaseCpu → Bool
  | libre => false
  | ejecutando _ => false
  | esperando _ => false
  | desalojando _ => true

/-- What is left to do: what a step brings about counts less than what it takes away. -/
def Estado.pendiente (s : Estado) : ℕ :=
  7 * s.aKernel.length + 4 * s.kernel.fichas + 3 * s.eligiendo.isSome.toNat +
    2 * s.kernel.semEjecutar + s.aDispatch.length + 2 * s.aInterrupt.length +
    s.cpu.desaloja.toNat + s.kernel.semHayProcesosEnNew

/-- Why no internal step is possible: a process runs; no process is ready; planning is stopped; or
the request of a process cannot be handled. -/
inductive EnReposo (cfg : KernelConfiguracion) (s : Estado) : Prop
  | ejecuta {p : ℕ} (hcpu : s.cpu = .ejecutando p) (hexec : s.kernel.estado p = some .exec)
  | sinListos (hcpu : s.cpu = .libre)
      (hnadie : ∀ p e, s.kernel.estado p = some e → e = .new ∨ e.bloqueado = true ∨ e = .exit)
  | detenida (hcpu : s.cpu = .libre) (hmotivo : s.kernel.porReplanificar ≠ [])
      (hplan : s.kernel.semPlanificacion = 0)
  | sinAtender {q : Paquete} {resto : List MensajeCpu} (hK : s.aKernel = .paquete q :: resto)
      (hcpu : s.cpu = .esperando q.pid)
      (hno : ¬ SyscallAtendible cfg s.kernel q.lista q.pid q.motivo)

variable {cfg : KernelConfiguracion} {cpu : CpuConfiguracion} {tamPagina : ℕ} {s s' : Estado}
  {ev : Evento} {p : ℕ}

/-! ### What is left to do -/

/-- **An internal step** leaves less to do. -/
theorem PasoFifo.pendiente (h : EnFifo cfg s) (hp : PasoFifo cfg s ev s')
    (hev : esInterno ev = true) : s'.pendiente < s.pendiente := by
  obtain ⟨t, ht⟩ := h.turno
  cases hp with
  | @propio ev k hpropio hk hajeno =>
    cases ev with
    | administrarProcesosNew =>
      have hnew : k.semHayProcesosEnNew + 1 = s.kernel.semHayProcesosEnNew := by
        obtain ⟨q, k₁, pendientes, primero, hnew, -, -, -, rfl⟩ := administrarProcesosNew_eq_some hk
        exact Nat.sub_add_cancel (Nat.pos_of_ne_zero hnew)
      have hfichas := hajeno.fichas
      have hsem := hajeno.semEjecutar
      simp only [Estado.pendiente]
      omega
    | _ => cases hev
  | @empieza motivo k l hmem hel hk =>
    have hfichas := fichas_empezarReplanificacion hmem hk
    have hsem : k.semEjecutar = s.kernel.semEjecutar ∧
        k.semHayProcesosEnNew = s.kernel.semHayProcesosEnNew := by
      obtain ⟨quantum, rfl, -⟩ := empezarReplanificacion_eq_some hk
      exact ⟨rfl, rfl⟩
    simp only [Estado.pendiente, hel, Option.isSome_some, Option.isSome_none, Bool.toNat_true,
      Bool.toNat_false]
    omega
  | @termina motivo k l hel hk =>
    have hsem : k.fichas = s.kernel.fichas ∧ k.semEjecutar = s.kernel.semEjecutar + 1 ∧
        k.semHayProcesosEnNew = s.kernel.semHayProcesosEnNew := by
      obtain ⟨m, q, k₁, _, _, _, _, -, hd, rfl⟩ := terminarReplanificacion_desencola hk
      obtain ⟨cola, -, rfl⟩ := desencolar_eq_some hd
      exact ⟨rfl, rfl, rfl⟩
    simp only [Estado.pendiente, hel, Option.isSome_some, Option.isSome_none, Bool.toNat_true,
      Bool.toNat_false]
    omega
  | @envia q hsem hexec hcpu =>
    have hfichas : Kernel.Estado.fichas { s.kernel with
      semEjecutar := s.kernel.semEjecutar - 1
      desalojaPorInstruccion := false } = s.kernel.fichas := rfl
    simp only [Estado.pendiente, hfichas, List.length_append, List.length_singleton]
    omega
  | @atiende q mensajes k hK hcpu hn hdes hm hexec hk hres =>
    have hnew : k.semHayProcesosEnNew = s.kernel.semHayProcesosEnNew := by
      have h₀ : Ubicados cfg ∅ { s.kernel with motivo := q.motivo } :=
        ht.ubicados.congr rfl rfl rfl rfl rfl
      have hk' := hk
      unfold recibirPaqueteCpu at hk'
      split_ifs at hk'
      exact (h₀.atenderSolicitudCpu_cuentas hexec hk').1.semNew
    have hkernel : k.fichas = s.kernel.fichas ∧ k.semEjecutar = s.kernel.semEjecutar ∧
        k.interrupciones.length ≤ s.kernel.interrupciones.length + 1 := by
      rcases hres with ha | hd
      · exact ⟨ha.fichas, ha.semEjecutar, by rw [ha.interrupciones]; omega⟩
      · obtain ⟨motivo, -, hint⟩ := hd.interrupciones
        exact ⟨hd.fichas, hd.semEjecutar, by rw [hint, List.length_append, List.length_singleton]⟩
    simp only [Estado.pendiente, hK, List.length_cons, List.length_append, List.length_map,
      List.length_drop]
    omega
  | @continua mensajes hK =>
    simp only [Estado.pendiente, hK, List.length_cons, List.length_append, List.length_nil]
    omega
  | @noContinua q mensajes hK hcpu hn hdes =>
    have huno : (noEsQuantum s.kernel.motivo).toNat ≤ 1 := Bool.toNat_le _
    simp only [Estado.pendiente, fichas_pedir, hK, List.length_cons, List.length_append,
      List.length_nil]
    omega
  | @toma q mensajes hD hcpu =>
    simp only [Estado.pendiente, hD, hcpu, FaseCpu.desaloja, List.length_cons, Bool.toNat_false]
    omega
  | @sigue q mensajes hD hcpu hn hdes =>
    simp only [Estado.pendiente, hD, hcpu, FaseCpu.desaloja, List.length_cons, Bool.toNat_false]
    omega
  | @recibe q motivo mensajes hI =>
    simp only [Estado.pendiente, hI, List.length_cons]
    omega
  | @para q mensajes hI hcpu =>
    simp only [Estado.pendiente, hI, hcpu, FaseCpu.desaloja, List.length_cons, Bool.toNat_false,
      Bool.toNat_true]
    omega
  | ejecuta hcpu hdes => cases hev
  | @suelta q motivo hcpu hint =>
    simp only [Estado.pendiente, hcpu, FaseCpu.desaloja, Bool.toNat_false, Bool.toNat_true]
    omega

theorem Estado.Avisada.length_le {resto : List MensajeInterrupt} (h : s.Avisada p resto) :
    s.aInterrupt.length ≤ resto.length + 1 := by
  obtain ⟨motivo, -, ⟨-, hI⟩ | ⟨-, hI⟩⟩ := h
  · rw [hI, List.length_cons]
  · rw [hI]
    exact Nat.le_succ _

/-- At most a packet and an answer are on their way to the interrupt port. -/
theorem Estado.Avisos.length_le (h : s.Avisos) : s.aInterrupt.length ≤ 2 := by
  have hcallada : s.Callada → s.aInterrupt.length ≤ 2 := fun hc => by
    rw [hc.2]
    exact Nat.zero_le 2
  cases hfase : s.cpu with
  | libre =>
    rw [Estado.Avisos, hfase] at h
    exact hcallada h
  | ejecutando q =>
    rw [Estado.Avisos, hfase] at h
    exact hcallada h
  | esperando q =>
    rcases h.esperando hfase with ⟨hc, -⟩ | ⟨ha, -⟩ | ha
    · exact hcallada hc
    · exact ha.length_le.trans (Nat.le_succ 1)
    · exact ha.length_le
  | desalojando q => exact (h.desalojando hfase).length_le.trans (Nat.le_succ 1)

/-- Little is left to do: the most while an instruction and its packet are on their way to the
kernel. -/
theorem EnFifo.pendiente_le (h : EnFifo cfg s) :
    s.pendiente ≤ 14 + (s.kernel.cola .new).length := by
  obtain ⟨t, ht⟩ := h.turno
  have hI := h.avisos.length_le
  have hdesaloja : s.cpu.desaloja.toNat ≤ 1 := Bool.toNat_le _
  have hfichas : s.kernel.fichas + s.eligiendo.isSome.toNat ≤ t.fichas := ht.fichas
  have hpermisos := ht.permisos
  have hcanales := ht.canales
  rw [← h.sincronizados.new, Estado.pendiente]
  cases t with
  | nadie =>
    simp only [Turno.fichas, Turno.permisos] at hfichas hpermisos
    rw [hcanales.1, hcanales.2.1, List.length_nil, List.length_nil]
    omega
  | elegido q =>
    simp only [Turno.fichas, Turno.permisos] at hfichas hpermisos
    rw [hcanales.1, hcanales.2.1, List.length_nil, List.length_nil]
    omega
  | enviado q =>
    simp only [Turno.fichas, Turno.permisos] at hfichas hpermisos
    rw [hcanales.1, hcanales.2.1, List.length_nil, List.length_singleton]
    omega
  | ejecutando q =>
    simp only [Turno.fichas, Turno.permisos] at hfichas hpermisos
    rw [hcanales.1, hcanales.2.1, List.length_nil, List.length_nil]
    omega
  | pidiendo q =>
    obtain ⟨⟨ps, hps, hlen, -⟩, hD, hcpu, hn, hdes⟩ := hcanales
    simp only [Turno.fichas, Turno.permisos] at hfichas hpermisos
    -- the kernel has not evicted the process yet
    have hcallada : s.aInterrupt = [] := by
      rcases (h.avisos.esperando hcpu).of_cero hn with ⟨hc, -⟩ | ⟨-, hdes'⟩
      · exact hc.2
      · rw [hdes] at hdes'
        cases hdes'
    rw [hps, hD, hcallada, hcpu, FaseCpu.desaloja, Bool.toNat_false, List.length_append,
      List.length_map, List.length_singleton, List.length_nil, List.length_nil]
    omega
  | desalojado q =>
    simp only [Turno.fichas, Turno.permisos] at hfichas hpermisos
    rw [hcanales.1, hcanales.2.1, List.length_singleton, List.length_nil]
    omega
  | respondido q =>
    obtain ⟨hK, hresto, -⟩ := hcanales
    simp only [Turno.fichas, Turno.permisos] at hfichas hpermisos
    have hD : s.aDispatch.length ≤ 1 := by
      rcases hresto with ⟨-, hD, -⟩ | ⟨-, hD, -⟩ | ⟨-, hD, -⟩ <;>
        · rw [hD]
          simp
    rw [hK, List.length_nil]
    omega
  | devuelto q =>
    simp only [Turno.fichas, Turno.permisos] at hfichas hpermisos
    rw [hcanales.1, hcanales.2.1, List.length_singleton, List.length_nil]
    omega
  | perdido q =>
    simp only [Turno.fichas, Turno.permisos] at hfichas hpermisos
    rw [hcanales.1, hcanales.2.1, List.length_nil, List.length_nil]
    omega

/-! ### At rest -/

/-- No internal step is possible. -/
def Estado.Quieta (cfg : KernelConfiguracion) (cpu : CpuConfiguracion) (tamPagina : ℕ)
    (s : Estado) : Prop :=
  ∀ ev, esInterno ev = true → paso cfg cpu tamPagina s ev = none

/-- The interrupt port is never left with a message that the CPU could take. -/
theorem Estado.Quieta.not_avisada {resto : List MensajeInterrupt}
    (hq : s.Quieta cfg cpu tamPagina) (h : s.Avisada p resto)
    (hcpu : s.cpu = .desalojando p ∨ s.cpu = .esperando p ∧ resto = [.noContinuaEjecutando]) :
    False := by
  have hpuerto : manejarPuertoInterrupt s = none := hq .manejarPuertoInterrupt rfl
  have hpedido : manejarPedidoInterrupcion s = none := hq .manejarPedidoInterrupcion rfl
  obtain ⟨motivo, -, ⟨-, hI⟩ | ⟨hint, hI⟩⟩ := h
  · rw [manejarPuertoInterrupt, hI] at hpuerto
    cases hpuerto
  · rcases hcpu with hcpu | ⟨hcpu, rfl⟩
    · rw [manejarPedidoInterrupcion, hcpu, hint] at hpedido
      simp at hpedido
    · rw [manejarPuertoInterrupt, hI, hcpu] at hpuerto
      cases hpuerto

/-- The CPU is not in the middle of an eviction. -/
theorem Estado.Quieta.libre_of_saliendo (hq : s.Quieta cfg cpu tamPagina) (h : EnFifo cfg s)
    (hsale : s.Saliendo) : s.cpu = .libre := by
  rcases hsale with ⟨hcpu, -⟩ | ⟨r, hcpu, hn⟩ | ⟨r, hcpu, -⟩
  · exact hcpu
  · exact (hq.not_avisada ((h.avisos.esperando hcpu).of_uno hn) (Or.inr ⟨hcpu, rfl⟩)).elim
  · exact (hq.not_avisada (h.avisos.desalojando hcpu) (Or.inl hcpu)).elim

/-- The end of an instruction is always answered. -/
theorem Estado.Quieta.not_fin {resto : List MensajeCpu} (hq : s.Quieta cfg cpu tamPagina)
    (hK : s.aKernel = .finInstruccion :: resto) : False := by
  have hrespuesta : recibirRespuestaCpu cfg s = none := hq .recibirRespuestaCpu rfl
  rw [recibirRespuestaCpu, hK] at hrespuesta
  dsimp only at hrespuesta
  split at hrespuesta <;> cases hrespuesta

/-- The handler of the packet of a process in EXEC comes back exactly when the request can be
handled. -/
theorem EnFifo.sinAtender {q : Paquete} (h : EnFifo cfg s)
    (hexec : s.kernel.estado q.pid = some .exec) (hm : noEsQuantum q.motivo = true)
    (hk : recibirPaqueteCpu cfg s.kernel q.pid q.motivo q.lista = none) :
    ¬ SyscallAtendible cfg s.kernel q.lista q.pid q.motivo := by
  obtain ⟨t, ht⟩ := h.turno
  have hc : Contados cfg { s.kernel with motivo := q.motivo } :=
    h.contados.congr ⟨rfl, rfl, fun _ => rfl⟩
  have hp : ∀ j, q.pid ∉ s.kernel.cola (.recurso j) := fun j =>
    (ht.ubicados.apartar hexec).notMem_cola (Finset.mem_insert_self q.pid ∅) _
  have hquantum : stringEqualsIgnoreCase q.motivo "QUANTUM".toList = false := by
    simpa [noEsQuantum] using hm
  intro hatendible
  obtain ⟨k, hk'⟩ := (hc.atenderSolicitudCpu_isSome_iff hp hquantum).2 hatendible
  unfold recibirPaqueteCpu at hk
  rw [if_pos (ht.ubicados.exec q.pid (Finset.notMem_empty _) hexec), hk'] at hk
  cases hk

/-- Nobody is ready, and nobody is in EXEC. -/
theorem EnFifo.sinListos {t : Turno} (h : EnFifo cfg s) (ht : EnTurno cfg t s)
    (hnadie : t.exec = none) (hready : s.kernel.cola .ready = []) {e : EstadoProceso}
    (he : s.kernel.estado p = some e) : e = .new ∨ e.bloqueado = true ∨ e = .exit := by
  cases e with
  | new => exact Or.inl rfl
  | ready =>
    have hmem := ht.ubicados.mem_cola he rfl
    rw [hready] at hmem
    cases hmem
  | readyM =>
    have hmem := ht.ubicados.mem_cola he rfl
    rw [h.sinReloj.readyM] at hmem
    cases hmem
  | exec =>
    have hexec := (ht.exec p).1 he
    rw [hnadie] at hexec
    cases hexec
  | block => exact Or.inr (Or.inl rfl)
  | blockIo interfaz => exact Or.inr (Or.inl rfl)
  | blockRecurso recurso => exact Or.inr (Or.inl rfl)
  | exit => exact Or.inr (Or.inr rfl)

/-- The kernel has to choose a process, and cannot. -/
theorem Estado.Quieta.sin_elegir (hq : s.Quieta cfg cpu tamPagina) (h : EnFifo cfg s)
    (ht : EnTurno cfg .nadie s) (hcpu : s.cpu = .libre) : EnReposo cfg s := by
  have htermina : terminarReplanificacion s = none := hq .terminarReplanificacion rfl
  have htestigos := h.testigos
  obtain ⟨hK, hD, -, -⟩ := ht.canales
  have hpermisos : s.kernel.semEjecutar = 0 := ht.permisos
  rw [Estado.testigos, hK, hD, hcpu, hpermisos, FaseCpu.ejecuta, Bool.toNat_false,
    List.length_nil, List.countP_nil] at htestigos
  cases hel : s.eligiendo with
  | some x =>
    -- it waits for a process in `cola_ready`
    obtain ⟨l, motivo⟩ := x
    obtain ⟨rfl, -⟩ := h.eligiendo l motivo hel
    have hready : s.kernel.cola .ready = [] := by
      by_contra hne
      have hsem : s.kernel.semProcesosEnReady ≠ 0 := by
        rw [h.sincronizados.ready]
        exact fun hlen => hne (List.length_eq_zero_iff.1 hlen)
      obtain ⟨k, hk⟩ := Option.isSome_iff_exists.1
        ((terminarReplanificacion_isSome_iff s.kernel .ready).2 ⟨hsem, hne⟩)
      rw [terminarReplanificacion, hel, Option.bind_some] at htermina
      dsimp only at htermina
      rw [hk] at htermina
      cases htermina
    exact .sinListos hcpu fun r e he => h.sinListos ht rfl hready he
  | none =>
    have hfichas : s.kernel.porReplanificar.countP noEsQuantum +
        s.kernel.esPrimerProceso.toNat = 1 := by
      rw [Estado.fichas, hel, Kernel.Estado.fichas, h.sinReloj.permisos] at htestigos
      exact htestigos
    cases hprimero : s.kernel.esPrimerProceso with
    | true =>
      -- nobody has been admitted yet
      exact .sinListos hcpu fun r e he =>
        h.sinListos ht rfl (h.primero hprimero .ready (by decide)) he
    | false =>
      -- a call waits for planning
      rw [hprimero, Bool.toNat_false] at hfichas
      obtain ⟨motivo, hmem, hm⟩ := List.countP_pos_iff.1
        (show 0 < s.kernel.porReplanificar.countP noEsQuantum by omega)
      have hempieza : empezarReplanificacion cfg s motivo = none :=
        hq (.empezarReplanificacion motivo) rfl
      refine .detenida hcpu (List.ne_nil_of_mem hmem) ?_
      by_contra hplan
      have hno : ¬ stringEqualsIgnoreCase motivo "QUANTUM".toList = true := by
        simpa [noEsQuantum] using hm
      rw [empezarReplanificacion, if_pos ⟨hmem, hel⟩, Kernel.empezarReplanificacion, if_neg hplan]
        at hempieza
      dsimp only at hempieza
      rw [if_neg hno] at hempieza
      cases hempieza

/-- **At rest**: if no internal step is possible, this is why. -/
theorem EnFifo.reposo (h : EnFifo cfg s) (hq : s.Quieta cfg cpu tamPagina) : EnReposo cfg s := by
  obtain ⟨t, ht⟩ := h.turno
  have hcanales := ht.canales
  have hdispatch : manejarPuertoDispatch s = none := hq .manejarPuertoDispatch rfl
  cases t with
  | nadie => exact hq.sin_elegir h ht (hq.libre_of_saliendo h hcanales.2.2.1)
  | elegido q =>
    -- `sem_ejecutar` has a permit
    have henvia : enviarACpu cfg s = none := hq .enviarACpu rfl
    have hsem : s.kernel.semEjecutar = 1 := ht.permisos
    have hhead := ht.ubicados.exec q (Finset.notMem_empty q) ((ht.exec q).2 rfl)
    rw [enviarACpu, if_pos h.parado, Kernel.enviarACpu, if_neg (by simp [hsem]), hhead] at henvia
    cases henvia
  | enviado q =>
    rw [manejarPuertoDispatch, hcanales.2.1, hq.libre_of_saliendo h hcanales.2.2.1] at hdispatch
    cases hdispatch
  | ejecutando q => exact .ejecuta hcanales.2.2.1 ((ht.exec q).2 rfl)
  | pidiendo r =>
    obtain ⟨⟨ps, hps, -, hpropios⟩, -, hcpu, -⟩ := hcanales
    cases ps with
    | nil => exact (hq.not_fin hps).elim
    | cons q ps =>
      have hK : s.aKernel = .paquete q :: (ps.map .paquete ++ [.finInstruccion]) := hps
      obtain ⟨rfl, hm⟩ := hpropios q List.mem_cons_self
      have hrespuesta : recibirRespuestaCpu cfg s = none := hq .recibirRespuestaCpu rfl
      rw [recibirRespuestaCpu, hK] at hrespuesta
      exact .sinAtender hK hcpu (h.sinAtender ((ht.exec q.pid).2 rfl)
        (by rw [noEsQuantum, hm]; rfl) (Option.map_eq_none_iff.1 hrespuesta))
  | desalojado q => exact (hq.not_fin hcanales.1).elim
  | respondido q =>
    obtain ⟨-, ⟨hcpu, hD, -⟩ | ⟨hcpu, -, hn⟩ | ⟨hcpu, -, -⟩, -⟩ := hcanales
    · rw [manejarPuertoDispatch, hD, hcpu] at hdispatch
      cases hdispatch
    · exact (hq.not_avisada ((h.avisos.esperando hcpu).of_uno hn) (Or.inr ⟨hcpu, rfl⟩)).elim
    · exact (hq.not_avisada (h.avisos.desalojando hcpu) (Or.inl hcpu)).elim
  | devuelto q => exact (h.not_devuelto ht).elim
  | perdido q => exact (h.not_perdido ht).elim

/-! ### Every run -/

/-- **FIFO does not stop.**  From every state that a run reaches, the kernel and the CPU take at
most 14 steps of their own, in any order, and one for each new process; and whenever they can take
no more, a process runs, or no process is ready, or planning is stopped, or a request cannot be
handled. -/
theorem fifo_avanza (cfg : KernelConfiguracion) (cpu : CpuConfiguracion) (tamPagina : ℕ)
    (hfifo : cfg.algoritmoPlanificacion = .FIFO) (evs : List Evento) (s : Estado)
    (hevs : Meets (paso cfg cpu tamPagina) (SinDenegar cpu tamPagina) (Estado.inicial cfg) evs)
    (hrun : run (paso cfg cpu tamPagina) (Estado.inicial cfg) evs = some s) (evs' : List Evento)
    (s' : Estado) (hinternos : ∀ ev ∈ evs', esInterno ev = true)
    (hrun' : run (paso cfg cpu tamPagina) s evs' = some s') :
    evs'.length ≤ 14 + (s.kernel.cola .new).length ∧
      ((∃ ev, esInterno ev = true ∧ (paso cfg cpu tamPagina s' ev).isSome = true) ∨
        EnReposo cfg s') := by
  have hs : EnFifo cfg s :=
    (along_of_meets (fun _ _ _ h hC hp => paso_enFifo hfifo h hC hp) (enFifo_inicial cfg)
      hevs).last hrun
  have hbaja : ∀ u ev v, EnFifo cfg u → esInterno ev = true →
      paso cfg cpu tamPagina u ev = some v → EnFifo cfg v ∧ v.pendiente < u.pendiente := by
    intro u ev v hu hev hp
    have hdenegar : SinDenegar cpu tamPagina u ev := by
      cases ev with
      | hacerInstruccion c instruccion => cases hev
      | _ => trivial
    exact ⟨paso_enFifo hfifo hu hdenegar hp, (hu.paso_cases hfifo hp).pendiente hu hev⟩
  obtain ⟨hs', hlen⟩ := run_length_le hbaja hs hinternos hrun'
  refine ⟨(Nat.le_of_add_right_le hlen).trans hs.pendiente_le, ?_⟩
  by_cases hq : s'.Quieta cfg cpu tamPagina
  · exact Or.inr (hs'.reposo hq)
  · simp only [Estado.Quieta, not_forall] at hq
    obtain ⟨ev, hev, hne⟩ := hq
    exact Or.inl ⟨ev, hev, Option.isSome_iff_ne_none.2 hne⟩

/-- The request is handled, the CPU gives the process up, and the other one runs. -/
def relevo : List Evento :=
  [.recibirRespuestaCpu, .recibirRespuestaCpu, .empezarReplanificacion "EXIT".toList,
    .terminarReplanificacion, .enviarACpu, .manejarPuertoInterrupt, .manejarPuertoInterrupt,
    .manejarPedidoInterrupcion, .manejarPuertoDispatch]

/-- The first of two processes ends. -/
theorem fifo_avanza_dos_procesos :
    ∃ s s', run (paso fifo ⟨0, []⟩ 16) (Estado.inicial fifo) (arranque ++
        [.hacerInstruccion sinMarcos "EXIT".toList]) = some s ∧
      run (paso fifo ⟨0, []⟩ 16) s relevo = some s' ∧ s'.cpu = .ejecutando 2 ∧
      relevo.length ≤ 14 + (s.kernel.cola .new).length ∧
      ((∃ ev, esInterno ev = true ∧ (paso fifo ⟨0, []⟩ 16 s' ev).isSome = true) ∨
        EnReposo fifo s') := by
  refine ⟨_, _, rfl, rfl, rfl, fifo_avanza fifo ⟨0, []⟩ 16 rfl (arranque ++
    [.hacerInstruccion sinMarcos "EXIT".toList]) _ ?_ rfl relevo _ (by decide) rfl⟩
  refine meets_of_forall (fun e he s => ?_) _
  simp only [arranque, List.cons_append, List.nil_append] at he
  fin_cases he <;> first | trivial | exact fun _ _ => rfl

end SimuladorSO.Sistema
