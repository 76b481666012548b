import SimuladorSO.Library.Simulation
import SimuladorSO.Sistema.Maquina

/-!
# The scheduler keeps the registers of every process

Every run of the machine is a run of the processes, each with registers of its own: the instruction
of a process begins with the registers that its last one left, whatever has been dispatched, blocked
or evicted in between.

* `Contextos`: where the registers of each process are;
* `Simula`: a state of the machine and one of the processes, and `paso_simula`, that each step keeps
  it;
* `maquina_es_procesos`: every run of the machine is a run of the processes;
* `maquina_como_solo`: together with the isolation of the processes, what a process has done and
  seen in a run of the machine is what it does and sees alone.
-/

namespace SimuladorSO.Sistema

open Commons Kernel Cpu Tracing Transitions Noninterference Ciclo

/-- The packets of the CPU that are on their way. -/
def paquetesEn (mensajes : List MensajeCpu) : List Paquete :=
  mensajes.filterMap fun
    | .paquete q => some q
    | .finInstruccion => none

/-- The processes that are on their way to the CPU. -/
def pidsEn (mensajes : List MensajeDispatch) : List ℕ :=
  mensajes.filterMap fun
    | .pcb pid => some pid
    | .continuaEjecutando => none

/-- Where the registers of each process are: in its PCB, unless it is in EXEC and has been sent to
the CPU; in the CPU that executes or evicts it; and in its PCBs on their way. -/
structure Contextos (basura : ℕ → UInt32) (m : Maquina) (registros : ℕ → Registros) : Prop where
  pcbs : ∀ p, 0 < p → p < m.sistema.kernel.contadorPid →
    (m.sistema.kernel.estado p = some .exec → m.sistema.kernel.semEjecutar ≠ 0) →
    m.pcbs p = registros p
  cpu : ∀ p, m.sistema.cpu.pid? = some p → m.registros = registros p
  aKernel : m.regsAKernel = (paquetesEn m.sistema.aKernel).map fun q => registros q.pid
  aDispatch : m.regsADispatch = (pidsEn m.sistema.aDispatch).map registros
  nuevos : ∀ p, m.sistema.kernel.contadorPid ≤ p → registros p = registrosNuevos (basura p)

/-- The state of the processes is that of the machine, and what memoria has not heard of yet are the
processes from its next pid on. -/
structure Simula (cfg : KernelConfiguracion) (cpu : CpuConfiguracion)
    (mcfg : Memoria.MemoriaConfiguracion) (basura : ℕ → UInt32) (m : Maquina) (p : Procesos) :
    Prop where
  turno : ∃ t, EnTurno cfg t m.sistema
  orden : Procesos.EnOrden cpu mcfg p
  memoria : p.memoria = m.memoria
  tlb : p.tlb = m.tlb
  pendientes : p.pendientes = m.pendientes
  enviados : p.enviados = m.enviados
  leidos : p.leidos = m.leidos
  contextos : Contextos basura m p.registros
  pedidos : ∃ c : ℕ, p.contadorPid = c ∧ c ≤ m.sistema.kernel.contadorPid ∧
    m.aMemoria.filterMap Kernel.Envio.iniciado? =
      List.range' c (m.sistema.kernel.contadorPid - c)

/-- The process does not ask for frames. -/
def Maquina.SinResize (i : ℕ) (m : Maquina) : EventoMaquina → Prop
  | .hacerInstruccion => m.sistema.cpu = .ejecutando i → ∀ instruccion,
    proxima m.memoria i m.registros.pc = some instruccion → instruccion.esResize = false
  | _ => True

/-- What the machine holds of a process is what it has done and seen by itself: its registers in its
PCB or in the CPU, its memory, and what has been sent and read for it. -/
structure Concuerda (mcfg : Memoria.MemoriaConfiguracion) (i : ℕ) (m : Maquina) (p : Procesos) :
    Prop where
  pcb : m.sistema.kernel.estado i ≠ some .exec → m.pcbs i = p.registros i
  cpu : m.sistema.cpu.pid? = some i → m.registros = p.registros i
  memoria : Igual mcfg i m.memoria p.memoria
  enviados : p.enviados i = m.enviados i
  leidos : p.leidos i = m.leidos i

variable {cfg : KernelConfiguracion} {cpu : CpuConfiguracion} {mcfg : Memoria.MemoriaConfiguracion}
  {archivos : Cadena → Cadena} {basura : ℕ → UInt32} {m m' : Maquina} {p : Procesos} {s : Estado}
  {registros : ℕ → Registros} {t : Turno} {pid : ℕ}

/-! ### Steps that move no registers -/

/-- The registers are where they were. -/
theorem Contextos.congr {aMemoria : List Kernel.Envio} (h : Contextos basura m registros)
    (hcont : m.sistema.kernel.contadorPid = s.kernel.contadorPid)
    (hexec : ∀ p, 0 < p → p < s.kernel.contadorPid →
      (s.kernel.estado p = some .exec → s.kernel.semEjecutar ≠ 0) →
      m.sistema.kernel.estado p = some .exec → m.sistema.kernel.semEjecutar ≠ 0)
    (hcpu : ∀ p, s.cpu.pid? = some p → m.sistema.cpu.pid? = some p)
    (haKernel : paquetesEn s.aKernel = paquetesEn m.sistema.aKernel)
    (haDispatch : pidsEn s.aDispatch = pidsEn m.sistema.aDispatch) :
    Contextos basura { m with sistema := s, aMemoria := aMemoria } registros where
  pcbs q h0 hlt hq := h.pcbs q h0 (hcont ▸ hlt) (hexec q h0 hlt hq)
  cpu q hq := h.cpu q (hcpu q hq)
  aKernel := by rw [haKernel]; exact h.aKernel
  aDispatch := by rw [haDispatch]; exact h.aDispatch
  nuevos q hq := h.nuevos q (hcont ▸ hq)

/-- The kernel does something that is not of the process in EXEC. -/
theorem Contextos.ajeno {k : Kernel.Estado} {aMemoria : List Kernel.Envio}
    (h : Contextos basura m registros) (ha : Ajeno m.sistema.kernel k)
    (hs : SinIniciar m.sistema.kernel k) :
    Contextos basura { m with sistema := { m.sistema with kernel := k }, aMemoria := aMemoria }
      registros :=
  h.congr hs.contadorPid.symm
    (fun q _ _ hq he => ha.semEjecutar ▸ hq ((ha.exec q).2 he)) (fun _ hq => hq) rfl rfl

/-- The console creates a process: its PCB is new. -/
theorem Contextos.iniciarProceso {aMemoria : List Kernel.Envio} (h : Contextos basura m registros)
    (hu : Ubicados cfg ∅ m.sistema.kernel) (path : Cadena) :
    Contextos basura { m with
      pcbs := Function.update m.pcbs m.sistema.kernel.contadorPid
        (registrosNuevos (basura m.sistema.kernel.contadorPid))
      sistema := { m.sistema with kernel := Kernel.iniciarProceso m.sistema.kernel path }
      aMemoria := aMemoria } registros where
  pcbs q h0 hlt hq := by
    have hajeno := hu.iniciarProceso_ajeno path
    have hlt : q < m.sistema.kernel.contadorPid + 1 := hlt
    show Function.update _ _ _ q = _
    by_cases hq' : q = m.sistema.kernel.contadorPid
    · rw [hq', Function.update_self, h.nuevos _ le_rfl]
    · rw [Function.update_of_ne hq']
      exact h.pcbs q h0 (by omega) fun he => hajeno.semEjecutar ▸ hq ((hajeno.exec q).2 he)
  cpu := h.cpu
  aKernel := h.aKernel
  aDispatch := h.aDispatch
  nuevos q hq := h.nuevos q (Nat.le_of_succ_le hq)

/-! ### Dispatches and evictions -/

/-- While a queue is chosen no process is in EXEC. -/
theorem EnTurno.sin_exec (h : EnTurno cfg t s) (hel : s.eligiendo.isSome = true) (q : ℕ) :
    s.kernel.estado q ≠ some .exec := by
  have hle := h.fichas
  rw [Estado.fichas, hel, Bool.toNat_true] at hle
  intro hq
  cases t with
  | nadie => cases (h.exec q).1 hq
  | _ => exact absurd hle (Nat.not_succ_le_zero _)

/-- The PCB that is sent is the one of the process in EXEC. -/
theorem Contextos.enviarACpu {k : Kernel.Estado} {aMemoria : List Kernel.Envio} {reloj : FaseReloj}
    (h : Contextos basura m registros) (ht : EnTurno cfg t m.sistema)
    (hk : Kernel.enviarACpu m.sistema.kernel = some (k, pid)) :
    Contextos basura { m with
      regsADispatch := m.regsADispatch ++ (m.sistema.kernel.colaExec.head?.map m.pcbs).toList
      sistema := { m.sistema with
        kernel := k
        aDispatch := m.sistema.aDispatch ++ [.pcb pid]
        reloj := reloj }
      aMemoria := aMemoria } registros := by
  unfold Kernel.enviarACpu at hk
  split_ifs at hk with hsem
  obtain ⟨q, hq, heq⟩ := Option.map_eq_some_iff.1 hk
  obtain ⟨rfl, rfl⟩ := Prod.mk.inj heq
  have hpcb : m.pcbs q = registros q := by
    have hpermisos := ht.permisos
    cases t with
    | elegido r =>
      have hexec := (ht.exec r).2 rfl
      have hhead := ht.ubicados.exec r (Finset.notMem_empty r) hexec
      rw [hq] at hhead
      obtain rfl := Option.some.inj hhead
      obtain ⟨h0, hlt⟩ := (ht.ubicados.vivo_iff q).1 (by rw [hexec]; rfl)
      exact h.pcbs q h0 hlt fun _ => hsem
    | _ => exact absurd hpermisos hsem
  refine ⟨fun r h0 hlt hr => h.pcbs r h0 hlt fun _ => hsem, h.cpu, h.aKernel, ?_, h.nuevos⟩
  show m.regsADispatch ++ _ = (pidsEn (m.sistema.aDispatch ++ [_])).map registros
  rw [hq, pidsEn, List.filterMap_append, List.map_append, h.aDispatch]
  exact congrArg (_ ++ [·]) hpcb

/-- A packet brings the registers of its process, which is the one that was in EXEC. -/
theorem Contextos.recibirPaquete {k : Kernel.Estado} {q : Paquete} {resto : List MensajeCpu}
    {aMemoria : List Kernel.Envio} {aInterrupt : List MensajeInterrupt}
    (h : Contextos basura m registros) (hu : Ubicados cfg ∅ m.sistema.kernel)
    (hK : m.sistema.aKernel = .paquete q :: resto)
    (hk : recibirPaqueteCpu cfg m.sistema.kernel q.pid q.motivo q.lista = some k) :
    Contextos basura { m.moverRegistros basura .recibirRespuestaCpu with
      sistema := { m.sistema with kernel := k, aKernel := resto, aInterrupt := aInterrupt }
      aMemoria := aMemoria } registros := by
  have hregs := h.aKernel
  rw [hK] at hregs
  have hregs : m.regsAKernel =
      registros q.pid :: (paquetesEn resto).map fun q => registros q.pid := hregs
  have hcont := (recibirPaqueteCpu_sinIniciar hk).contadorPid
  have hmover : m.moverRegistros basura .recibirRespuestaCpu =
      { m with
        pcbs := Function.update m.pcbs q.pid (registros q.pid)
        regsAKernel := (paquetesEn resto).map fun q => registros q.pid } := by
    unfold Maquina.moverRegistros
    dsimp only
    rw [hK, hregs]
  rw [hmover]
  refine ⟨fun r h0 hlt _ => ?_, h.cpu, rfl, h.aDispatch, fun r hr => h.nuevos r (hcont ▸ hr)⟩
  show Function.update _ _ _ r = _
  by_cases hr : r = q.pid
  · rw [hr, Function.update_self]
  · rw [Function.update_of_ne hr]
    refine h.pcbs r h0 (hcont ▸ hlt) fun he => ?_
    -- another process was not in EXEC
    have hhead := hu.exec r (Finset.notMem_empty r) he
    unfold recibirPaqueteCpu at hk
    split_ifs at hk with hq
    rw [hq] at hhead
    exact absurd (Option.some.inj hhead).symm hr

/-- The CPU takes a process with the registers that come in its PCB. -/
theorem Contextos.tomarProceso {resto : List MensajeDispatch} {aMemoria : List Kernel.Envio}
    (h : Contextos basura m registros) (hD : m.sistema.aDispatch = .pcb pid :: resto) :
    Contextos basura { m.moverRegistros basura .manejarPuertoDispatch with
      sistema := { m.sistema with cpu := .ejecutando pid, aDispatch := resto }
      aMemoria := aMemoria } registros := by
  have hregs := h.aDispatch
  rw [hD] at hregs
  have hregs : m.regsADispatch = registros pid :: (pidsEn resto).map registros := hregs
  have hmover : m.moverRegistros basura .manejarPuertoDispatch =
      { m with registros := registros pid, regsADispatch := (pidsEn resto).map registros } := by
    unfold Maquina.moverRegistros
    dsimp only
    rw [hD, hregs]
  rw [hmover]
  refine ⟨h.pcbs, fun q hq => ?_, h.aKernel, rfl, h.nuevos⟩
  cases hq
  rfl

/-- The CPU evicts its process, and returns it with its registers if the quantum ended. -/
theorem Contextos.desalojar {motivo : Cadena} {q : ℕ} {aMemoria : List Kernel.Envio}
    (h : Contextos basura m registros) (hcpu : m.sistema.cpu = .desalojando pid)
    (hint : m.sistema.interrupcion = some (q, motivo))
    (hp : manejarPedidoInterrupcion m.sistema = some s) :
    Contextos basura { m.moverRegistros basura .manejarPedidoInterrupcion with
      sistema := s
      aMemoria := aMemoria } registros := by
  have hregs : m.registros = registros pid := h.cpu pid (by rw [hcpu]; rfl)
  have hmover : m.moverRegistros basura .manejarPedidoInterrupcion =
      if q = pid ∧ stringEqualsIgnoreCase motivo "QUANTUM".toList then
        { m with regsAKernel := m.regsAKernel ++ [m.registros] }
      else m := by
    unfold Maquina.moverRegistros
    simp only [hcpu, hint]
  rw [hmover]
  unfold manejarPedidoInterrupcion at hp
  simp only [hcpu, hint] at hp
  by_cases hq : q = pid
  · rw [if_pos hq] at hp
    cases hp
    by_cases hm : stringEqualsIgnoreCase motivo "QUANTUM".toList = true
    · rw [if_pos ⟨hq, hm⟩, if_pos hm]
      refine ⟨h.pcbs, (fun _ h => by cases h), ?_, h.aDispatch, h.nuevos⟩
      dsimp only
      rw [paquetesEn, List.filterMap_append, List.map_append, h.aKernel]
      exact congrArg (_ ++ [·]) hregs
    · rw [if_neg fun h => hm h.2, if_neg hm, List.append_nil]
      exact ⟨h.pcbs, (fun _ h => by cases h), h.aKernel, h.aDispatch, h.nuevos⟩
  · rw [if_neg hq] at hp
    cases hp
    rw [if_neg fun h => hq h.1]
    exact h.congr rfl (fun _ _ _ hq he => hq he) (fun _ hq => by rw [hcpu]; exact hq) rfl rfl

/-- The kernel puts a process in EXEC, while no other one is there. -/
theorem Contextos.terminarReplanificacion {aMemoria : List Kernel.Envio}
    (h : Contextos basura m registros) (ht : EnTurno cfg t m.sistema)
    (hp : terminarReplanificacion m.sistema = some s) :
    Contextos basura { m with sistema := s, aMemoria := aMemoria } registros := by
  obtain ⟨l, motivo, k, fin, reloj, hel, hk, rfl⟩ := terminarReplanificacion_eq_some hp
  exact h.congr (terminarReplanificacion_sinIniciar hk).contadorPid.symm
    (fun q _ _ _ he => absurd he (ht.sin_exec (by rw [hel]; rfl) q)) (fun _ hq => hq) rfl rfl

/-! ### One step of the system -/

theorem propio_sinIniciar {k k' : Kernel.Estado} {ev : Kernel.Evento} (hev : esPropio ev = true)
    (hp : Kernel.paso cfg k ev = some k') :
    (∃ path, ev = .iniciarProceso path) ∨ SinIniciar k k' := by
  cases ev with
  | iniciarProceso path => exact Or.inl ⟨path, rfl⟩
  | iniciarPlanificacion =>
    cases hp
    exact Or.inr (.of_eq rfl rfl)
  | detenerPlanificacion =>
    simp only [Kernel.paso] at hp
    split_ifs at hp
    cases hp
    exact Or.inr (.of_eq rfl rfl)
  | administrarProcesosNew => exact Or.inr (administrarProcesosNew_sinIniciar hp)
  | conectarInterfaz idInterfaz permitidas conexion =>
    cases hp
    refine Or.inr ?_
    unfold Kernel.conectarInterfaz
    dsimp only
    split_ifs <;> exact .of_eq rfl rfl
  | finDeIo idInterfaz mensaje => exact Or.inr (finDeIo_sinIniciar hp)
  | _ => cases hev

/-- The console creates the processes, and nothing else does. -/
theorem paso_sinIniciar {tamPagina : ℕ} {s' : Estado} {ev : Evento}
    (hp : Sistema.paso cfg cpu tamPagina s ev = some s') :
    (∃ path, ev = .kernel (.iniciarProceso path) ∧
      s'.kernel = Kernel.iniciarProceso s.kernel path) ∨ SinIniciar s.kernel s'.kernel := by
  cases ev with
  | kernel ev =>
    obtain ⟨⟨hpropio, -⟩, hp⟩ | ⟨-, hp⟩ := ite_eq_iff.1 hp
    swap
    · cases hp
    obtain ⟨k, hk, rfl⟩ := Option.map_eq_some_iff.1 hp
    rcases propio_sinIniciar hpropio hk with ⟨path, rfl⟩ | hs
    · cases hk
      exact Or.inl ⟨path, rfl, rfl⟩
    · exact Or.inr hs
  | empezarReplanificacion motivo =>
    have hp : empezarReplanificacion cfg s motivo = some s' := hp
    unfold Sistema.empezarReplanificacion at hp
    split_ifs at hp
    obtain ⟨⟨k, l⟩, he, rfl⟩ := Option.map_eq_some_iff.1 hp
    obtain ⟨quantum, rfl, -⟩ := Kernel.empezarReplanificacion_eq_some he
    exact Or.inr (.of_eq rfl rfl)
  | terminarReplanificacion =>
    obtain ⟨l, motivo, k, fin, reloj, hel, hk, rfl⟩ := terminarReplanificacion_eq_some hp
    have hs := terminarReplanificacion_sinIniciar hk
    exact Or.inr ⟨hs.contadorPid, hs.enviados⟩
  | enviarACpu =>
    have hp : enviarACpu cfg s = some s' := hp
    unfold Sistema.enviarACpu at hp
    rcases ite_eq_iff.1 hp with ⟨-, hp⟩ | ⟨-, hp⟩
    swap
    · cases hp
    obtain ⟨⟨k, pid⟩, hk, rfl⟩ := Option.map_eq_some_iff.1 hp
    unfold Kernel.enviarACpu at hk
    split_ifs at hk
    obtain ⟨q, -, heq⟩ := Option.map_eq_some_iff.1 hk
    cases heq
    exact Or.inr (.of_eq rfl rfl)
  | venceQuantum =>
    have hp : venceQuantum s = some s' := hp
    unfold Sistema.venceQuantum at hp
    split at hp
    · split_ifs at hp <;> cases hp <;> exact Or.inr (.of_eq rfl rfl)
    · cases hp
  | terminaEspera =>
    have hp : terminaEspera s = some s' := hp
    unfold Sistema.terminaEspera at hp
    split at hp
    · dsimp only at hp
      split_ifs at hp <;> cases hp <;> exact Or.inr (.of_eq rfl rfl)
    · cases hp
  | recibirRespuestaCpu =>
    have hp : recibirRespuestaCpu cfg s = some s' := hp
    unfold Sistema.recibirRespuestaCpu at hp
    split at hp
    · cases hp
    · obtain ⟨k, hk, rfl⟩ := Option.map_eq_some_iff.1 hp
      exact Or.inr (recibirPaqueteCpu_sinIniciar hk)
    · dsimp only at hp
      have hs := recibirMensajeCpu_sinIniciar s.kernel
      split at hp <;> cases hp <;> exact Or.inr hs
  | manejarPuertoDispatch =>
    have hp : manejarPuertoDispatch s = some s' := hp
    unfold Sistema.manejarPuertoDispatch at hp
    split at hp <;> cases hp <;> exact Or.inr (.refl _)
  | manejarPuertoInterrupt =>
    have hp : manejarPuertoInterrupt s = some s' := hp
    unfold Sistema.manejarPuertoInterrupt at hp
    split at hp <;> cases hp <;> exact Or.inr (.refl _)
  | hacerInstruccion c instruccion =>
    have hp : hacerInstruccion cpu tamPagina s c instruccion = some s' := hp
    unfold Sistema.hacerInstruccion at hp
    split at hp
    · obtain ⟨paquetes, -, rfl⟩ := Option.map_eq_some_iff.1 hp
      exact Or.inr (.refl _)
    · cases hp
  | manejarPedidoInterrupcion =>
    have hp : manejarPedidoInterrupcion s = some s' := hp
    unfold Sistema.manejarPedidoInterrupcion at hp
    split at hp
    · split_ifs at hp <;> cases hp <;> exact Or.inr (.refl _)
    · cases hp

/-- The answer of the kernel to the end of an instruction. -/
theorem Contextos.recibirFinInstruccion {resto : List MensajeCpu} {aMemoria : List Kernel.Envio}
    (h : Contextos basura m registros) (hK : m.sistema.aKernel = .finInstruccion :: resto)
    (hp : recibirRespuestaCpu cfg m.sistema = some s) :
    Contextos basura { m.moverRegistros basura .recibirRespuestaCpu with
      sistema := s
      aMemoria := aMemoria } registros := by
  have hmover : m.moverRegistros basura .recibirRespuestaCpu = m := by
    unfold Maquina.moverRegistros
    dsimp only
    rw [hK]
  rw [hmover]
  have hestados : (recibirMensajeCpu m.sistema.kernel).1.listaEstados =
        m.sistema.kernel.listaEstados ∧
      (recibirMensajeCpu m.sistema.kernel).1.semEjecutar = m.sistema.kernel.semEjecutar := by
    unfold recibirMensajeCpu
    split_ifs <;> exact ⟨rfl, rfl⟩
  have hcont := (recibirMensajeCpu_sinIniciar m.sistema.kernel).contadorPid
  have hexec : ∀ q, 0 < q → q < (recibirMensajeCpu m.sistema.kernel).1.contadorPid →
      ((recibirMensajeCpu m.sistema.kernel).1.estado q = some .exec →
        (recibirMensajeCpu m.sistema.kernel).1.semEjecutar ≠ 0) →
      m.sistema.kernel.estado q = some .exec → m.sistema.kernel.semEjecutar ≠ 0 := by
    intro q _ _ hq
    rwa [estado_of_listaEstados hestados.1, hestados.2] at hq
  have hpaquetes : paquetesEn m.sistema.aKernel = paquetesEn resto := by
    rw [hK]
    rfl
  unfold recibirRespuestaCpu at hp
  simp only [hK] at hp
  split at hp
  · cases hp
    refine h.congr hcont.symm hexec (fun _ hq => hq) hpaquetes.symm ?_
    exact (List.filterMap_append ..).trans (List.append_nil _)
  · cases hp
    exact h.congr hcont.symm hexec (fun _ hq => hq) hpaquetes.symm rfl

theorem Contextos.paso {ev : Evento} {aMemoria : List Kernel.Envio}
    (h : Contextos basura m registros) (ht : EnTurno cfg t m.sistema)
    (hev : Maquina.esInstruccion ev = false)
    (hp : Sistema.paso cfg cpu mcfg.tamPagina m.sistema ev = some s) :
    Contextos basura { m.moverRegistros basura ev with sistema := s, aMemoria := aMemoria }
      registros := by
  cases ev with
  | kernel ev =>
    obtain ⟨⟨hpropio, -⟩, hp⟩ | ⟨-, hp⟩ := ite_eq_iff.1 hp
    swap
    · cases hp
    obtain ⟨k, hk, rfl⟩ := Option.map_eq_some_iff.1 hp
    have ha := paso_ajeno ht.ubicados hpropio hk
    rcases propio_sinIniciar hpropio hk with ⟨path, rfl⟩ | hs
    · cases hk
      exact h.iniciarProceso ht.ubicados path
    · have hmover : m.moverRegistros basura (.kernel ev) = m ∨ ∃ path, ev = .iniciarProceso path := by
        cases ev with
        | iniciarProceso path => exact Or.inr ⟨path, rfl⟩
        | _ => exact Or.inl rfl
      rcases hmover with hmover | ⟨path, rfl⟩
      · rw [hmover]
        exact h.ajeno ha hs
      · cases hk
        exact h.iniciarProceso ht.ubicados path
  | empezarReplanificacion motivo =>
    have hp : empezarReplanificacion cfg m.sistema motivo = some s := hp
    unfold Sistema.empezarReplanificacion at hp
    split_ifs at hp
    obtain ⟨⟨k, l⟩, he, rfl⟩ := Option.map_eq_some_iff.1 hp
    obtain ⟨quantum, rfl, -⟩ := Kernel.empezarReplanificacion_eq_some he
    exact h.congr rfl (fun _ _ _ hq he => hq he) (fun _ hq => hq) rfl rfl
  | terminarReplanificacion => exact h.terminarReplanificacion ht hp
  | enviarACpu =>
    have hp : Sistema.enviarACpu cfg m.sistema = some s := hp
    unfold Sistema.enviarACpu at hp
    rcases ite_eq_iff.1 hp with ⟨-, hp⟩ | ⟨-, hp⟩
    swap
    · cases hp
    obtain ⟨⟨k, pid⟩, hk, rfl⟩ := Option.map_eq_some_iff.1 hp
    exact h.enviarACpu ht hk
  | venceQuantum =>
    have hp : venceQuantum m.sistema = some s := hp
    unfold Sistema.venceQuantum at hp
    split at hp
    · split_ifs at hp
      · cases hp
        exact h.congr rfl (fun _ _ _ hq he => hq he) (fun _ hq => hq) rfl rfl
      · cases hp
        exact h.congr rfl (fun _ _ _ hq he => hq he) (fun _ hq => hq) rfl rfl
    · cases hp
  | terminaEspera =>
    have hp : terminaEspera m.sistema = some s := hp
    unfold Sistema.terminaEspera at hp
    split at hp
    · dsimp only at hp
      split_ifs at hp
      · cases hp
        exact h.congr rfl (fun _ _ _ hq he => hq he) (fun _ hq => hq) rfl rfl
      · cases hp
        exact h.congr rfl (fun _ _ _ hq he => hq he) (fun _ hq => hq) rfl rfl
    · cases hp
  | recibirRespuestaCpu =>
    have hp : recibirRespuestaCpu cfg m.sistema = some s := hp
    cases hK : m.sistema.aKernel with
    | nil =>
      rw [Sistema.recibirRespuestaCpu, hK] at hp
      cases hp
    | cons mensaje resto =>
      cases mensaje with
      | paquete q =>
        unfold Sistema.recibirRespuestaCpu at hp
        simp only [hK] at hp
        obtain ⟨k, hk, rfl⟩ := Option.map_eq_some_iff.1 hp
        exact h.recibirPaquete ht.ubicados hK hk
      | finInstruccion => exact h.recibirFinInstruccion hK hp
  | manejarPuertoDispatch =>
    have hp : manejarPuertoDispatch m.sistema = some s := hp
    unfold Sistema.manejarPuertoDispatch at hp
    split at hp
    · rename_i pid resto hD hcpu
      cases hp
      exact h.tomarProceso hD
    · rename_i resto pid hD hcpu
      cases hp
      have hmover : m.moverRegistros basura .manejarPuertoDispatch = m := by
        unfold Maquina.moverRegistros
        dsimp only
        rw [hD]
      rw [hmover]
      refine h.congr rfl (fun _ _ _ hq he => hq he) (fun _ hq => by rw [hcpu]; exact hq) rfl ?_
      rw [hD]
      rfl
    · cases hp
  | manejarPuertoInterrupt =>
    have hp : manejarPuertoInterrupt m.sistema = some s := hp
    unfold Sistema.manejarPuertoInterrupt at hp
    split at hp
    · cases hp
      exact h.congr rfl (fun _ _ _ hq he => hq he) (fun _ hq => hq) rfl rfl
    · rename_i resto pid hI hcpu
      cases hp
      exact h.congr rfl (fun _ _ _ hq he => hq he) (fun _ hq => by rw [hcpu]; exact hq) rfl rfl
    · cases hp
  | hacerInstruccion c instruccion => cases hev
  | manejarPedidoInterrupcion =>
    have hp : manejarPedidoInterrupcion m.sistema = some s := hp
    have hp' := hp
    unfold Sistema.manejarPedidoInterrupcion at hp'
    split at hp'
    · rename_i pid q motivo hcpu hint
      exact h.desalojar hcpu hint hp
    · cases hp'

/-! ### Requests to memoria -/

/-- Memoria will be told of a process when it is created. -/
theorem pedidos_paso {tamPagina c : ℕ} {s' : Estado} {ev : Evento} {aMemoria : List Kernel.Envio}
    (hp : Sistema.paso cfg cpu tamPagina s ev = some s') (hc : c ≤ s.kernel.contadorPid)
    (h : aMemoria.filterMap Kernel.Envio.iniciado? = List.range' c (s.kernel.contadorPid - c)) :
    c ≤ s'.kernel.contadorPid ∧
      (aMemoria ++ Maquina.nuevosAMemoria s.kernel s'.kernel).filterMap Kernel.Envio.iniciado? =
        List.range' c (s'.kernel.contadorPid - c) := by
  rw [List.filterMap_append, h]
  rcases paso_sinIniciar hp with ⟨path, -, hk⟩ | ⟨hpid, es, hes, hno⟩
  · have hcont : s'.kernel.contadorPid = s.kernel.contadorPid + 1 := by
      rw [hk]
      rfl
    have hnuevos : Maquina.nuevosAMemoria s.kernel s'.kernel =
        [.iniciarProceso path s.kernel.contadorPid] := by
      have henv : s'.kernel.enviados =
          s.kernel.enviados ++ [.iniciarProceso path s.kernel.contadorPid] := by
        rw [hk]
        rfl
      rw [Maquina.nuevosAMemoria, henv, List.drop_left]
      rfl
    refine ⟨by omega, ?_⟩
    rw [hnuevos, hcont, Nat.succ_sub hc, List.range'_1_concat, Nat.add_sub_cancel' hc]
    rfl
  · have hnuevos : (Maquina.nuevosAMemoria s.kernel s'.kernel).filterMap
        Kernel.Envio.iniciado? = [] := by
      rw [Maquina.nuevosAMemoria, hes, List.drop_left, List.filterMap_eq_nil_iff]
      exact fun e he => hno e (List.mem_filter.1 he).1
    rw [hnuevos, List.append_nil, hpid]
    exact ⟨hc, rfl⟩

/-! ### One step of the machine -/

/-- After an instruction the registers are those that it leaves. -/
theorem Contextos.instruccion {x : EstadoCpu} {avisos : List Aviso}
    (h : Contextos basura m registros) (ht : EnTurno cfg t m.sistema)
    (hcpu : m.sistema.cpu = .ejecutando pid)
    (hx : ∀ a ∈ avisos, a.registros = x.registros ∧ a.paquete.pid = pid) :
    Contextos basura (m.trasInstruccion pid x avisos)
      (Function.update registros pid x.registros) := by
  have hcanales := ht.canales
  -- the CPU has the turn, so there is nothing on its way
  obtain ⟨hexec, hsem, hK, hD⟩ : m.sistema.kernel.estado pid = some .exec ∧
      m.sistema.kernel.semEjecutar = 0 ∧ m.sistema.aKernel = [] ∧ m.sistema.aDispatch = [] := by
    cases t with
    | ejecutando q =>
      obtain ⟨hK, hD, hcpu', -⟩ := hcanales
      rw [hcpu] at hcpu'
      cases hcpu'
      exact ⟨(ht.exec pid).2 rfl, ht.permisos, hK, hD⟩
    | nadie => exact absurd hcpu hcanales.2.2.1.not_ejecutando
    | elegido q => exact absurd hcpu hcanales.2.2.1.not_ejecutando
    | enviado q => exact absurd hcpu hcanales.2.2.1.not_ejecutando
    | respondido q =>
      obtain ⟨-, ⟨hcpu', -⟩ | ⟨hcpu', -⟩ | ⟨hcpu', -⟩, -⟩ := hcanales <;>
        · rw [hcpu] at hcpu'
          cases hcpu'
    | _ =>
      have hcpu' := hcanales.2.2.1
      rw [hcpu] at hcpu'
      cases hcpu'
  obtain ⟨-, hlt⟩ := (ht.ubicados.vivo_iff pid).1 (by rw [hexec]; rfl)
  refine ⟨fun q h0 hq hne => ?_, fun q hq => ?_, ?_, ?_, fun q hq => ?_⟩
  · by_cases hq' : q = pid
    · subst hq'
      exact absurd hsem (hne hexec)
    · rw [Function.update_of_ne hq']
      exact h.pcbs q h0 hq hne
  · cases hq
    show x.registros = Function.update registros pid x.registros pid
    rw [Function.update_self]
  · have hregs : m.regsAKernel = [] := by
      rw [h.aKernel, hK]
      rfl
    have hpaquetes : paquetesEn (m.trasInstruccion pid x avisos).sistema.aKernel =
        avisos.map Aviso.paquete := by
      show paquetesEn (m.sistema.aKernel ++ (_ ++ _)) = _
      rw [hK, List.nil_append, paquetesEn, List.filterMap_append, List.filterMap_map]
      exact (List.append_nil _).trans List.filterMap_some
    show m.regsAKernel ++ avisos.map Aviso.registros = (paquetesEn _).map _
    rw [hregs, List.nil_append, hpaquetes, List.map_map]
    refine List.map_congr_left fun a ha => ?_
    show a.registros = Function.update registros pid x.registros a.paquete.pid
    rw [(hx a ha).2, Function.update_self, (hx a ha).1]
  · have hregs : m.regsADispatch = [] := by
      rw [h.aDispatch, hD]
      rfl
    show m.regsADispatch = (pidsEn m.sistema.aDispatch).map _
    rw [hregs, hD]
    rfl
  · have hq' : m.sistema.kernel.contadorPid ≤ q := hq
    rw [Function.update_of_ne (by omega)]
    exact h.nuevos q hq'

/-- A step of the system is none of the processes. -/
theorem Simula.sistema {ev : Evento} (h : Simula cfg cpu mcfg basura m p)
    (hev : Maquina.esInstruccion ev = false) (hC : Ordenado cpu mcfg.tamPagina m.sistema ev)
    (hp : Sistema.paso cfg cpu mcfg.tamPagina m.sistema ev = some s) :
    Simula cfg cpu mcfg basura (m.trasPaso basura ev s) p := by
  obtain ⟨t, ht⟩ := h.turno
  obtain ⟨t', ht', -⟩ := paso_enTurno ht hC hp
  obtain ⟨c, hc, hle, hpedidos⟩ := h.pedidos
  obtain ⟨hle', hpedidos'⟩ := pedidos_paso hp hle hpedidos
  have hcontextos : Contextos basura (m.trasPaso basura ev s) p.registros :=
    h.contextos.paso ht hev hp
  obtain ⟨_, _, _, _, hmover⟩ := Maquina.moverRegistros_eq basura m ev
  have hmemoria := h.memoria
  have htlb := h.tlb
  have hpend := h.pendientes
  have henv := h.enviados
  have hleidos := h.leidos
  refine ⟨⟨t', ht'⟩, h.orden, ?_, ?_, ?_, ?_, ?_, hcontextos, c, hc, hle', hpedidos'⟩ <;>
    · unfold Maquina.trasPaso
      rw [hmover]
      assumption

/-- An instruction is one of its process. -/
theorem Simula.instruccion {x : EstadoCpu} (h : Simula cfg cpu mcfg basura m p)
    (hcpu : m.sistema.cpu = .ejecutando pid) (hC : Maquina.Ordenada cpu mcfg m .hacerInstruccion)
    (hx : (ciclo cpu mcfg m.cpuActual pid).value = some x) :
    ∃ b, Procesos.paso cpu mcfg p (.ejecutar pid) = some b ∧
      Procesos.Confinado mcfg p (.ejecutar pid) ∧
      Simula cfg cpu mcfg basura
        (m.trasInstruccion pid x (ciclo cpu mcfg m.cpuActual pid).effects) b := by
  obtain ⟨t, ht⟩ := h.turno
  obtain ⟨hconfinado, hpide⟩ := hC pid hcpu
  obtain ⟨c, hc, hle, hpedidos⟩ := h.pedidos
  have hactual : p.cpuDe pid = m.cpuActual := by
    unfold Procesos.cpuDe Maquina.cpuActual
    rw [← h.contextos.cpu pid (by rw [hcpu]; rfl), h.memoria, h.tlb, h.pendientes]
  have hpend : m.pendientes = [] := by
    rw [← h.pendientes]
    exact h.orden.sano.pendientes
  obtain ⟨linea, hlinea, hpaso, havisos⟩ := Maquina.trasInstruccion_sistema hpend hcpu hx
  obtain ⟨t', ht', -⟩ := ht.hacerInstruccion
    (fun q hq => by
      rw [hcpu] at hq
      cases hq
      exact hpide linea hlinea) hpaso
  have hconfinado' : Procesos.Confinado mcfg p (.ejecutar pid) := by
    show TurnoConfinado mcfg (p.cpuDe pid) pid
    rw [hactual]
    exact hconfinado
  have hb : Procesos.paso cpu mcfg p (.ejecutar pid) = some _ :=
    Option.map_eq_some_iff.2 ⟨x, by rw [hactual]; exact hx, rfl⟩
  refine ⟨_, hb, hconfinado', ⟨t', ht'⟩, h.orden.paso hconfinado' hb, rfl, rfl, rfl, ?_, h.leidos,
    h.contextos.instruccion ht hcpu havisos, c, hc, hle, hpedidos⟩
  rw [hactual, h.enviados]
  rfl

/-- A request of the kernel is handled: the processes are created in the order of their pids. -/
theorem Simula.manejarKernel {envio : Kernel.Envio} {resto : List Kernel.Envio}
    {pedido : Memoria.PedidoKernel} (h : Simula cfg cpu mcfg basura m p)
    (hK : m.aMemoria = envio :: resto) (hpedido : pedidoDe archivos envio = some pedido) :
    ∃ e b, eventoDe archivos envio = some e ∧ Procesos.paso cpu mcfg p e = some b ∧
      Procesos.Confinado mcfg p e ∧
      Simula cfg cpu mcfg basura
        { m with memoria := Memoria.recibirInfoKernel m.memoria pedido, aMemoria := resto } b := by
  obtain ⟨c, hc, hle, hpedidos⟩ := h.pedidos
  rw [hK] at hpedidos
  have hctx := h.contextos
  cases envio with
  | iniciarProceso path q =>
    cases hpedido
    have hpedidos : q :: resto.filterMap Kernel.Envio.iniciado? =
        List.range' c (m.sistema.kernel.contadorPid - c) := hpedidos
    obtain ⟨n, hn⟩ : ∃ n, m.sistema.kernel.contadorPid - c = n + 1 := by
      refine Nat.exists_eq_succ_of_ne_zero fun h0 => ?_
      rw [h0] at hpedidos
      cases hpedidos
    rw [hn, List.range'_succ] at hpedidos
    obtain ⟨rfl, hresto⟩ := List.cons.inj hpedidos
    have hconfinado : Procesos.Confinado mcfg p (.iniciar (archivos path) q) := hc.symm
    refine ⟨_, _, rfl, rfl, hconfinado, h.turno, h.orden.paso hconfinado rfl, ?_, h.tlb,
      h.pendientes, h.enviados, h.leidos,
      ⟨hctx.pcbs, hctx.cpu, hctx.aKernel, hctx.aDispatch, hctx.nuevos⟩, q + 1, rfl, ?_, ?_⟩
    · dsimp only
      rw [h.memoria]
    · show q + 1 ≤ m.sistema.kernel.contadorPid
      omega
    · show _ = List.range' (q + 1) (m.sistema.kernel.contadorPid - (q + 1))
      rw [show m.sistema.kernel.contadorPid - (q + 1) = n by omega]
      exact hresto
  | finalizarProceso q =>
    cases hpedido
    have hconfinado : Procesos.Confinado mcfg p (.finalizar q) := trivial
    refine ⟨_, _, rfl, rfl, hconfinado, h.turno, h.orden.paso hconfinado rfl, ?_, h.tlb,
      h.pendientes, h.enviados, h.leidos,
      ⟨hctx.pcbs, hctx.cpu, hctx.aKernel, hctx.aDispatch, hctx.nuevos⟩, c, hc, hle, hpedidos⟩
    dsimp only
    rw [h.memoria]
  | interfaz => cases hpedido
  | interrupcion => cases hpedido

/-- **A step of the machine is what it counts for the processes.** -/
theorem paso_simula (cfg : KernelConfiguracion) (cpu : CpuConfiguracion)
    (mcfg : Memoria.MemoriaConfiguracion) (archivos : Cadena → Cadena) (basura : ℕ → UInt32) :
    Simulates (Maquina.paso cfg cpu mcfg archivos basura) (Maquina.Ordenada cpu mcfg)
      (Procesos.paso cpu mcfg) (Procesos.Confinado mcfg) (Maquina.cuenta archivos)
      (Simula cfg cpu mcfg basura) where
  step m ev m' p h hC hp := by
    have huno : ∀ {e : EventoProceso} {b : Procesos}, Procesos.paso cpu mcfg p e = some b →
        Procesos.Confinado mcfg p e → Simula cfg cpu mcfg basura m' b →
        ∃ b, run (Procesos.paso cpu mcfg) p [e] = some b ∧
          Meets (Procesos.paso cpu mcfg) (Procesos.Confinado mcfg) p [e] ∧
          Simula cfg cpu mcfg basura m' b := fun hb hc hsim =>
      ⟨_, run_cons_eq_some.2 ⟨_, hb, rfl⟩, fun _ _ => ⟨hc, trivial⟩, hsim⟩
    cases ev with
    | sistema ev =>
      obtain ⟨-, hp⟩ | ⟨hev, hp⟩ := ite_eq_iff.1 hp
      · cases hp
      obtain ⟨s, hs, rfl⟩ := Option.map_eq_some_iff.1 hp
      exact ⟨p, rfl, trivial, h.sistema (Bool.not_eq_true _ ▸ hev) hC hs⟩
    | hacerInstruccion =>
      unfold Maquina.paso at hp
      unfold Maquina.cuenta
      cases hcpu : m.sistema.cpu with
      | ejecutando pid =>
        simp only [hcpu] at hp ⊢
        obtain ⟨x, hx, rfl⟩ := Option.map_eq_some_iff.1 hp
        obtain ⟨b, hb, hc, hsim⟩ := h.instruccion hcpu hC hx
        exact huno hb hc hsim
      | _ =>
        simp only [hcpu] at hp
        cases hp
    | manejarKernel =>
      unfold Maquina.paso at hp
      unfold Maquina.cuenta
      cases hK : m.aMemoria with
      | nil =>
        simp only [hK] at hp
        cases hp
      | cons envio resto =>
        simp only [hK] at hp
        obtain ⟨pedido, hpedido, rfl⟩ := Option.map_eq_some_iff.1 hp
        obtain ⟨e, b, he, hb, hc, hsim⟩ := h.manejarKernel hK hpedido
        rw [List.head?_cons, Option.bind_some, he]
        exact huno hb hc hsim
    | escribir pid direccion tamanio mensaje =>
      obtain ⟨⟨memoria, envios⟩, hescribir, rfl⟩ := Option.map_eq_some_iff.1 hp
      have hctx := h.contextos
      have hc : Procesos.Confinado mcfg p (.escribir pid direccion tamanio mensaje) := by
        unfold Procesos.Confinado
        rw [h.memoria]
        exact hC
      have hb : Procesos.paso cpu mcfg p (.escribir pid direccion tamanio mensaje) = some _ :=
        Option.map_eq_some_iff.2 ⟨_, by rw [h.memoria]; exact hescribir, rfl⟩
      exact huno hb hc ⟨h.turno, h.orden.paso hc hb, rfl, h.tlb, h.pendientes, h.enviados,
        h.leidos, ⟨hctx.pcbs, hctx.cpu, hctx.aKernel, hctx.aDispatch, hctx.nuevos⟩, h.pedidos⟩
    | leer pid direccion tamanio =>
      obtain ⟨envios, hleer, rfl⟩ := Option.map_eq_some_iff.1 hp
      have hctx := h.contextos
      have hc : Procesos.Confinado mcfg p (.leer pid direccion tamanio) := by
        unfold Procesos.Confinado
        rw [h.memoria]
        exact hC
      have hb : Procesos.paso cpu mcfg p (.leer pid direccion tamanio) = some _ :=
        Option.map_eq_some_iff.2 ⟨_, by rw [h.memoria]; exact hleer, rfl⟩
      refine huno hb hc ⟨h.turno, h.orden.paso hc hb, h.memoria, h.tlb, h.pendientes, h.enviados,
        ?_, ⟨hctx.pcbs, hctx.cpu, hctx.aKernel, hctx.aDispatch, hctx.nuevos⟩, h.pedidos⟩
      show Function.update p.leidos _ _ = Function.update m.leidos _ _
      rw [h.leidos]

/-! ### Whole runs -/

theorem simula_inicial (cfg : KernelConfiguracion) (cpu : CpuConfiguracion)
    (mcfg : Memoria.MemoriaConfiguracion) (basura : ℕ → UInt32) (espacio : ℤ → UInt8) :
    Simula cfg cpu mcfg basura (.inicial cfg cpu espacio) (.inicial cpu espacio basura) where
  turno := ⟨.nadie, enTurno_inicial cfg⟩
  orden := Procesos.enOrden_inicial espacio basura
  memoria := rfl
  tlb := rfl
  pendientes := rfl
  enviados := rfl
  leidos := rfl
  contextos := by
    refine ⟨fun q h0 hlt _ => ?_, (fun q hq => by cases hq), rfl, rfl, fun q _ => rfl⟩
    exact absurd (Nat.lt_one_iff.1 hlt) h0.ne'
  pedidos := ⟨1, rfl, le_rfl, rfl⟩

/-- A process that does not ask for frames in the machine does not by itself. -/
theorem Simula.sinResize {ev : EventoMaquina} {i : ℕ} (h : Simula cfg cpu mcfg basura m p)
    (hsin : Maquina.SinResize i m ev) :
    Meets (Procesos.paso cpu mcfg) (Procesos.SinResize i) p (Maquina.cuenta archivos m ev) := by
  cases ev with
  | hacerInstruccion =>
    unfold Maquina.cuenta
    cases hcpu : m.sistema.cpu with
    | ejecutando pid =>
      refine fun _ _ => ⟨fun hpid => ?_, trivial⟩
      subst hpid
      rw [h.memoria, ← h.contextos.cpu pid (by rw [hcpu]; rfl)]
      exact hsin hcpu
    | _ => exact trivial
  | manejarKernel =>
    refine meets_of_forall (fun e he q => ?_) p
    obtain ⟨envio, -, he⟩ := Option.bind_eq_some_iff.1 (Option.mem_toList.1 he)
    cases envio <;> cases he <;> exact trivial
  | sistema ev => exact trivial
  | escribir pid direccion tamanio mensaje => exact fun _ _ => ⟨trivial, trivial⟩
  | leer pid direccion tamanio => exact fun _ _ => ⟨trivial, trivial⟩

theorem paso_simula_sinResize (cfg : KernelConfiguracion) (cpu : CpuConfiguracion)
    (mcfg : Memoria.MemoriaConfiguracion) (archivos : Cadena → Cadena) (basura : ℕ → UInt32)
    (i : ℕ) :
    Simulates (Maquina.paso cfg cpu mcfg archivos basura)
      (fun m ev => Maquina.Ordenada cpu mcfg m ev ∧ Maquina.SinResize i m ev)
      (Procesos.paso cpu mcfg) (fun p e => Procesos.Confinado mcfg p e ∧ Procesos.SinResize i p e)
      (Maquina.cuenta archivos) (Simula cfg cpu mcfg basura) where
  step m ev m' p h hC hp := by
    obtain ⟨b, hb, hmeets, hsim⟩ :=
      (paso_simula cfg cpu mcfg archivos basura).step m ev m' p h hC.1 hp
    exact ⟨b, hb, hmeets.and (h.sinResize hC.2), hsim⟩

/-- What the process cannot tell apart from a state of the processes is what the machine holds. -/
theorem Simula.concuerda {i : ℕ} {p' : Procesos} (h : Simula cfg cpu mcfg basura m p) (h0 : 0 < i)
    (hi : (i : ℤ) < p.contadorPid) (hR : Procesos.NoDistingue mcfg i p p') :
    Concuerda mcfg i m p' where
  pcb he := by
    obtain ⟨c, hc, hle, -⟩ := h.pedidos
    rw [h.contextos.pcbs i h0 (by omega) fun he' => absurd he' he, hR.registros]
  cpu hcpu := by rw [h.contextos.cpu i hcpu, hR.registros]
  memoria := by
    rw [← h.memoria]
    exact hR.memoria
  enviados := by rw [hR.enviados, h.enviados]
  leidos := by rw [hR.leidos, h.leidos]

/-- **The scheduler keeps the registers of every process.**  Every run of the machine, with any
interleaving of the kernel, the CPU, memoria and the interfaces, is a run of the processes with the
same memory and TLB, in which each instruction begins with the registers that the last one of its
process left; and in each state the registers of a process are where `Contextos` says. -/
theorem maquina_es_procesos (cfg : KernelConfiguracion) (cpu : CpuConfiguracion)
    (mcfg : Memoria.MemoriaConfiguracion) (archivos : Cadena → Cadena) (basura : ℕ → UInt32)
    (espacio : ℤ → UInt8) (evs : List EventoMaquina) (m : Maquina)
    (hm : Meets (Maquina.paso cfg cpu mcfg archivos basura) (Maquina.Ordenada cpu mcfg)
      (.inicial cfg cpu espacio) evs)
    (hrun : run (Maquina.paso cfg cpu mcfg archivos basura) (.inicial cfg cpu espacio) evs =
      some m) :
    ∃ p, run (Procesos.paso cpu mcfg) (.inicial cpu espacio basura)
        (traceOf (Maquina.paso cfg cpu mcfg archivos basura) (Maquina.cuenta archivos)
          (.inicial cfg cpu espacio) evs) = some p ∧
      Simula cfg cpu mcfg basura m p := by
  obtain ⟨p, hp, -, hsim⟩ := (paso_simula cfg cpu mcfg archivos basura).run
    (simula_inicial cfg cpu mcfg basura espacio) hm hrun
  exact ⟨p, hp, hsim⟩

/-- FIFO, one process at a time. -/
def deAUno : KernelConfiguracion := ⟨.FIFO, [], 1⟩

/-- The steps of a machine of which every script counts, over zeros. -/
def pasoCinco : Maquina → EventoMaquina → Option Maquina :=
  Maquina.paso deAUno sinTlb Memoria.cfgCuatroMarcos (fun _ => "SET AX 5".toList) fun _ => 0

/-- A process is created, and the CPU takes it. -/
def hastaLaCpu : List EventoMaquina :=
  [.sistema (.kernel (.iniciarProceso [])), .manejarKernel,
    .sistema (.kernel .administrarProcesosNew), .sistema (.kernel .iniciarPlanificacion),
    .sistema (.empezarReplanificacion "NEW".toList), .sistema .terminarReplanificacion,
    .sistema .enviarACpu, .sistema .manejarPuertoDispatch]

theorem hastaLaCpu_ordenada (m : Maquina) :
    Meets pasoCinco (Maquina.Ordenada sinTlb Memoria.cfgCuatroMarcos) m hastaLaCpu := by
  refine meets_of_forall (fun ev hev m => ?_) m
  simp only [hastaLaCpu] at hev
  fin_cases hev <;> exact trivial

/-- The machine with the process in the CPU. -/
def enLaCpu : Maquina :=
  { Maquina.inicial deAUno sinTlb fun _ => 0 with
    sistema := { Estado.inicial deAUno with
      kernel := ((run (paso deAUno sinTlb 16) (Estado.inicial deAUno)
        [.kernel (.iniciarProceso []), .kernel .administrarProcesosNew,
          .kernel .iniciarPlanificacion, .empezarReplanificacion "NEW".toList,
          .terminarReplanificacion, .enviarACpu]).get rfl).kernel
      cpu := .ejecutando 1 }
    memoria := conUno.memoria
    pcbs := Function.update (fun _ => registrosNuevos 0) 1 (registrosNuevos 0) }

theorem run_hastaLaCpu :
    run pasoCinco (.inicial deAUno sinTlb fun _ => 0) hastaLaCpu = some enLaCpu := rfl

theorem enLaCpu_ordenada :
    Maquina.Ordenada sinTlb Memoria.cfgCuatroMarcos enLaCpu .hacerInstruccion := by
  have hlinea : lineaProxima enLaCpu.memoria 1 enLaCpu.registros.pc =
      some "SET AX 5".toList := by decide +kernel
  intro pid hpid
  cases hpid
  refine ⟨fun i hi => ?_, fun linea h => ?_⟩
  · have hi' : some (Instruccion.set "AX".toList "5".toList) = some i := hi
    cases hi'
    trivial
  · cases hlinea.symm.trans h
    rfl

theorem enLaCpu_sinResize : Maquina.SinResize 1 enLaCpu .hacerInstruccion := by
  intro _ i hi
  have hi' : some (Instruccion.set "AX".toList "5".toList) = some i := hi
  cases hi'
  rfl

/-- The process counts in the machine as it does by itself. -/
theorem maquina_es_procesos_cinco :
    ∃ m p, run pasoCinco (.inicial deAUno sinTlb fun _ => 0)
        (hastaLaCpu ++ [.hacerInstruccion]) = some m ∧
      run (Procesos.paso sinTlb Memoria.cfgCuatroMarcos)
        (.inicial sinTlb (fun _ => 0) fun _ => 0)
        [.iniciar "SET AX 5".toList 1, .ejecutar 1] = some p ∧
      m.registros.ax = 5 ∧ Simula deAUno sinTlb Memoria.cfgCuatroMarcos (fun _ => 0) m p := by
  obtain ⟨m, hm, hax⟩ : ∃ m, run pasoCinco enLaCpu [.hacerInstruccion] = some m ∧
      m.registros.ax = 5 := ⟨_, rfl, rfl⟩
  have hrun : run pasoCinco (.inicial deAUno sinTlb fun _ => 0)
      (hastaLaCpu ++ [.hacerInstruccion]) = some m := by
    rw [run_append, run_hastaLaCpu]
    exact hm
  have hmeets : Meets pasoCinco (Maquina.Ordenada sinTlb Memoria.cfgCuatroMarcos)
      (.inicial deAUno sinTlb fun _ => 0) (hastaLaCpu ++ [.hacerInstruccion]) := by
    refine (hastaLaCpu_ordenada _).append fun m₀ hm₀ => ?_
    cases run_hastaLaCpu.symm.trans hm₀
    exact fun _ _ => ⟨enLaCpu_ordenada, trivial⟩
  obtain ⟨p, hp, hsim⟩ := maquina_es_procesos deAUno sinTlb Memoria.cfgCuatroMarcos
    (fun _ => "SET AX 5".toList) (fun _ => 0) (fun _ => 0) _ m hmeets hrun
  exact ⟨m, p, hrun, hp, hax, hsim⟩

/-- **Every process runs as if it were alone.**  From a state of the machine in which memoria knows
the process, whatever the scheduler, the clock, the other processes and the interfaces do, the
machine holds of it what its own events alone lead to, from any reachable state of the processes in
which it sees the same; as long as the process does not ask for frames meanwhile. -/
theorem maquina_como_solo (cfg : KernelConfiguracion) (cpu : CpuConfiguracion)
    (mcfg : Memoria.MemoriaConfiguracion) (archivos : Cadena → Cadena) (basura : ℕ → UInt32)
    (espacio : ℤ → UInt8) (evs₀ evs : List EventoMaquina) (m₀ m : Maquina) (i : ℕ)
    (hm₀ : Meets (Maquina.paso cfg cpu mcfg archivos basura) (Maquina.Ordenada cpu mcfg)
      (.inicial cfg cpu espacio) evs₀)
    (hrun₀ : run (Maquina.paso cfg cpu mcfg archivos basura) (.inicial cfg cpu espacio) evs₀ =
      some m₀)
    (hvivo : Vivo m₀.memoria i)
    (hm : Meets (Maquina.paso cfg cpu mcfg archivos basura)
      (fun m ev => Maquina.Ordenada cpu mcfg m ev ∧ Maquina.SinResize i m ev) m₀ evs)
    (hrun : run (Maquina.paso cfg cpu mcfg archivos basura) m₀ evs = some m) :
    ∃ p₀, Simula cfg cpu mcfg basura m₀ p₀ ∧
      ∀ s : Procesos, s.Alcanzable cpu mcfg → (i : ℤ) < s.contadorPid →
        Procesos.NoDistingue mcfg i p₀ s →
        ∃ t, run (Procesos.paso cpu mcfg) s (eventsOf EventoProceso.pid i
            (traceOf (Maquina.paso cfg cpu mcfg archivos basura) (Maquina.cuenta archivos) m₀
              evs)) = some t ∧
          Concuerda mcfg i m t := by
  obtain ⟨p₀, hp₀, hmeets₀, hsim₀⟩ := (paso_simula cfg cpu mcfg archivos basura).run
    (simula_inicial cfg cpu mcfg basura espacio) hm₀ hrun₀
  obtain ⟨p, hp, hmeets, hsim⟩ := (paso_simula_sinResize cfg cpu mcfg archivos basura i).run
    hsim₀ hm hrun
  have hi : 0 < (i : ℤ) ∧ (i : ℤ) < p₀.contadorPid := by
    refine hsim₀.orden.sano.valido.vivos i ?_
    show Vivo p₀.memoria i
    rw [hsim₀.memoria]
    exact hvivo
  refine ⟨p₀, hsim₀, fun s hs hi' hR => ?_⟩
  obtain ⟨t, ht, hRt⟩ := (Procesos.separados cpu mcfg i).run_purge ⟨hsim₀.orden, hi.2⟩
    ⟨hs.enOrden, hi'⟩ hR hmeets hp
  have hfinal := (along_of_meets (fun s e t h hc hp => (Procesos.separados cpu mcfg i).inv s e t h
    hc hp) ⟨hsim₀.orden, hi.2⟩ hmeets).last hp
  exact ⟨t, ht, hsim.concuerda (by exact_mod_cast hi.1) hfinal.2 hRt⟩

/-- Any state of the processes that looks the same will do, such as the one in which the process has
just been created. -/
theorem maquina_como_solo_cinco :
    ∃ m t, run pasoCinco enLaCpu [.hacerInstruccion] = some m ∧ m.registros.ax = 5 ∧
      run (Procesos.paso sinTlb Memoria.cfgCuatroMarcos) conUno [.ejecutar 1] = some t ∧
      Concuerda Memoria.cfgCuatroMarcos 1 m t := by
  obtain ⟨m, hm, hax⟩ : ∃ m, run pasoCinco enLaCpu [.hacerInstruccion] = some m ∧
      m.registros.ax = 5 := ⟨_, rfl, rfl⟩
  obtain ⟨p₀, hsim, h⟩ := maquina_como_solo deAUno sinTlb Memoria.cfgCuatroMarcos
    (fun _ => "SET AX 5".toList) (fun _ => 0) (fun _ => 0) hastaLaCpu [.hacerInstruccion] enLaCpu m
    1 (hastaLaCpu_ordenada _) run_hastaLaCpu rfl
    (fun _ _ => ⟨⟨enLaCpu_ordenada, enLaCpu_sinResize⟩, trivial⟩) hm
  have hR : Procesos.NoDistingue Memoria.cfgCuatroMarcos 1 p₀ conUno := by
    refine ⟨hsim.contextos.cpu 1 rfl, ?_, ?_, ?_⟩
    · rw [hsim.enviados]
      rfl
    · rw [hsim.leidos]
      rfl
    · rw [hsim.memoria]
      exact .refl 1 conUno.memoria
  obtain ⟨t, ht, hc⟩ := h conUno conUno_alcanzable (by decide) hR
  exact ⟨m, t, hm, hax, ht, hc⟩

end SimuladorSO.Sistema
