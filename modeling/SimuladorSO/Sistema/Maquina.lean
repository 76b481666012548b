import SimuladorSO.Sistema.Turnos
import SimuladorSO.Cpu.Procesos
import SimuladorSO.Kernel.Envios

/-!
# The machine: the system with registers and memoria

The kernel, the CPU and their messages, with what the messages carry: the registers of a process are
in its PCB in the kernel, in a PCB on its way, or in the CPU; and the CPU executes the instructions
that it gets from memoria.  The requests of the kernel to memoria wait in their connection.

* `Maquina`, `EventoMaquina`, `Maquina.paso`: the machine and one step of it;
* `Maquina.Ordenada`: the conditions on a step, those of the turns and that an instruction stays with
  its process;
* `Maquina.cuenta`: what a step is for the processes.
-/

namespace SimuladorSO.Sistema

open Commons Kernel Cpu Tracing Transitions Ciclo

/-- The system, memoria, and the registers. -/
structure Maquina where
  sistema : Estado
  memoria : Memoria.Estado
  tlb : List BaseTlb
  /-- The replies of memoria that the CPU has not read. -/
  pendientes : List Memoria.Envio
  /-- The registers of `pcb_proceso`, in the CPU. -/
  registros : Registros
  /-- The registers of the PCBs in the kernel. -/
  pcbs : ℕ → Registros
  /-- The registers of the PCBs on their way to the kernel, and to the dispatch port. -/
  regsAKernel : List Registros
  regsADispatch : List Registros
  /-- The requests of the kernel that memoria has not handled. -/
  aMemoria : List Kernel.Envio
  /-- The packets that the CPU has sent for each process, and what the interfaces have read. -/
  enviados : ℕ → List Aviso
  leidos : ℕ → List Memoria.Envio

/-- What can happen. -/
inductive EventoMaquina
  /-- Anything but an instruction. -/
  | sistema (ev : Evento)
  | hacerInstruccion
  /-- Memoria handles a request of the kernel, and of an interface. -/
  | manejarKernel
  | escribir (pid : ℕ) (direccion tamanio : ℤ) (mensaje : List UInt8)
  | leer (pid : ℕ) (direccion tamanio : ℤ)

/-- The process of which the CPU holds the registers. -/
def FaseCpu.pid? : FaseCpu → Option ℕ
  | libre => none
  | ejecutando pid => some pid
  | esperando pid => some pid
  | desalojando pid => some pid

/-- The script's path stands for its contents. -/
def pedidoDe (archivos : Cadena → Cadena) : Kernel.Envio → Option Memoria.PedidoKernel
  | .iniciarProceso path pid => some (.iniciarProceso (archivos path) pid)
  | .finalizarProceso pid => some (.finalizarProceso pid)
  | _ => none

/-- What a request of the kernel is for its process. -/
def eventoDe (archivos : Cadena → Cadena) : Kernel.Envio → Option EventoProceso
  | .iniciarProceso path pid => some (.iniciar (archivos path) pid)
  | .finalizarProceso pid => some (.finalizar pid)
  | _ => none

namespace Maquina

variable (cfg : KernelConfiguracion) (cpu : CpuConfiguracion) (mcfg : Memoria.MemoriaConfiguracion)
  (archivos : Cadena → Cadena) (basura : ℕ → UInt32)

/-- The state after start-up. -/
def inicial (espacio : ℤ → UInt8) : Maquina where
  sistema := .inicial cfg
  memoria := Memoria.generarEspacioMemoria espacio
  tlb := inicializarTlb cpu
  pendientes := []
  registros := registrosNuevos 0
  pcbs := fun _ => registrosNuevos 0
  regsAKernel := []
  regsADispatch := []
  aMemoria := []
  enviados := fun _ => []
  leidos := fun _ => []

/-- The CPU and memoria, as an instruction sees them. -/
def cpuActual (m : Maquina) : EstadoCpu := ⟨m.registros, m.tlb, m.memoria, m.pendientes⟩

/-- Where a step of the system puts registers: `agregar_pcb_a_paquete` and `cargar_pcb` on both
sides, and `generar_nuevo_proceso`, which does not set DI. -/
def moverRegistros (m : Maquina) : Evento → Maquina
  | .kernel (.iniciarProceso _) =>
    { m with
      pcbs := Function.update m.pcbs m.sistema.kernel.contadorPid
        (registrosNuevos (basura m.sistema.kernel.contadorPid)) }
  | .enviarACpu =>
    { m with
      regsADispatch := m.regsADispatch ++ (m.sistema.kernel.colaExec.head?.map m.pcbs).toList }
  | .manejarPuertoDispatch =>
    match m.sistema.aDispatch, m.regsADispatch with
    | .pcb _ :: _, registros :: resto => { m with registros := registros, regsADispatch := resto }
    | _, _ => m
  | .recibirRespuestaCpu =>
    match m.sistema.aKernel, m.regsAKernel with
    | .paquete q :: _, registros :: resto =>
      { m with pcbs := Function.update m.pcbs q.pid registros, regsAKernel := resto }
    | _, _ => m
  | .manejarPedidoInterrupcion =>
    match m.sistema.cpu, m.sistema.interrupcion with
    | .desalojando pid, some (q, motivo) =>
      if q = pid ∧ stringEqualsIgnoreCase motivo "QUANTUM".toList then
        { m with regsAKernel := m.regsAKernel ++ [m.registros] }
      else m
    | _, _ => m
  | _ => m

/-- What the kernel has sent to memoria in a step. -/
def nuevosAMemoria (k k' : Kernel.Estado) : List Kernel.Envio :=
  (k'.enviados.drop k.enviados.length).filter Kernel.Envio.paraMemoria

/-- The machine after a turn of the CPU, with the packets of its instruction on their way. -/
def trasInstruccion (m : Maquina) (pid : ℕ) (x : EstadoCpu) (avisos : List Aviso) : Maquina :=
  { m with
    sistema := { m.sistema with
      cpu := .esperando pid
      aKernel := m.sistema.aKernel ++
        ((avisos.map Aviso.paquete).map .paquete ++ [.finInstruccion]) }
    memoria := x.memoria
    tlb := x.tlb
    pendientes := x.pendientes
    registros := x.registros
    regsAKernel := m.regsAKernel ++ avisos.map Aviso.registros
    enviados := Function.update m.enviados pid (m.enviados pid ++ avisos) }

/-- A step of the system, with the registers that it moves and the requests that it sends. -/
def trasPaso (m : Maquina) (ev : Evento) (s : Estado) : Maquina :=
  { moverRegistros basura m ev with
    sistema := s
    aMemoria := m.aMemoria ++ nuevosAMemoria m.sistema.kernel s.kernel }

/-- The step is an instruction, of which the machine has its own. -/
def esInstruccion : Evento → Bool
  | .hacerInstruccion _ _ => true
  | _ => false

/-- One step. -/
def paso (m : Maquina) : EventoMaquina → Option Maquina
  | .sistema ev =>
    if esInstruccion ev then none
    else (Sistema.paso cfg cpu mcfg.tamPagina m.sistema ev).map (m.trasPaso basura ev)
  | .hacerInstruccion =>
    match m.sistema.cpu with
    | .ejecutando pid =>
      (ciclo cpu mcfg m.cpuActual pid).value.map fun x =>
        m.trasInstruccion pid x (ciclo cpu mcfg m.cpuActual pid).effects
    | _ => none
  | .manejarKernel =>
    match m.aMemoria with
    | [] => none
    | envio :: resto =>
      (pedidoDe archivos envio).map fun pedido =>
        { m with memoria := Memoria.recibirInfoKernel m.memoria pedido, aMemoria := resto }
  | .escribir pid direccion tamanio mensaje =>
    (Memoria.escribirMemoria mcfg m.memoria direccion mensaje tamanio pid).map fun (memoria, _) =>
      { m with memoria := memoria }
  | .leer pid direccion tamanio =>
    (Memoria.leerMemoria mcfg m.memoria direccion tamanio pid).map fun envios =>
      { m with leidos := Function.update m.leidos pid (m.leidos pid ++ envios) }

/-- The conditions on a step: those of the turns; an instruction stays with its process, and asks
for nothing after a denied access; an interface accesses a frame of the process for which it
works. -/
def Ordenada (m : Maquina) : EventoMaquina → Prop
  | .sistema ev => Ordenado cpu mcfg.tamPagina m.sistema ev
  | .hacerInstruccion => ∀ pid, m.sistema.cpu = .ejecutando pid →
    TurnoConfinado mcfg m.cpuActual pid ∧
    ∀ linea, lineaProxima m.memoria pid m.registros.pc = some linea →
      pideTrasDenegado cpu mcfg.tamPagina pid
        (contexto mcfg { m.cpuActual with registros := avanzarPc m.registros } pid) linea = false
  | .manejarKernel => True
  | .escribir pid direccion _ _ => 0 ≤ direccion ∧ SuByte mcfg m.memoria pid direccion
  | .leer pid direccion _ => 0 ≤ direccion ∧ SuByte mcfg m.memoria pid direccion

/-- What a step is for the processes. -/
def cuenta (m : Maquina) : EventoMaquina → List EventoProceso
  | .sistema _ => []
  | .hacerInstruccion =>
    match m.sistema.cpu with
    | .ejecutando pid => [.ejecutar pid]
    | _ => []
  | .manejarKernel => (m.aMemoria.head?.bind (eventoDe archivos)).toList
  | .escribir pid direccion tamanio mensaje => [.escribir pid direccion tamanio mensaje]
  | .leer pid direccion tamanio => [.leer pid direccion tamanio]

variable {cfg} {cpu} {mcfg} {archivos} {basura} {m : Maquina} {pid : ℕ} {x : EstadoCpu}

/-! ### The system below -/

/-- What a step of the system moves are registers. -/
theorem moverRegistros_eq (basura : ℕ → UInt32) (m : Maquina) (ev : Evento) :
    ∃ registros pcbs regsAKernel regsADispatch, moverRegistros basura m ev = { m with
      registros := registros
      pcbs := pcbs
      regsAKernel := regsAKernel
      regsADispatch := regsADispatch } := by
  unfold moverRegistros
  split
  · exact ⟨_, _, _, _, rfl⟩
  · exact ⟨_, _, _, _, rfl⟩
  · split <;> exact ⟨_, _, _, _, rfl⟩
  · split <;> exact ⟨_, _, _, _, rfl⟩
  · split
    · split_ifs <;> exact ⟨_, _, _, _, rfl⟩
    · exact ⟨_, _, _, _, rfl⟩
  · exact ⟨_, _, _, _, rfl⟩

/-- **An instruction of the machine is one of the system**, with memoria as it is. -/
theorem trasInstruccion_sistema (hpend : m.pendientes = [])
    (hcpu : m.sistema.cpu = .ejecutando pid)
    (hx : (ciclo cpu mcfg m.cpuActual pid).value = some x) :
    ∃ linea, lineaProxima m.memoria pid m.registros.pc = some linea ∧
      Sistema.hacerInstruccion cpu mcfg.tamPagina m.sistema
          (contexto mcfg { m.cpuActual with registros := avanzarPc m.registros } pid) linea =
        some (m.trasInstruccion pid x (ciclo cpu mcfg m.cpuActual pid).effects).sistema ∧
      ∀ a ∈ (ciclo cpu mcfg m.cpuActual pid).effects,
        a.registros = x.registros ∧ a.paquete.pid = pid := by
  have hpend' : m.cpuActual.pendientes = [] := hpend
  rw [ciclo_eq hpend'] at hx ⊢
  obtain ⟨i, hi, hx, heffects⟩ := bind_value_eq_some hx
  obtain ⟨linea, hlinea, hdecodificar⟩ := Option.bind_eq_some_iff.1
    (show proxima m.memoria pid m.registros.pc = some i from hi)
  obtain ⟨hregistros, hpaquetes⟩ := ejecutar_avisa
    (s := { m.cpuActual with registros := avanzarPc m.registros }) hpend i x hx
  rw [heffects]
  have hhacer : Cpu.hacerInstruccion cpu mcfg.tamPagina pid
      (contexto mcfg { m.cpuActual with registros := avanzarPc m.registros } pid) linea =
        some ((ejecutar cpu mcfg { m.cpuActual with registros := avanzarPc m.registros } pid
          i).effects.map Aviso.paquete) := by
    rw [Cpu.hacerInstruccion, hdecodificar]
    exact hpaquetes
  have hpropios := (hacerInstruccion_paquetes hhacer).1
  refine ⟨linea, hlinea, ?_, fun a ha =>
    ⟨hregistros a ha, (hpropios a.paquete (List.mem_map_of_mem ha)).1⟩⟩
  unfold Sistema.hacerInstruccion
  rw [hcpu]
  dsimp only
  rw [hhacer]
  rfl

end Maquina

end SimuladorSO.Sistema
