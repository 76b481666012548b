import SimuladorSO.Cpu.Instrucciones
import SimuladorSO.Kernel.Desalojos

/-!
# The kernel, the CPU and the messages between them

The kernel and the CPU run side by side and exchange messages over the two ports of the CPU, in
order on each.  Every event below is one of them handling one message, or going on by itself; the
events come in any order.  The registers, memoria and the interfaces may answer anything at any
time.  A handler that waits for the other side is one event where it waits and another where it
goes on:

* `replanificar` waits for a ready process once it has chosen the queue;
* the quantum clock waits for the end of the instruction, and then for the dispatch that follows;
* the CPU waits for the answer to `FIN_INSTRUCCION`, and then for an interrupt.
-/

namespace SimuladorSO.Sistema

open Commons Kernel Cpu

/-- What the CPU does. -/
inductive FaseCpu
  /-- It waits for a process. -/
  | libre
  | ejecutando (pid : ℕ)
  /-- `FIN_INSTRUCCION` is sent, and the kernel has not answered. -/
  | esperando (pid : ℕ)
  /-- The process does not go on, and the CPU waits for the interrupt. -/
  | desalojando (pid : ℕ)
  deriving DecidableEq

/-- What the thread of `planificacion_de_procesos` does, with its quantum clock. -/
inductive FaseReloj
  | parado
  | durmiendo (pid : ℕ)
  /-- The quantum ended: it waits for `sem_desalojo_quantum`. -/
  | esperandoDesalojo (pid : ℕ)
  | replanificando
  deriving DecidableEq

/-- A message of the CPU. -/
inductive MensajeCpu
  | paquete (paquete : Paquete)
  | finInstruccion

/-- A message to the dispatch port. -/
inductive MensajeDispatch
  | pcb (pid : ℕ)
  | continuaEjecutando

/-- A message to the interrupt port. -/
inductive MensajeInterrupt
  | paquete (pid : ℕ) (motivo : Cadena)
  | noContinuaEjecutando
  deriving DecidableEq

/-- The two programs and the messages on their way. -/
structure Estado where
  kernel : Kernel.Estado
  /-- The call of `replanificar` that has chosen its queue. -/
  eligiendo : Option (Lugar × Cadena)
  reloj : FaseReloj
  cpu : FaseCpu
  /-- `lista_interrupt`, if a packet has come since the CPU last looked at it. -/
  interrupcion : Option (ℕ × Cadena)
  aKernel : List MensajeCpu
  aDispatch : List MensajeDispatch
  aInterrupt : List MensajeInterrupt

/-- What can happen. -/
inductive Evento
  /-- A step of the kernel alone. -/
  | kernel (ev : Kernel.Evento)
  /-- The two parts of a call of `replanificar`, and the dispatch. -/
  | empezarReplanificacion (motivo : Cadena)
  | terminarReplanificacion
  | enviarACpu
  /-- The quantum clock. -/
  | venceQuantum
  | terminaEspera
  /-- The kernel handles a message of the CPU. -/
  | recibirRespuestaCpu
  /-- The CPU handles a message of each port. -/
  | manejarPuertoDispatch
  | manejarPuertoInterrupt
  /-- The CPU executes an instruction, and an eviction. -/
  | hacerInstruccion (c : Contexto) (instruccion : Cadena)
  | manejarPedidoInterrupcion

/-- The steps that the kernel takes by itself, or for the console and the interfaces. -/
def esPropio : Kernel.Evento → Bool
  | .iniciarProceso _ => true
  | .iniciarPlanificacion => true
  | .detenerPlanificacion => true
  | .administrarProcesosNew => true
  | .conectarInterfaz _ _ _ => true
  | .finDeIo _ _ => true
  | _ => false

/-- The thread of the admissions is in its call of `replanificar`. -/
def Estado.enReplanificar (s : Estado) : Kernel.Evento → Bool
  | .administrarProcesosNew => s.eligiendo.any fun (_, motivo) => motivo == "NEW".toList
  | _ => false

variable (cfg : KernelConfiguracion) (cpu : CpuConfiguracion) (tamPagina : ℕ)

/-- The state after start-up. -/
def Estado.inicial : Estado where
  kernel := Kernel.Estado.inicial cfg
  eligiendo := none
  reloj := .parado
  cpu := .libre
  interrupcion := none
  aKernel := []
  aDispatch := []
  aInterrupt := []

/-! ### The kernel -/

/-- A thread takes up a call of `replanificar`, up to the choice of the queue. -/
def empezarReplanificacion (s : Estado) (motivo : Cadena) : Option Estado :=
  if motivo ∈ s.kernel.porReplanificar ∧ s.eligiendo = none then
    (Kernel.empezarReplanificacion cfg s.kernel motivo).map fun (k, l) =>
      { s with
        kernel := { k with porReplanificar := k.porReplanificar.erase motivo }
        eligiendo := some (l, motivo) }
  else none

/-- The rest of the call; the clock, if it is the caller, is done. -/
def terminarReplanificacion (s : Estado) : Option Estado :=
  s.eligiendo.bind fun (l, motivo) =>
    (Kernel.terminarReplanificacion s.kernel l).map fun k =>
      if stringEqualsIgnoreCase motivo "QUANTUM".toList then
        { s with
          kernel := { k with finPorQuantum := false }
          eligiendo := none
          reloj := .parado }
      else { s with kernel := k, eligiendo := none }

/-- `planificacion_de_procesos`, up to its wait for the clock. -/
def enviarACpu (s : Estado) : Option Estado :=
  if s.reloj = .parado then
    (Kernel.enviarACpu s.kernel).map fun (k, pid) =>
      { s with
        kernel := k
        aDispatch := s.aDispatch ++ [.pcb pid]
        reloj := if cfg.algoritmoPlanificacion.contieneRR then .durmiendo pid else .parado }
  else none

/-- `habilitacion_quantum` after its sleep, or `habilitacion_instruccion` before that if the
process is evicted by its instruction. -/
def venceQuantum (s : Estado) : Option Estado :=
  match s.reloj with
  | .durmiendo pid =>
    if s.kernel.desalojaPorInstruccion then some { s with reloj := .parado }
    else
      some { s with
        kernel := { s.kernel with finPorQuantum := true }
        aInterrupt := s.aInterrupt ++ [.paquete pid "QUANTUM".toList]
        reloj := .esperandoDesalojo pid }
  | _ => none

/-- `pedido_de_desalojo` of the clock, after `sem_desalojo_quantum`. -/
def terminaEspera (s : Estado) : Option Estado :=
  match s.reloj with
  | .esperandoDesalojo _ =>
    let k := s.kernel
    if k.reloj.desalojoQuantum = 0 then none
    else
      let k := { k with reloj := { k.reloj with desalojoQuantum := k.reloj.desalojoQuantum - 1 } }
      if k.desalojaPorInstruccion then
        some { s with kernel := { k with finPorQuantum := false }, reloj := .parado }
      else
        some { s with
          kernel := { k with porReplanificar := k.porReplanificar ++ ["QUANTUM".toList] }
          reloj := .replanificando }
  | _ => none

/-- `recibir_respuesta_cpu`: the interrupts that the handler of a packet sends go to the CPU. -/
def recibirRespuestaCpu (s : Estado) : Option Estado :=
  match s.aKernel with
  | [] => none
  | .paquete q :: resto =>
    (recibirPaqueteCpu cfg s.kernel q.pid q.motivo q.lista).map fun k =>
      { s with
        kernel := k
        aKernel := resto
        aInterrupt := s.aInterrupt ++ (k.interrupciones.drop s.kernel.interrupciones.length).map
          fun (pid, motivo) => .paquete pid motivo }
  | .finInstruccion :: resto =>
    let (k, respuesta) := recibirMensajeCpu s.kernel
    match respuesta with
    | .continua =>
      some { s with
        kernel := k
        aKernel := resto
        aDispatch := s.aDispatch ++ [.continuaEjecutando] }
    | .noContinua =>
      some { s with
        kernel := k
        aKernel := resto
        aInterrupt := s.aInterrupt ++ [.noContinuaEjecutando] }

/-! ### The CPU -/

/-- `manejarPuertoDispatch`: a process is taken once the last one is gone. -/
def manejarPuertoDispatch (s : Estado) : Option Estado :=
  match s.aDispatch, s.cpu with
  | .pcb pid :: resto, .libre => some { s with cpu := .ejecutando pid, aDispatch := resto }
  | .continuaEjecutando :: resto, .esperando pid =>
    some { s with cpu := .ejecutando pid, aDispatch := resto }
  | _, _ => none

/-- `manejarPuertoInterrupt`: a packet replaces the one before it. -/
def manejarPuertoInterrupt (s : Estado) : Option Estado :=
  match s.aInterrupt, s.cpu with
  | .paquete pid motivo :: resto, _ =>
    some { s with interrupcion := some (pid, motivo), aInterrupt := resto }
  | .noContinuaEjecutando :: resto, .esperando pid =>
    some { s with cpu := .desalojando pid, aInterrupt := resto }
  | _, _ => none

/-- One turn of `empezar_a_ejecutar_proceso`, up to its wait for the kernel. -/
def hacerInstruccion (s : Estado) (c : Contexto) (instruccion : Cadena) : Option Estado :=
  match s.cpu with
  | .ejecutando pid =>
    (Cpu.hacerInstruccion cpu tamPagina pid c instruccion).map fun paquetes =>
      { s with
        cpu := .esperando pid
        aKernel := s.aKernel ++ (paquetes.map .paquete ++ [.finInstruccion]) }
  | _ => none

/-- `manejar_pedido_interrupcion` and `esperar_su_desalojo`: an interrupt for another process is
discarded, and the process goes on. -/
def manejarPedidoInterrupcion (s : Estado) : Option Estado :=
  match s.cpu, s.interrupcion with
  | .desalojando pid, some (q, motivo) =>
    if q = pid then
      some { s with
        cpu := .libre
        interrupcion := none
        aKernel := s.aKernel ++
          if stringEqualsIgnoreCase motivo "QUANTUM".toList then
            [.paquete ⟨pid, "QUANTUM".toList, []⟩]
          else [] }
    else some { s with cpu := .ejecutando pid, interrupcion := none }
  | _, _ => none

/-- One step. -/
def paso (s : Estado) : Evento → Option Estado
  | .kernel ev =>
    if esPropio ev ∧ s.enReplanificar ev = false then
      (Kernel.paso cfg s.kernel ev).map fun k => { s with kernel := k }
    else none
  | .empezarReplanificacion motivo => empezarReplanificacion cfg s motivo
  | .terminarReplanificacion => terminarReplanificacion s
  | .enviarACpu => enviarACpu cfg s
  | .venceQuantum => venceQuantum s
  | .terminaEspera => terminaEspera s
  | .recibirRespuestaCpu => recibirRespuestaCpu cfg s
  | .manejarPuertoDispatch => manejarPuertoDispatch s
  | .manejarPuertoInterrupt => manejarPuertoInterrupt s
  | .hacerInstruccion c instruccion => hacerInstruccion cpu tamPagina s c instruccion
  | .manejarPedidoInterrupcion => manejarPedidoInterrupcion s

end SimuladorSO.Sistema
