import SimuladorSO.Commons
import SimuladorSO.Library.Dictionary
import SimuladorSO.Library.Loops

/-!
# The kernel: state and operations

The state of `kernel.c` and the functions that move processes between its queues.  A PCB is known
by its pid.  Each function is one atomic step of the thread that runs it, and answers `none` where
the program blocks on a semaphore, dereferences `NULL` or does not come back.  The rendezvous with
the quantum clock are kept as the posts that the handlers make (`Reloj`); the clock is taken to
answer them.

* states and queues: `cambiarEstado`, `iniciar`, `administrarProcesosNew`, `replanificar`;
* resources: `wait`, `signal`, `liberarRecursos`;
* requests of the running process: `atenderSolicitudCpu`, with `exitPrima`;
* the console: `iniciarProceso`, `finalizarProceso` with `encontrarPcb`;
* the interfaces: `conectarInterfaz`, `finDeIo`.
-/

namespace SimuladorSO.Kernel

open Dictionary Commons

/-- The scheduling algorithms. -/
inductive Algoritmo
  | FIFO
  | RR
  | VRR
  deriving DecidableEq

/-- The name contains `RR`, so there is a quantum. -/
def Algoritmo.contieneRR : Algoritmo → Bool
  | FIFO => false
  | RR => true
  | VRR => true

/-- The configuration read by `levantar_config`; a resource is given with its instances. -/
structure KernelConfiguracion where
  algoritmoPlanificacion : Algoritmo
  recursos : List (Cadena × ℤ)
  gradoMultiprogramacion : ℕ

/-- The state of a process, an element of `lista_estados`. -/
inductive EstadoProceso
  | new
  | ready
  | readyM
  | exec
  | block
  | blockIo (interfaz : Cadena)
  | blockRecurso (recurso : Cadena)
  | exit
  deriving DecidableEq

/-- The text of a state. -/
def EstadoProceso.texto : EstadoProceso → Cadena
  | new => "NEW".toList
  | ready => "READY".toList
  | readyM => "READY+".toList
  | exec => "EXEC".toList
  | block => "BLOCK".toList
  | blockIo interfaz => "BLOCK - IO: ".toList ++ interfaz
  | blockRecurso recurso => "BLOCK - RECURSO: ".toList ++ recurso
  | exit => "EXIT".toList

/-- The index in `lista_estados_logueables` of the pids in a state. -/
def EstadoProceso.numeroEstado : EstadoProceso → ℕ
  | new => 0
  | ready => 1
  | readyM => 2
  | exec => 3
  | block => 4
  | blockIo _ => 4
  | blockRecurso _ => 4
  | exit => 5

/-- The queues of processes other than `cola_exec`; those of `colas_block_io` and
`colas_block_recursos` by their index. -/
inductive Lugar
  | new
  | ready
  | readyM
  | exit
  | io (i : ℕ)
  | recurso (i : ℕ)
  deriving DecidableEq

/-- An element of `lista_recursos_retenidos`. -/
structure RecursosRetenidos where
  pid : ℕ
  recurso : Cadena
  deriving DecidableEq

/-- The permits that the handlers post for the quantum clock. -/
structure Reloj where
  terminoLaInstruccion : ℕ
  esperarInstruccion : ℕ
  desalojoQuantum : ℕ

/-- What the kernel sends to memoria, to an interface, and to the interrupt port of the CPU. -/
inductive Envio
  | iniciarProceso (path : Cadena) (pid : ℕ)
  | finalizarProceso (pid : ℕ)
  | interfaz (conexion : ℤ) (pid : ℕ) (instruccion : Cadena) (argumentos : List Cadena)
  | interrupcion (pid : ℕ) (motivo : Cadena)
  deriving DecidableEq

/-- The global variables of the module. -/
structure Estado where
  contadorPid : ℕ
  /-- The PCBs that have been pushed and not popped, one for each node of the queue. -/
  cola : Lugar → List ℕ
  /-- The PCBs whose node of `cola_exit` has been overwritten. -/
  pisados : List ℕ
  colaExec : List ℕ
  listaEstados : List EstadoProceso
  listaEstadosLogueables : List (List ℕ)
  listaPidsReady : List ℕ
  listaPidsReadyM : List ℕ
  instanciasRecurso : ℕ → ℤ
  listaRecursosRetenidos : List RecursosRetenidos
  /-- The identifiers of `colas_block_io`. -/
  interfaces : List Cadena
  semHayProceso : ℕ → ℕ
  diccionarioInstruccionesPermitidasIo : Dict Cadena Cadena
  diccionarioConexionesIo : Dict Cadena ℤ
  semMultiprogramacion : ℕ
  semHayProcesosEnNew : ℕ
  semProcesosEnReady : ℕ
  semProcesosEnReadyM : ℕ
  semPlanificacion : ℕ
  semReplanificacionQuantum : ℕ
  semEjecutar : ℕ
  semCasoExitUsuario : ℕ
  reloj : Reloj
  desalojaPorInstruccion : Bool
  finPorQuantum : Bool
  desalojaPorUsuario : Bool
  esPrimerProceso : Bool
  /-- The reason with which the thread of the CPU's answers would call `replanificar`. -/
  motivo : Cadena
  /-- The reasons of the calls of `replanificar` that some thread has made. -/
  porReplanificar : List Cadena
  enviados : List Envio

variable (cfg : KernelConfiguracion)

/-- The state after start-up. -/
def Estado.inicial : Estado where
  contadorPid := 1
  cola := fun _ => []
  pisados := []
  colaExec := []
  listaEstados := []
  listaEstadosLogueables := [[], [], [], [], [], []]
  listaPidsReady := []
  listaPidsReadyM := []
  instanciasRecurso := fun i => (cfg.recursos[i]?).elim 0 Prod.snd
  listaRecursosRetenidos := []
  interfaces := []
  semHayProceso := fun _ => 0
  diccionarioInstruccionesPermitidasIo := []
  diccionarioConexionesIo := []
  semMultiprogramacion := cfg.gradoMultiprogramacion
  semHayProcesosEnNew := 0
  semProcesosEnReady := 0
  semProcesosEnReadyM := 0
  semPlanificacion := 0
  semReplanificacionQuantum := 0
  semEjecutar := 0
  semCasoExitUsuario := 0
  reloj := ⟨0, 0, 0⟩
  desalojaPorInstruccion := false
  finPorQuantum := false
  desalojaPorUsuario := false
  esPrimerProceso := true
  motivo := []
  porReplanificar := []
  enviados := []

/-! ### States and queues -/

/-- `list_get(lista_estados, pid - 1)`. -/
def Estado.estado (k : Estado) : ℕ → Option EstadoProceso
  | 0 => none
  | pid + 1 => k.listaEstados[pid]?

/-- `cambiar_estado_logueable`: the pid leaves the list of its old state, if there is one, and
enters the list of the new state. -/
def cambiarEstadoLogueable (listas : List (List ℕ)) (estadoViejo : Option EstadoProceso)
    (nuevoEstado : EstadoProceso) (pid : ℕ) : List (List ℕ) :=
  let listas := match estadoViejo with
    | some estado => listas.modify estado.numeroEstado fun sublista => sublista.erase pid
    | none => listas
  listas.modify nuevoEstado.numeroEstado fun sublista => sublista ++ [pid]

/-- `cambiar_estado`: a new process is added at the end, for the others the element at `pid - 1`
is replaced. -/
def Estado.cambiarEstado (k : Estado) (pid : ℕ) (nuevoEstado : EstadoProceso) : Estado :=
  { k with
    listaEstados :=
      if nuevoEstado = .new then k.listaEstados ++ [nuevoEstado]
      else k.listaEstados.set (pid - 1) nuevoEstado
    listaEstadosLogueables :=
      cambiarEstadoLogueable k.listaEstadosLogueables
        (if nuevoEstado = .new then none else k.estado pid) nuevoEstado pid }

/-- `queue_push`. -/
def Estado.encolar (k : Estado) (l : Lugar) (pid : ℕ) : Estado :=
  { k with cola := Function.update k.cola l (k.cola l ++ [pid]) }

/-- `queue_pop`, whose result every caller dereferences. -/
def Estado.desencolar (k : Estado) (l : Lugar) : Option (ℕ × Estado) :=
  match k.cola l with
  | [] => none
  | pid :: resto => some (pid, { k with cola := Function.update k.cola l resto })

/-- `iniciar`: the process becomes ready, with priority under VRR unless its quantum ended. -/
def iniciar (k : Estado) (pid : ℕ) (motivo : Cadena) : Estado :=
  if stringEqualsIgnoreCase motivo "QUANTUM".toList ∨ cfg.algoritmoPlanificacion ≠ .VRR then
    let k := k.encolar .ready pid
    let k := { k with listaPidsReady := k.listaPidsReady ++ [pid] }
    let k := k.cambiarEstado pid .ready
    let k := if stringEqualsIgnoreCase motivo "QUANTUM".toList then
        { k with semReplanificacionQuantum := k.semReplanificacionQuantum + 1 }
      else k
    { k with semProcesosEnReady := k.semProcesosEnReady + 1 }
  else
    let k := k.encolar .readyM pid
    let k := { k with listaPidsReadyM := k.listaPidsReadyM ++ [pid] }
    let k := k.cambiarEstado pid .readyM
    { k with semProcesosEnReadyM := k.semProcesosEnReadyM + 1 }

/-- The head of a block queue is made ready. -/
def desbloquear (k : Estado) (l : Lugar) (motivo : Cadena) : Option Estado :=
  (k.desencolar l).map fun (pid, k) => iniciar cfg k pid motivo

/-- One turn of the loop of `administrar_procesos_new`, which has to be back from `replanificar`. -/
def administrarProcesosNew (k : Estado) : Option Estado :=
  if k.semHayProcesosEnNew = 0 ∨ k.semMultiprogramacion = 0 ∨
      k.porReplanificar.contains "NEW".toList then none
  else
    let k := { k with
      semHayProcesosEnNew := k.semHayProcesosEnNew - 1
      semMultiprogramacion := k.semMultiprogramacion - 1 }
    (k.desencolar .new).map fun (pid, k) =>
      let k := k.encolar .ready pid
      let k := { k with listaPidsReady := k.listaPidsReady ++ [pid] }
      let k := k.cambiarEstado pid .ready
      let k := { k with semProcesosEnReady := k.semProcesosEnReady + 1 }
      if k.esPrimerProceso then
        { k with porReplanificar := k.porReplanificar ++ ["NEW".toList], esPrimerProceso := false }
      else k

/-! ### Dispatch -/

/-- The ready queue from which `replanificar` takes the next process. -/
def elegirCola (k : Estado) (motivo : Cadena) : Lugar :=
  if cfg.algoritmoPlanificacion = .VRR ∧ (k.cola .readyM ≠ [] ∨ (k.cola .ready = [] ∧
      (stringContains motivo "IO".toList ∨ stringEqualsIgnoreCase motivo "WAIT".toList))) then
    .readyM
  else .ready

/-- `replanificar` up to the choice of the ready queue. -/
def empezarReplanificacion (k : Estado) (motivo : Cadena) : Option (Estado × Lugar) :=
  if k.semPlanificacion = 0 then none
  else
    let k := { k with semPlanificacion := k.semPlanificacion - 1 }
    if stringEqualsIgnoreCase motivo "QUANTUM".toList then
      if k.semReplanificacionQuantum = 0 then none
      else
        let k := { k with semReplanificacionQuantum := k.semReplanificacionQuantum - 1 }
        some (k, elegirCola cfg k motivo)
    else some (k, elegirCola cfg k motivo)

/-- The popped process replaces what is in `cola_exec` and may be executed. -/
def pasarAExec (k : Estado) (pid : ℕ) : Estado :=
  let k := { k with colaExec := [pid] }
  let k := k.cambiarEstado pid .exec
  { k with semEjecutar := k.semEjecutar + 1, semPlanificacion := k.semPlanificacion + 1 }

/-- `replanificar` from the wait on the semaphore of the chosen ready queue on. -/
def terminarReplanificacion (k : Estado) (l : Lugar) : Option Estado :=
  if l = .readyM then
    if k.semProcesosEnReadyM = 0 then none
    else
      let k := { k with semProcesosEnReadyM := k.semProcesosEnReadyM - 1 }
      (k.desencolar .readyM).map fun (pid, k) =>
        pasarAExec { k with listaPidsReadyM := k.listaPidsReadyM.tail } pid
  else
    if k.semProcesosEnReady = 0 then none
    else
      let k := { k with semProcesosEnReady := k.semProcesosEnReady - 1 }
      (k.desencolar .ready).map fun (pid, k) =>
        pasarAExec { k with listaPidsReady := k.listaPidsReady.tail } pid

/-- `replanificar`. -/
def replanificar (k : Estado) (motivo : Cadena) : Option Estado :=
  (empezarReplanificacion cfg k motivo).bind fun (k, l) => terminarReplanificacion k l

/-! ### The quantum clock and the evictions -/

/-- The posts of a syscall when it starts. -/
def Reloj.empezar (r : Reloj) (finPorQuantum : Bool) : Reloj :=
  if cfg.algoritmoPlanificacion.contieneRR ∧ finPorQuantum = false then
    { r with terminoLaInstruccion := r.terminoLaInstruccion + 1 }
  else r

/-- The posts of a syscall that evicts the process. -/
def Reloj.desalojar (r : Reloj) (finPorQuantum : Bool) : Reloj :=
  if cfg.algoritmoPlanificacion.contieneRR then
    if finPorQuantum then { r with desalojoQuantum := r.desalojoQuantum + 1 }
    else { r with esperarInstruccion := r.esperarInstruccion + 1 }
  else r

/-- The posts of a syscall after which the process goes on. -/
def Reloj.seguir (r : Reloj) (finPorQuantum : Bool) : Reloj :=
  if cfg.algoritmoPlanificacion.contieneRR ∧ finPorQuantum = false then
    { r with esperarInstruccion := r.esperarInstruccion + 1 }
  else r

/-- The process is evicted by its instruction. -/
def desalojarPorInstruccion (k : Estado) : Estado :=
  { k with
    desalojaPorInstruccion := true
    reloj := k.reloj.desalojar cfg k.finPorQuantum }

/-- `pedido_de_desalojo` for a reason other than the quantum. -/
def pedidoDeDesalojo (k : Estado) (motivo : Cadena) (pid : ℕ) : Estado :=
  { k with enviados := k.enviados ++ [Envio.interrupcion pid motivo] }

/-! ### Resources -/

/-- `encontrar_cola_recurso`, as an index. -/
def encontrarColaRecurso (nombre : Cadena) : Option ℕ :=
  cfg.recursos.findIdx? fun r => stringEqualsIgnoreCase r.1 nombre

/-- `wait`: whether the resource is missing.  Then `motivo` has been freed. -/
def wait (k : Estado) (recurso : Cadena) (pid : ℕ) : Estado × Bool :=
  match encontrarColaRecurso cfg recurso with
  | none => (k, true)
  | some i =>
    let k := { k with
      instanciasRecurso := Function.update k.instanciasRecurso i (k.instanciasRecurso i - 1) }
    let k := if k.instanciasRecurso i < 0 then
        let k := desalojarPorInstruccion cfg k
        let k := k.encolar (.recurso i) pid
        let k := pedidoDeDesalojo k "WAIT".toList pid
        k.cambiarEstado pid (.blockRecurso recurso)
      else { k with reloj := k.reloj.seguir cfg k.finPorQuantum }
    ({ k with listaRecursosRetenidos := k.listaRecursosRetenidos ++ [⟨pid, recurso⟩] }, false)

/-- The record is of this process and this resource. -/
def RecursosRetenidos.concuerda (nombreRecurso : Cadena) (pid : ℕ) (r : RecursosRetenidos) : Bool :=
  stringEqualsIgnoreCase r.recurso nombreRecurso && r.pid == pid

/-- `quitar_de_lista_recursos_retenidos`: the removed record is dereferenced without a check. -/
def quitarDeListaRecursosRetenidos (k : Estado) (nombreRecurso : Cadena) (pid : ℕ) :
    Option Estado :=
  if k.listaRecursosRetenidos.any (RecursosRetenidos.concuerda nombreRecurso pid) then
    some { k with
      listaRecursosRetenidos :=
        k.listaRecursosRetenidos.eraseP (RecursosRetenidos.concuerda nombreRecurso pid) }
  else none

/-- `signal`: whether the resource is missing.  The branch of SIGNAL frees `motivo` after it. -/
def signal (k : Estado) (recurso : Cadena) (pid : ℕ) : Option (Estado × Bool) :=
  match encontrarColaRecurso cfg recurso with
  | none => some (k, true)
  | some i =>
    let k := { k with
      instanciasRecurso := Function.update k.instanciasRecurso i (k.instanciasRecurso i + 1) }
    let desbloqueado := if k.instanciasRecurso i ≤ 0 then
        desbloquear cfg { k with reloj := k.reloj.seguir cfg k.finPorQuantum } (.recurso i)
          "LIBERACION DE RECURSOS".toList
      else some k
    desbloqueado.bind fun k =>
      (quitarDeListaRecursosRetenidos k recurso pid).map fun k => (k, false)

/-- The loop of `liberar_recursos`.  Each turn takes a record away, so the length of the list is
enough fuel; a turn that did not would be repeated without end. -/
def liberarRecursosDesde (pid : ℕ) : ℕ → Estado → Option Estado
  | fuel, k =>
    match k.listaRecursosRetenidos.find? fun r => r.pid = pid with
    | none => some k
    | some r =>
      match fuel with
      | 0 => none
      | fuel + 1 => (signal cfg k r.recurso pid).bind fun (k, _) => liberarRecursosDesde pid fuel k

/-- `liberar_recursos`. -/
def liberarRecursos (k : Estado) (pid : ℕ) : Option Estado :=
  liberarRecursosDesde cfg pid k.listaRecursosRetenidos.length k

/-! ### Interfaces -/

/-- `encontrar_cola`, as an index. -/
def encontrarCola (interfaces : List Cadena) (interfaz : Cadena) : Option ℕ :=
  interfaces.findIdx? fun identificador => stringEqualsIgnoreCase identificador interfaz

/-- `cumple_interfaz`: `string_contains` of a missing entry does not come back. -/
def cumpleInterfaz (k : Estado) (interfaz instruccion : Cadena) : Option Bool :=
  if (encontrarCola k.interfaces interfaz).isSome then
    (get k.diccionarioInstruccionesPermitidasIo interfaz).map fun instruccionesPermitidas =>
      stringContains instruccionesPermitidas instruccion
  else some false

/-- `atender_interfaz` up to its loop: a name that is registered again keeps its queue. -/
def conectarInterfaz (k : Estado) (idInterfaz instruccionesPermitidas : Cadena) (conexion : ℤ) :
    Estado :=
  let k := { k with diccionarioConexionesIo := put k.diccionarioConexionesIo idInterfaz conexion }
  if (get k.diccionarioInstruccionesPermitidasIo idInterfaz).isSome then k
  else
    { k with
      diccionarioInstruccionesPermitidasIo :=
        put k.diccionarioInstruccionesPermitidasIo idInterfaz instruccionesPermitidas
      cola := Function.update k.cola (.io k.interfaces.length) []
      interfaces := k.interfaces ++ [idInterfaz]
      semHayProceso := Function.update k.semHayProceso k.interfaces.length 0 }

/-- The messages that end an operation of an interface. -/
def mensajesDeFin : List Cadena :=
  ["END_OF_IO_GEN_SLEEP".toList, "END_OF_IO_STDOUT_WRITE".toList, "END_OF_IO_STDIN_READ".toList,
    "END_OF_IO_FS_CREATE".toList, "END_OF_IO_FS_TRUNCATE".toList, "END_OF_IO_FS_WRITE".toList,
    "END_OF_IO_FS_READ".toList, "END_OF_IO_FS_DELETE".toList]

/-- A message of an interface: the head of its queue is made ready. -/
def finDeIo (k : Estado) (idInterfaz mensaje : Cadena) : Option Estado :=
  match mensajesDeFin.find? (stringEqualsIgnoreCase mensaje) with
  | none => some k
  | some fin =>
    (encontrarCola k.interfaces idInterfaz).bind fun i => desbloquear cfg k (.io i) fin

/-- The values of the packet that go to the interface: `io_gen_sleep` and its kin. -/
def argumentosIo (lista : List Cadena) (motivo : Cadena) : Option (Option (List Cadena)) :=
  let primeros (n : ℕ) := if n < lista.length then some (some ((lista.drop 1).take n)) else none
  if stringEqualsIgnoreCase motivo "IO_GEN_SLEEP".toList then primeros 1
  else if stringEqualsIgnoreCase motivo "IO_STDOUT_WRITE".toList ∨
      stringEqualsIgnoreCase motivo "IO_STDIN_READ".toList then primeros 2
  else if stringEqualsIgnoreCase motivo "IO_FS_CREATE".toList ∨
      stringEqualsIgnoreCase motivo "IO_FS_DELETE".toList then primeros 1
  else if stringEqualsIgnoreCase motivo "IO_FS_TRUNCATE".toList then primeros 2
  else if stringEqualsIgnoreCase motivo "IO_FS_WRITE".toList ∨
      stringEqualsIgnoreCase motivo "IO_FS_READ".toList then primeros 4
  else some none

/-- `bloquear_i`, over the index of the interface. -/
def bloquearI (k : Estado) (i pid : ℕ) : Estado :=
  (k.encolar (.io i) pid).cambiarEstado pid .block

/-- The branch of `atender_solicitud_cpu` for a request that the interface permits; planning must
not be stopped. -/
def bloquearPorIo (k : Estado) (lista : List Cadena) (pid : ℕ) (motivo interfaz : Cadena) :
    Option Estado :=
  (encontrarCola k.interfaces interfaz).bind fun i =>
    let k := desalojarPorInstruccion cfg k
    let k := bloquearI k i pid
    if k.semPlanificacion = 0 then none
    else
      (argumentosIo lista motivo).bind fun argumentos =>
        (get k.diccionarioConexionesIo interfaz).map fun conexion =>
          let k := { k with
            enviados := k.enviados ++
              (argumentos.toList.map fun args => Envio.interfaz conexion pid motivo args) }
          let k := k.cambiarEstado pid (.blockIo interfaz)
          pedidoDeDesalojo k motivo pid

/-! ### Requests of the running process -/

/-- `exit_prima`.  `estado_anterior` is compared with `EXEC` once `cambiar_estado` has freed it, and
its chunk holds something else by then: `replanificar` is not called. -/
def exitPrima (k : Estado) (pid : ℕ) : Option Estado :=
  (liberarRecursos cfg k pid).map fun k =>
    let k := { k with enviados := k.enviados ++ [Envio.finalizarProceso pid] }
    let k := k.encolar .exit pid
    let k := { k with semMultiprogramacion := k.semMultiprogramacion + 1 }
    k.cambiarEstado pid .exit

/-- `motivo` is freed for the second time when its chunk is that of the node that `exit_prima` has
pushed, and the new reason is written there. -/
def pisarNodo (k : Estado) (pid : ℕ) : Estado := { k with pisados := k.pisados ++ [pid] }

/-- The end of a process by its own request.  The text that the caller knows as `motivo` changes
with it. -/
def terminar (k : Estado) (pid : ℕ) (noCumplioRecurso : Bool) (motivo : Cadena) : Option Estado :=
  (exitPrima cfg (desalojarPorInstruccion cfg k) pid).map fun k =>
    let k := if noCumplioRecurso then pisarNodo k pid else k
    pedidoDeDesalojo { k with motivo := motivo } motivo pid

/-- The part of `atender_solicitud_cpu` after the instruction itself: the reason with which the
process ends, if it does. -/
def motivoDeExit (noCumplioRecurso noExisteInterfaz : Bool) (motivo : Cadena) : Option Cadena :=
  if noCumplioRecurso then some "INVALID_RESOURCE".toList
  else if noExisteInterfaz then some "INVALID_INTERFACE".toList
  else if stringEqualsIgnoreCase motivo "OUT_OF_MEMORY".toList ∨
      stringEqualsIgnoreCase motivo "DENIED_ACCESS".toList ∨
      stringEqualsIgnoreCase motivo "EXIT".toList then
    some motivo
  else none

/-- The instruction of a request: the kernel after it, and whether the resource or the interface is
missing. -/
def atenderInstruccion (k : Estado) (lista : List Cadena) (pid : ℕ) (motivo : Cadena) :
    Option (Estado × Bool × Bool) :=
  if stringContains motivo "IO".toList then
    (lista[0]?).bind fun interfaz =>
      (cumpleInterfaz k interfaz motivo).bind fun cumple =>
        if cumple then
          (bloquearPorIo cfg k lista pid motivo interfaz).map fun k => (k, false, false)
        else some (k, false, true)
  else if stringEqualsIgnoreCase motivo "WAIT".toList then
    (lista[0]?).map fun recurso =>
      ((wait cfg k recurso pid).1, (wait cfg k recurso pid).2, false)
  else if stringEqualsIgnoreCase motivo "SIGNAL".toList then
    (lista[0]?).bind fun recurso =>
      (signal cfg k recurso pid).map fun (k, noCumplioRecurso) => (k, noCumplioRecurso, false)
  else some (k, false, false)

/-- `atender_solicitud_cpu` for the process `pid`, the head of `cola_exec`. -/
def atenderSolicitudCpu (k : Estado) (lista : List Cadena) (pid : ℕ) (motivo : Cadena) :
    Option Estado :=
  if stringEqualsIgnoreCase motivo "QUANTUM".toList then some (iniciar cfg k pid motivo)
  else
    let k := { k with
      reloj := k.reloj.empezar cfg k.finPorQuantum
      colaExec := [pid] }
    (atenderInstruccion cfg k lista pid motivo).bind fun (k, noCumplioRecurso, noExisteInterfaz) =>
      match motivoDeExit noCumplioRecurso noExisteInterfaz motivo with
      | some motivo => terminar cfg k pid noCumplioRecurso motivo
      | none => some k

/-- A packet of the CPU: `cargar_pcb` gives its pid to the PCB at the head of `cola_exec`, which
is modelled only where it is that PCB's own. -/
def recibirPaqueteCpu (k : Estado) (pid : ℕ) (motivo : Cadena) (lista : List Cadena) :
    Option Estado :=
  if k.colaExec.head? = some pid then
    atenderSolicitudCpu cfg { k with motivo := motivo } lista pid motivo
  else none

/-- The answer of the kernel to `FIN_INSTRUCCION`. -/
inductive RespuestaCpu
  | continua
  | noContinua
  deriving DecidableEq

/-- A message of the CPU, which is always the end of an instruction. -/
def recibirMensajeCpu (k : Estado) : Estado × RespuestaCpu :=
  if k.finPorQuantum ∧ k.desalojaPorInstruccion = false then
    ({ k with reloj := { k.reloj with desalojoQuantum := k.reloj.desalojoQuantum + 1 } },
      .noContinua)
  else if k.desalojaPorInstruccion then
    ({ k with porReplanificar := k.porReplanificar ++ [k.motivo] }, .noContinua)
  else if k.desalojaPorUsuario then
    ({ k with semCasoExitUsuario := k.semCasoExitUsuario + 1, desalojaPorUsuario := false },
      .noContinua)
  else (k, .continua)

/-- `planificacion_de_procesos` up to the packet with the PCB: the process that goes to the CPU. -/
def enviarACpu (k : Estado) : Option (Estado × ℕ) :=
  if k.semEjecutar = 0 then none
  else
    (k.colaExec.head?).map fun pid =>
      ({ k with semEjecutar := k.semEjecutar - 1, desalojaPorInstruccion := false }, pid)

/-! ### The console -/

/-- `INICIAR_PROCESO`. -/
def iniciarProceso (k : Estado) (path : Cadena) : Estado :=
  let pid := k.contadorPid
  let k := { k with contadorPid := k.contadorPid + 1 }
  let k := k.encolar .new pid
  let k := k.cambiarEstado pid .new
  { k with
    enviados := k.enviados ++ [Envio.iniciarProceso path pid]
    semHayProcesosEnNew := k.semHayProcesosEnNew + 1 }

/-- One turn of the loop of `pcb_en_cola`: the head is kept apart or put back at the end. -/
def rotar (pid : ℕ) : List ℕ × Bool → List ℕ × Bool
  | ([], encontrado) => ([], encontrado)
  | (p :: resto, encontrado) => if p = pid then (resto, true) else (resto ++ [p], encontrado)

/-- `pcb_en_cola`: the queue without the process; the result is undefined if it is not there. -/
def pcbEnCola (cola : List ℕ) (pid : ℕ) : Option (List ℕ) :=
  let s := Loops.iterate (fun _ => rotar pid) cola.length (cola, false)
  if s.2 then some s.1 else none

/-- `pcb_en_cola` on one of the queues. -/
def Estado.sacarDe (k : Estado) (l : Lugar) (pid : ℕ) : Option Estado :=
  (pcbEnCola (k.cola l) pid).map fun resto => { k with cola := Function.update k.cola l resto }

/-- The last piece of `string_split` by spaces. -/
def ultimaPalabra (texto : Cadena) : Cadena :=
  (texto.reverse.takeWhile fun c => c ≠ ' ').reverse

/-- `encontrar_pcb`: the process is taken out of the queue of its state.  The branch for an
interface waits on a semaphore that nothing posts. -/
def encontrarPcb (k : Estado) (pid : ℕ) : Option Estado :=
  let admitido := { k with semMultiprogramacion := k.semMultiprogramacion + 1 }
  match k.estado pid with
  | none => none
  | some .new => k.sacarDe .new pid
  | some .ready => admitido.sacarDe .ready pid
  | some .readyM => admitido.sacarDe .readyM pid
  | some .exec => (pcbEnCola k.colaExec pid).map fun resto => { admitido with colaExec := resto }
  | some estado =>
    let nombre := ultimaPalabra estado.texto
    if stringContains estado.texto "IO".toList then
      (encontrarCola k.interfaces nombre).bind fun i =>
        if k.semHayProceso i = 0 then none
        else
          { k with
            semHayProceso := Function.update k.semHayProceso i (k.semHayProceso i - 1) }.sacarDe
              (.io i) pid
    else
      (encontrarColaRecurso cfg nombre).bind fun i =>
        (k.sacarDe (.recurso i) pid).bind fun k =>
          quitarDeListaRecursosRetenidos { k with
            instanciasRecurso := Function.update k.instanciasRecurso i (k.instanciasRecurso i + 1) }
            nombre pid

/-- `FINALIZAR_PROCESO`; a process in EXEC is at the end of an instruction. -/
def finalizarProceso (k : Estado) (pid : ℕ) : Option Estado :=
  (encontrarPcb cfg k pid).bind fun k =>
    let k := if k.estado pid = some .exec then
        pedidoDeDesalojo k "FINALIZAR_PROCESO".toList pid
      else k
    exitPrima cfg k pid

end SimuladorSO.Kernel
