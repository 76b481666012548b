import SimuladorSO.Kernel.Pasos
import SimuladorSO.Library.Matching

/-!
# Requests and answers of the interfaces

A request of a process is put in the queue of its interface by the thread of the CPU's answers,
which sends it to the interface afterwards; the thread of the interface takes a process out of that queue
for each end of an operation.  The two threads, the interface and the rest of the kernel take their
steps in any order.

* `MismasInterfaces`: what no other part of the kernel touches;
* `empezarIo`, `enviarPedido`, `terminarIo`: the three pieces of a request, and
  `recibirPaqueteCpu_por_partes`, that one after another they are what `recibirPaqueteCpu` does;
* `EstadoIo`, `pasoIo`: the kernel with its connections;
* `Emparejados`, which every step keeps (`pasoIo_emparejados`): each queue holds the requests of its
  interface that have not been answered and read;
* `io_despierta_al_proceso`: each end wakes up the process whose request it answers.
-/

namespace SimuladorSO.Kernel

open Queues Transitions Commons Dictionary Matching

/-- The interfaces, their queues and their connections have not changed. -/
structure MismasInterfaces (k k' : Estado) : Prop where
  cola : ∀ i, k'.cola (.io i) = k.cola (.io i)
  interfaces : k'.interfaces = k.interfaces
  semHayProceso : k'.semHayProceso = k.semHayProceso
  conexiones : k'.diccionarioConexionesIo = k.diccionarioConexionesIo
  permitidas : k'.diccionarioInstruccionesPermitidasIo = k.diccionarioInstruccionesPermitidasIo

variable {cfg : KernelConfiguracion} {k k₁ k' : Estado} {p : ℕ} {l : Lugar} {motivo : Cadena}
  {lista : List Cadena}

theorem MismasInterfaces.refl (k : Estado) : MismasInterfaces k k :=
  ⟨fun _ => rfl, rfl, rfl, rfl, rfl⟩

theorem MismasInterfaces.trans (h : MismasInterfaces k k₁) (h₁ : MismasInterfaces k₁ k') :
    MismasInterfaces k k' where
  cola i := (h₁.cola i).trans (h.cola i)
  interfaces := h₁.interfaces.trans h.interfaces
  semHayProceso := h₁.semHayProceso.trans h.semHayProceso
  conexiones := h₁.conexiones.trans h.conexiones
  permitidas := h₁.permitidas.trans h.permitidas

/-- A change of another queue. -/
theorem MismasInterfaces.of_update {c : List ℕ} (hcola : k'.cola = Function.update k.cola l c)
    (hl : ∀ i, l ≠ .io i) (hinterfaces : k'.interfaces = k.interfaces)
    (hsem : k'.semHayProceso = k.semHayProceso)
    (hconexiones : k'.diccionarioConexionesIo = k.diccionarioConexionesIo)
    (hpermitidas : k'.diccionarioInstruccionesPermitidasIo =
      k.diccionarioInstruccionesPermitidasIo) : MismasInterfaces k k' where
  cola i := by rw [hcola, Function.update_of_ne (hl i).symm]
  interfaces := hinterfaces
  semHayProceso := hsem
  conexiones := hconexiones
  permitidas := hpermitidas

theorem iniciar_mismasInterfaces (cfg : KernelConfiguracion) (k : Estado) (p : ℕ)
    (motivo : Cadena) : MismasInterfaces k (iniciar cfg k p motivo) := by
  unfold iniciar
  split_ifs
  · exact .of_update (l := .ready) rfl (by simp) rfl rfl rfl rfl
  · exact .of_update (l := .ready) rfl (by simp) rfl rfl rfl rfl
  · exact .of_update (l := .readyM) rfl (by simp) rfl rfl rfl rfl

theorem desencolar_mismasInterfaces {q : ℕ} (h : k.desencolar l = some (q, k'))
    (hl : ∀ i, l ≠ .io i) : MismasInterfaces k k' := by
  obtain ⟨resto, -, rfl⟩ := desencolar_eq_some h
  exact .of_update rfl hl rfl rfl rfl rfl

theorem desbloquear_mismasInterfaces (h : desbloquear cfg k l motivo = some k')
    (hl : ∀ i, l ≠ .io i) : MismasInterfaces k k' := by
  obtain ⟨q, k₁, hd, rfl⟩ := desbloquear_eq_some h
  exact (desencolar_mismasInterfaces hd hl).trans (iniciar_mismasInterfaces cfg k₁ q motivo)

theorem signal_mismasInterfaces {recurso : Cadena} {b : Bool}
    (h : signal cfg k recurso p = some (k', b)) : MismasInterfaces k k' := by
  rcases signal_cases h with ⟨-, rfl, -⟩ | ⟨i, k₁, -, -, hk₁, hquitar⟩
  · exact .refl k'
  · obtain ⟨-, rfl⟩ := quitar_eq_some hquitar
    have h₁ : MismasInterfaces k k₁ := by
      rcases hk₁ with ⟨-, hdes⟩ | ⟨-, rfl⟩
      · have hdes' := desbloquear_mismasInterfaces hdes (by simp)
        exact ⟨hdes'.cola, hdes'.interfaces, hdes'.semHayProceso, hdes'.conexiones,
          hdes'.permitidas⟩
      · exact ⟨fun _ => rfl, rfl, rfl, rfl, rfl⟩
    exact h₁.trans ⟨fun _ => rfl, rfl, rfl, rfl, rfl⟩

theorem liberarRecursos_mismasInterfaces (h : liberarRecursos cfg k p = some k') :
    MismasInterfaces k k' :=
  liberarRecursosDesde_induct (P := MismasInterfaces k)
    (fun _ _ _ _ h _ hs => h.trans (signal_mismasInterfaces hs)) (.refl k) h

theorem wait_mismasInterfaces (cfg : KernelConfiguracion) (k : Estado) (recurso : Cadena) (p : ℕ) :
    MismasInterfaces k (wait cfg k recurso p).1 := by
  rcases wait_cases cfg k recurso p with ⟨-, heq⟩ | ⟨i, k₁, -, rfl, ⟨-, heq⟩ | ⟨-, heq⟩⟩
  · rw [heq]
    exact .refl k
  · rw [heq]
    exact .of_update (l := .recurso i) rfl (by simp) rfl rfl rfl rfl
  · rw [heq]
    exact ⟨fun _ => rfl, rfl, rfl, rfl, rfl⟩

theorem exitPrima_mismasInterfaces
    (h : exitPrima cfg k p = some k') : MismasInterfaces k k' := by
  obtain ⟨k₁, hl, rfl⟩ := exitPrima_eq_some h
  exact (liberarRecursos_mismasInterfaces hl).trans
    (.of_update (l := .exit) rfl (by simp) rfl rfl rfl rfl)

/-- A request leaves the interfaces alone, but for one that an interface permits. -/
theorem atenderSolicitudCpu_interfaces (h : atenderSolicitudCpu cfg k lista p motivo = some k') :
    MismasInterfaces k k' ∨
      ∃ k₀ interfaz, MismasInterfaces k k₀ ∧
        (stringContains motivo "IO".toList = true ∧ lista[0]? = some interfaz ∧
          cumpleInterfaz k interfaz motivo = some true) ∧
        bloquearPorIo cfg k₀ lista p motivo interfaz = some k' := by
  rcases atenderSolicitudCpu_cases h with ⟨-, rfl⟩ | ⟨k₀, rfl, hcases⟩
  · exact Or.inl (iniciar_mismasInterfaces cfg k p motivo)
  have h₀ : MismasInterfaces k
      { k with reloj := k.reloj.empezar cfg k.finPorQuantum, colaExec := [p] } :=
    ⟨fun _ => rfl, rfl, rfl, rfl, rfl⟩
  rcases hcases with ⟨noCumplio, motivo', -, ht⟩ | ⟨interfaz, hpide, hb⟩ | ⟨recurso, rfl⟩ |
    ⟨recurso, hs⟩ | rfl
  · obtain ⟨k₁, he, rfl⟩ := terminar_eq_some ht
    have hdesalojar : MismasInterfaces
        { k with reloj := k.reloj.empezar cfg k.finPorQuantum, colaExec := [p] }
        (desalojarPorInstruccion cfg
          { k with reloj := k.reloj.empezar cfg k.finPorQuantum, colaExec := [p] }) :=
      ⟨fun _ => rfl, rfl, rfl, rfl, rfl⟩
    exact Or.inl (((h₀.trans hdesalojar).trans (exitPrima_mismasInterfaces he)).trans
      ⟨fun _ => rfl, rfl, rfl, rfl, rfl⟩)
  · exact Or.inr ⟨_, interfaz, h₀, hpide, hb⟩
  · exact Or.inl (h₀.trans (wait_mismasInterfaces cfg _ recurso p))
  · exact Or.inl (h₀.trans (signal_mismasInterfaces hs))
  · exact Or.inl h₀

theorem sacarDe_mismasInterfaces (h : k.sacarDe l p = some k') (hl : ∀ i, l ≠ .io i) :
    MismasInterfaces k k' := by
  obtain ⟨resto, -, rfl⟩ := Option.map_eq_some_iff.1 h
  exact .of_update rfl hl rfl rfl rfl rfl

/-- The branch of `encontrar_pcb` for an interface waits for a permit, and there are none. -/
theorem encontrarPcb_mismasInterfaces (hsem : ∀ i, k.semHayProceso i = 0)
    (h : encontrarPcb cfg k p = some k') : MismasInterfaces k k' := by
  have hadmitido : MismasInterfaces k
      { k with semMultiprogramacion := k.semMultiprogramacion + 1 } :=
    ⟨fun _ => rfl, rfl, rfl, rfl, rfl⟩
  rcases encontrarPcb_cases h with ⟨-, hs⟩ | ⟨-, hs⟩ | ⟨-, hs⟩ | ⟨-, resto, -, rfl⟩ |
    ⟨i, hpermiso, -⟩ | ⟨e, i, k₁, -, -, -, -, -, -, hs, hq⟩
  · exact sacarDe_mismasInterfaces hs (by simp)
  · exact hadmitido.trans (sacarDe_mismasInterfaces hs (by simp))
  · exact hadmitido.trans (sacarDe_mismasInterfaces hs (by simp))
  · exact ⟨fun _ => rfl, rfl, rfl, rfl, rfl⟩
  · exact absurd (hsem i) hpermiso
  · obtain ⟨-, rfl⟩ := quitar_eq_some hq
    exact (sacarDe_mismasInterfaces hs (by simp)).trans ⟨fun _ => rfl, rfl, rfl, rfl, rfl⟩

theorem terminarReplanificacion_mismasInterfaces (h : terminarReplanificacion k l = some k') :
    MismasInterfaces k k' := by
  obtain ⟨m, q, k₁, _, _, _, _, hm, hd, rfl⟩ := terminarReplanificacion_desencola h
  obtain ⟨resto, -, rfl⟩ := desencolar_eq_some hd
  refine .of_update (l := m) rfl (fun i => ?_) rfl rfl rfl rfl
  rcases hm with rfl | rfl <;> simp

theorem finalizarProceso_mismasInterfaces (hsem : ∀ i, k.semHayProceso i = 0)
    (h : finalizarProceso cfg k p = some k') : MismasInterfaces k k' := by
  obtain ⟨k₁, mensajes, he, hexit⟩ := finalizarProceso_eq_some h
  have h₁ : MismasInterfaces k { k₁ with enviados := mensajes } :=
    (encontrarPcb_mismasInterfaces hsem he).trans ⟨fun _ => rfl, rfl, rfl, rfl, rfl⟩
  exact h₁.trans (exitPrima_mismasInterfaces hexit)

theorem administrarProcesosNew_mismasInterfaces (h : administrarProcesosNew k = some k') :
    MismasInterfaces k k' := by
  obtain ⟨q, k₁, pendientes, primero, -, -, hd, -, rfl⟩ := administrarProcesosNew_eq_some h
  exact (desencolar_mismasInterfaces hd (by simp)).trans
    (.of_update (l := .ready) rfl (by simp) rfl rfl rfl rfl)

theorem replanificar_mismasInterfaces (h : replanificar cfg k motivo = some k') :
    MismasInterfaces k k' := by
  obtain ⟨quantum, l, ht⟩ := replanificar_eq_some h
  have h₀ : MismasInterfaces k { k with
      semPlanificacion := k.semPlanificacion - 1
      semReplanificacionQuantum := quantum } := ⟨fun _ => rfl, rfl, rfl, rfl, rfl⟩
  exact h₀.trans (terminarReplanificacion_mismasInterfaces ht)

/-! ### The pieces of a request -/

/-- The instructions of the interfaces. -/
def instruccionesIo : List Cadena :=
  ["IO_GEN_SLEEP".toList, "IO_STDOUT_WRITE".toList, "IO_STDIN_READ".toList, "IO_FS_CREATE".toList,
    "IO_FS_DELETE".toList, "IO_FS_TRUNCATE".toList, "IO_FS_WRITE".toList, "IO_FS_READ".toList]

/-- The packet is a request that its interface permits. -/
def pideIo (k : Estado) (motivo : Cadena) (lista : List Cadena) : Bool :=
  stringContains motivo "IO".toList &&
    (lista[0]?).any fun interfaz => cumpleInterfaz k interfaz motivo == some true

/-- A request from `bloquear_i` on, and whether it has been sent. -/
structure AtencionIo where
  pid : ℕ
  motivo : Cadena
  interfaz : Cadena
  lista : List Cadena
  enviado : Bool

variable (cfg) in
/-- `atender_solicitud_cpu` up to the end of `bloquear_i`. -/
def empezarIo (k : Estado) (motivo : Cadena) (lista : List Cadena) (pid : ℕ) :
    Option (Estado × AtencionIo) :=
  (lista[0]?).bind fun interfaz =>
    (encontrarCola k.interfaces interfaz).map fun i =>
      let k := { k with
        motivo := motivo
        reloj := k.reloj.empezar cfg k.finPorQuantum
        colaExec := [pid] }
      (bloquearI (desalojarPorInstruccion cfg k) i pid, ⟨pid, motivo, interfaz, lista, false⟩)

/-- `io_gen_sleep` and its kin, once planning is not stopped: the packet and its connection. -/
def enviarPedido (k : Estado) (a : AtencionIo) : Option (Estado × ℤ) :=
  if k.semPlanificacion = 0 then none
  else
    (argumentosIo a.lista a.motivo).bind fun argumentos =>
      (get k.diccionarioConexionesIo a.interfaz).map fun conexion =>
        ({ k with
          enviados := k.enviados ++
            (argumentos.toList.map fun args =>
              Envio.interfaz conexion a.pid a.motivo args) }, conexion)

/-- The rest of the branch: the state of the process names the interface. -/
def terminarIo (k : Estado) (a : AtencionIo) : Estado :=
  pedidoDeDesalojo (k.cambiarEstado a.pid (.blockIo a.interfaz)) a.motivo a.pid

/-- **One after another, the pieces are `recibirPaqueteCpu`.** -/
theorem recibirPaqueteCpu_por_partes (hp : k.colaExec.head? = some p)
    (hpide : pideIo k motivo lista = true) :
    recibirPaqueteCpu cfg k p motivo lista =
      (empezarIo cfg k motivo lista p).bind fun (k, a) =>
        (enviarPedido k a).map fun (k, _) => terminarIo k a := by
  rw [pideIo, Bool.and_eq_true, Option.any_eq_true] at hpide
  obtain ⟨hio, interfaz, hlista, hcumple⟩ := hpide
  rw [beq_iff_eq] at hcumple
  have hquantum : stringEqualsIgnoreCase motivo "QUANTUM".toList = false := by
    cases heq : stringEqualsIgnoreCase motivo "QUANTUM".toList with
    | false => rfl
    | true => rw [not_stringContains_of_equals heq (by decide)] at hio; cases hio
  have hcumple' : cumpleInterfaz { k with
      motivo := motivo
      reloj := k.reloj.empezar cfg k.finPorQuantum
      colaExec := [p] } interfaz motivo = some true := hcumple
  unfold recibirPaqueteCpu atenderSolicitudCpu atenderInstruccion empezarIo bloquearPorIo
  simp only [hp, if_true, hquantum, Bool.false_eq_true, if_false, hio, hlista, Option.bind_some,
    hcumple']
  cases hi : encontrarCola k.interfaces interfaz with
  | none => rfl
  | some i =>
    simp only [Option.bind_some, Option.map_some, enviarPedido]
    have hplan : (bloquearI (desalojarPorInstruccion cfg { k with
        motivo := motivo
        reloj := k.reloj.empezar cfg k.finPorQuantum
        colaExec := [p] }) i p).semPlanificacion = k.semPlanificacion := rfl
    rw [hplan]
    by_cases hcero : k.semPlanificacion = 0
    · rw [if_pos hcero, if_pos hcero]
      rfl
    · rw [if_neg hcero, if_neg hcero]
      cases argumentosIo lista motivo with
      | none => rfl
      | some argumentos =>
        have hdict : (bloquearI (desalojarPorInstruccion cfg { k with
            motivo := motivo
            reloj := k.reloj.empezar cfg k.finPorQuantum
            colaExec := [p] }) i p).diccionarioConexionesIo = k.diccionarioConexionesIo := rfl
        simp only [Option.bind_some, hdict]
        cases get k.diccionarioConexionesIo interfaz with
        | none => rfl
        | some conexion =>
          simp only [Option.map_some, Option.bind_some, motivoDeExit_of_io hio]
          rfl

/-! ### The kernel and its connections -/

/-- The kernel, the request that its thread of the CPU's answers is attending, and the connections of
the interfaces. -/
structure EstadoIo where
  kernel : Estado
  atendiendo : Option AtencionIo
  /-- The threads of `atender_interfaz`: the name of the interface of each connection. -/
  hilos : ℤ → Option Cadena
  /-- The processes in the packets that the interface has not answered. -/
  pedidos : ℤ → List ℕ
  /-- The messages of the interface that its thread has not read. -/
  respuestas : ℤ → List Cadena
  /-- The processes in all the packets sent so far. -/
  enviados : ℤ → List ℕ
  /-- The processes taken out of the queue so far, for each message one. -/
  despertados : ℤ → List ℕ

variable (cfg) in
/-- Before any interface connects. -/
def EstadoIo.inicial : EstadoIo where
  kernel := Estado.inicial cfg
  atendiendo := none
  hilos := fun _ => none
  pedidos := fun _ => []
  respuestas := fun _ => []
  enviados := fun _ => []
  despertados := fun _ => []

/-- A step of one of the parties. -/
inductive EventoIo
  /-- Any other step of the kernel. -/
  | kernel (ev : Evento)
  /-- A packet of the CPU with a request, up to `bloquear_i`; the request is sent; the rest. -/
  | pedir (motivo : Cadena) (lista : List Cadena)
  | enviar
  | terminar
  /-- The interface answers the first request that it has not answered. -/
  | responder (conexion : ℤ) (mensaje : Cadena)
  /-- The thread of a connection reads a message. -/
  | finDeIo (conexion : ℤ)
  /-- An interface connects. -/
  | conectar (idInterfaz instruccionesPermitidas : Cadena) (conexion : ℤ)

/-- The steps of the kernel that are not those of the interfaces.  While the thread of the CPU's
answers attends a request it takes no other step. -/
def EstadoIo.otroPaso (s : EstadoIo) : Evento → Bool
  | .paquete motivo lista => s.atendiendo.isNone && !pideIo s.kernel motivo lista
  | .finInstruccion => s.atendiendo.isNone
  | .conectarInterfaz _ _ _ => false
  | .finDeIo _ _ => false
  | _ => true

/-- The head of the queue of an interface. -/
def primeroDe (k : Estado) (idInterfaz : Cadena) : Option ℕ :=
  (encontrarCola k.interfaces idInterfaz).bind fun i => (k.cola (.io i)).head?

variable (cfg) in
/-- One step. -/
def pasoIo (s : EstadoIo) : EventoIo → Option EstadoIo
  | .kernel ev =>
    if s.otroPaso ev then (paso cfg s.kernel ev).map fun k => { s with kernel := k } else none
  | .pedir motivo lista =>
    if s.atendiendo.isNone ∧ pideIo s.kernel motivo lista ∧
        instruccionesIo.any (stringEqualsIgnoreCase motivo) then
      s.kernel.enEjecucion.bind fun pid =>
        (empezarIo cfg s.kernel motivo lista pid).map fun (k, a) =>
          { s with kernel := k, atendiendo := some a }
    else none
  | .enviar =>
    s.atendiendo.bind fun a =>
      if a.enviado then none
      else
        (enviarPedido s.kernel a).map fun (k, c) =>
          { s with
            kernel := k
            atendiendo := some { a with enviado := true }
            pedidos := Function.update s.pedidos c (s.pedidos c ++ [a.pid])
            enviados := Function.update s.enviados c (s.enviados c ++ [a.pid]) }
  | .terminar =>
    s.atendiendo.bind fun a =>
      if a.enviado then some { s with kernel := terminarIo s.kernel a, atendiendo := none }
      else none
  | .responder c mensaje =>
    match s.pedidos c with
    | [] => none
    | _ :: resto =>
      if mensajesDeFin.any (stringEqualsIgnoreCase mensaje) then
        some { s with
          pedidos := Function.update s.pedidos c resto
          respuestas := Function.update s.respuestas c (s.respuestas c ++ [mensaje]) }
      else none
  | .finDeIo c =>
    match s.respuestas c with
    | [] => none
    | mensaje :: resto =>
      (s.hilos c).bind fun idInterfaz =>
        (finDeIo cfg s.kernel idInterfaz mensaje).map fun k =>
          { s with
            kernel := k
            respuestas := Function.update s.respuestas c resto
            despertados := Function.update s.despertados c
              (s.despertados c ++ (primeroDe s.kernel idInterfaz).toList) }
  | .conectar idInterfaz instruccionesPermitidas c =>
    if (s.hilos c).isSome then none
    else
      some { s with
        kernel := conectarInterfaz s.kernel idInterfaz instruccionesPermitidas c
        hilos := Function.update s.hilos c (some idInterfaz) }

/-- The steps of the kernel that are not those of the interfaces leave the interfaces alone. -/
theorem paso_mismasInterfaces {s : EstadoIo} {ev : Evento}
    (hsem : ∀ i, s.kernel.semHayProceso i = 0) (hotro : s.otroPaso ev = true)
    (h : paso cfg s.kernel ev = some k') : MismasInterfaces s.kernel k' := by
  cases ev with
  | iniciarProceso path =>
    cases h
    exact .of_update (l := .new) rfl (by simp) rfl rfl rfl rfl
  | finalizarProceso pid => exact finalizarProceso_mismasInterfaces hsem h
  | iniciarPlanificacion =>
    cases h
    exact ⟨fun _ => rfl, rfl, rfl, rfl, rfl⟩
  | detenerPlanificacion =>
    obtain ⟨-, rfl⟩ := detenerPlanificacion_eq_some h
    exact ⟨fun _ => rfl, rfl, rfl, rfl, rfl⟩
  | administrarProcesosNew => exact administrarProcesosNew_mismasInterfaces h
  | replanificar motivo =>
    have hllamada : MismasInterfaces s.kernel { s.kernel with
        porReplanificar := s.kernel.porReplanificar.erase motivo } :=
      ⟨fun _ => rfl, rfl, rfl, rfl, rfl⟩
    exact hllamada.trans (replanificar_mismasInterfaces (paso_replanificar_eq_some h).2)
  | enviarACpu =>
    obtain ⟨-, rfl⟩ := enviarACpu_eq_some h
    exact ⟨fun _ => rfl, rfl, rfl, rfl, rfl⟩
  | paquete motivo lista =>
    obtain ⟨pid, -, hr⟩ := paquete_eq_some h
    have h₀ : MismasInterfaces s.kernel { s.kernel with motivo := motivo } :=
      ⟨fun _ => rfl, rfl, rfl, rfl, rfl⟩
    rcases atenderSolicitudCpu_interfaces hr with hk | ⟨k₀, interfaz, -, hcumple, -⟩
    · exact h₀.trans hk
    · obtain ⟨hio, hlista, hcumple⟩ := hcumple
      have hpide : pideIo s.kernel motivo lista = true := by
        rw [pideIo, hio, hlista]
        exact beq_iff_eq.2 hcumple
      simp [EstadoIo.otroPaso, hpide] at hotro
  | finInstruccion =>
    cases h
    unfold recibirMensajeCpu
    split_ifs <;> exact ⟨fun _ => rfl, rfl, rfl, rfl, rfl⟩
  | quantum finPorQuantum =>
    cases h
    exact ⟨fun _ => rfl, rfl, rfl, rfl, rfl⟩
  | conectarInterfaz idInterfaz permitidas conexion => cases hotro
  | finDeIo idInterfaz mensaje => cases hotro

/-- The names of the interfaces differ, ignoring case. -/
def NombresDistintos (s : EstadoIo) : EventoIo → Prop
  | .conectar idInterfaz _ _ =>
    ∀ otra ∈ s.kernel.interfaces, stringEqualsIgnoreCase otra idInterfaz = false
  | _ => True

/-- The request that is queued and not sent yet, if it is for this queue. -/
def EstadoIo.porEnviar (s : EstadoIo) (i : ℕ) : List ℕ :=
  match s.atendiendo with
  | some a => if a.enviado = false ∧ encontrarCola s.kernel.interfaces a.interfaz = some i then
      [a.pid] else []
  | none => []

/-- Each queue holds the requests of its interface that have not been answered and read. -/
structure Emparejados (s : EstadoIo) : Prop where
  distintos : s.kernel.interfaces.Pairwise fun a b => stringEqualsIgnoreCase a b = false
  semHayProceso : ∀ i, s.kernel.semHayProceso i = 0
  hilos : ∀ c idInterfaz, s.hilos c = some idInterfaz → idInterfaz ∈ s.kernel.interfaces
  conexiones : ∀ idInterfaz c,
    get s.kernel.diccionarioConexionesIo idInterfaz = some c ↔ s.hilos c = some idInterfaz
  permitidas : ∀ idInterfaz, (get s.kernel.diccionarioInstruccionesPermitidasIo idInterfaz).isSome →
    ∃ c, s.hilos c = some idInterfaz
  atendiendo : ∀ a, s.atendiendo = some a → ∃ c, s.hilos c = some a.interfaz
  mensajes : ∀ c, ∀ mensaje ∈ s.respuestas c,
    mensajesDeFin.any (stringEqualsIgnoreCase mensaje) = true
  desconectadas : ∀ c, s.hilos c = none →
    s.pedidos c = [] ∧ s.respuestas c = [] ∧ s.enviados c = [] ∧ s.despertados c = []
  colas : ∀ c idInterfaz i, s.hilos c = some idInterfaz →
    encontrarCola s.kernel.interfaces idInterfaz = some i →
      Matched (s.kernel.cola (.io i)) (s.porEnviar i) (s.enviados c) (s.despertados c)
        (s.pedidos c).length (s.respuestas c).length

/-! ### Names and connections -/

/-- Among names that differ but for case, a name finds its own queue. -/
theorem encontrarCola_getElem {interfaces : List Cadena} {interfaz : Cadena} {i : ℕ}
    (hdistintos : interfaces.Pairwise fun a b => stringEqualsIgnoreCase a b = false)
    (hmem : interfaz ∈ interfaces) (hi : encontrarCola interfaces interfaz = some i) :
    interfaces[i]? = some interfaz := by
  obtain ⟨j, hj, rfl⟩ := List.getElem_of_mem hmem
  obtain ⟨hlt, heq, hprimero⟩ := List.findIdx?_eq_some_iff_getElem.1 hi
  rcases lt_trichotomy i j with hij | rfl | hij
  · rw [List.pairwise_iff_getElem.1 hdistintos i j hlt hj hij] at heq
    cases heq
  · exact List.getElem?_eq_getElem hlt
  · exact absurd (stringEqualsIgnoreCase_self _) (hprimero j hij)

theorem encontrarCola_of_mem {interfaces : List Cadena} {interfaz : Cadena}
    (hmem : interfaz ∈ interfaces) : ∃ i, encontrarCola interfaces interfaz = some i := by
  have hsome : (encontrarCola interfaces interfaz).isSome = true := by
    rw [encontrarCola, List.findIdx?_isSome]
    exact List.any_eq_true.2 ⟨interfaz, hmem, stringEqualsIgnoreCase_self interfaz⟩
  exact Option.isSome_iff_exists.1 hsome

/-- A new name finds the new queue. -/
theorem encontrarCola_nueva {interfaces : List Cadena} {interfaz : Cadena}
    (hnueva : ∀ otra ∈ interfaces, stringEqualsIgnoreCase otra interfaz = false) :
    encontrarCola (interfaces ++ [interfaz]) interfaz = some interfaces.length := by
  have hnone : encontrarCola interfaces interfaz = none :=
    List.findIdx?_eq_none_iff.2 hnueva
  unfold encontrarCola at hnone ⊢
  rw [List.findIdx?_append, hnone]
  simp

variable {s s' : EstadoIo} {c c' : ℤ} {i : ℕ} {a : AtencionIo} {idInterfaz idInterfaz' : Cadena}

/-- A connection with a thread is not one without. -/
theorem ne_of_hilos {d : ℤ} (hc : s.hilos c = none) (hd : s.hilos d = some idInterfaz) : d ≠ c := by
  rintro rfl
  rw [hc] at hd
  cases hd

/-- Two connections do not share a queue. -/
theorem Emparejados.misma_conexion (h : Emparejados s) (hc : s.hilos c = some idInterfaz)
    (hc' : s.hilos c' = some idInterfaz')
    (hi : encontrarCola s.kernel.interfaces idInterfaz = some i)
    (hi' : encontrarCola s.kernel.interfaces idInterfaz' = some i) : c' = c := by
  have hget := encontrarCola_getElem h.distintos (h.hilos c idInterfaz hc) hi
  have hget' := encontrarCola_getElem h.distintos (h.hilos c' idInterfaz' hc') hi'
  obtain rfl : idInterfaz = idInterfaz' := Option.some.inj (hget.symm.trans hget')
  have hdic := (h.conexiones idInterfaz c).2 hc
  have hdic' := (h.conexiones idInterfaz c').2 hc'
  exact Option.some.inj (hdic'.symm.trans hdic)

/-! ### Each step -/

theorem emparejados_inicial (cfg : KernelConfiguracion) : Emparejados (EstadoIo.inicial cfg) where
  distintos := List.Pairwise.nil
  semHayProceso _ := rfl
  hilos _ _ h := by cases h
  conexiones _ _ := by simp [EstadoIo.inicial, Estado.inicial]
  permitidas _ h := by cases h
  atendiendo _ h := by cases h
  mensajes _ _ h := by cases h
  desconectadas _ _ := ⟨rfl, rfl, rfl, rfl⟩
  colas _ _ _ h := by cases h

theorem EstadoIo.porEnviar_nil (h : ∀ a, s.atendiendo = some a → a.enviado = true) (i : ℕ) :
    s.porEnviar i = [] := by
  unfold EstadoIo.porEnviar
  cases ha : s.atendiendo with
  | none => rfl
  | some a => simp [h a ha]

theorem EstadoIo.porEnviar_eq (ha : s.atendiendo = some a) (henviado : a.enviado = false) (i : ℕ) :
    s.porEnviar i =
      if encontrarCola s.kernel.interfaces a.interfaz = some i then [a.pid] else [] := by
  simp [EstadoIo.porEnviar, ha, henviado]

/-- A step of the rest of the kernel. -/
theorem Emparejados.kernel (h : Emparejados s) (hk : MismasInterfaces s.kernel k') :
    Emparejados { s with kernel := k' } where
  distintos := by rw [hk.interfaces]; exact h.distintos
  semHayProceso := by rw [hk.semHayProceso]; exact h.semHayProceso
  hilos := by rw [hk.interfaces]; exact h.hilos
  conexiones := by rw [hk.conexiones]; exact h.conexiones
  permitidas := by rw [hk.permitidas]; exact h.permitidas
  atendiendo := h.atendiendo
  mensajes := h.mensajes
  desconectadas := h.desconectadas
  colas c idInterfaz i hc hi := by
    have hpor : EstadoIo.porEnviar { s with kernel := k' } i = s.porEnviar i := by
      simp only [EstadoIo.porEnviar, hk.interfaces]
    rw [hk.cola i, hpor]
    exact h.colas c idInterfaz i hc (by rw [← hk.interfaces]; exact hi)

/-- What a request leaves up to `bloquear_i`. -/
theorem empezarIo_eq_some {pid : ℕ} (h : empezarIo cfg k motivo lista pid = some (k', a)) :
    ∃ interfaz i, lista[0]? = some interfaz ∧ encontrarCola k.interfaces interfaz = some i ∧
      a = ⟨pid, motivo, interfaz, lista, false⟩ ∧
      k'.cola = Function.update k.cola (.io i) (k.cola (.io i) ++ [pid]) ∧
      k'.interfaces = k.interfaces ∧ k'.semHayProceso = k.semHayProceso ∧
      k'.diccionarioConexionesIo = k.diccionarioConexionesIo ∧
      k'.diccionarioInstruccionesPermitidasIo = k.diccionarioInstruccionesPermitidasIo := by
  obtain ⟨interfaz, hlista, h⟩ := Option.bind_eq_some_iff.1 h
  obtain ⟨i, hi, heq⟩ := Option.map_eq_some_iff.1 h
  cases heq
  exact ⟨interfaz, i, hlista, hi, rfl, rfl, rfl, rfl, rfl, rfl⟩

/-- A permitted request names an interface that is connected. -/
theorem Emparejados.hilo_of_pideIo {interfaz : Cadena} (h : Emparejados s)
    (hpide : pideIo s.kernel motivo lista = true) (hlista : lista[0]? = some interfaz) :
    ∃ c, s.hilos c = some interfaz := by
  rw [pideIo, hlista, Bool.and_eq_true, Option.any_some, beq_iff_eq] at hpide
  have hcumple := hpide.2
  unfold cumpleInterfaz at hcumple
  split_ifs at hcumple
  · obtain ⟨permitidas, hperm, -⟩ := Option.map_eq_some_iff.1 hcumple
    exact h.permitidas interfaz (by rw [hperm]; rfl)
  · cases hcumple

theorem Emparejados.pedir {pid : ℕ} (h : Emparejados s) (hnone : s.atendiendo = none)
    (hpide : pideIo s.kernel motivo lista = true)
    (hk : empezarIo cfg s.kernel motivo lista pid = some (k', a)) :
    Emparejados { s with kernel := k', atendiendo := some a } := by
  obtain ⟨interfaz, i, hlista, hi, rfl, hcola, hint, hsem, hcon, hperm⟩ := empezarIo_eq_some hk
  refine ⟨by rw [hint]; exact h.distintos, by rw [hsem]; exact h.semHayProceso,
    by rw [hint]; exact h.hilos, by rw [hcon]; exact h.conexiones,
    by rw [hperm]; exact h.permitidas, ?_, h.mensajes, h.desconectadas, ?_⟩
  · intro a ha
    cases ha
    exact h.hilo_of_pideIo hpide hlista
  · intro c idInterfaz j hc hj
    have hj' : encontrarCola s.kernel.interfaces idInterfaz = some j := by rw [← hint]; exact hj
    have hantes := h.colas c idInterfaz j hc hj'
    rw [EstadoIo.porEnviar_nil (by simp [hnone])] at hantes
    rw [EstadoIo.porEnviar_eq rfl rfl]
    show Matched (k'.cola (.io j))
      (if encontrarCola k'.interfaces interfaz = some j then [pid] else []) _ _ _ _
    rw [hcola, hint, hi]
    by_cases hij : i = j
    · subst hij
      rw [if_pos rfl, Function.update_self]
      exact hantes.push pid
    · rw [if_neg (by simpa using hij), Function.update_of_ne (by simpa using Ne.symm hij)]
      exact hantes

/-- What is sent, and on which connection. -/
theorem enviarPedido_eq_some (h : enviarPedido k a = some (k', c)) :
    ∃ mensajes, get k.diccionarioConexionesIo a.interfaz = some c ∧
      k' = { k with enviados := mensajes } := by
  unfold enviarPedido at h
  split_ifs at h
  obtain ⟨argumentos, -, h⟩ := Option.bind_eq_some_iff.1 h
  obtain ⟨conexion, hcon, heq⟩ := Option.map_eq_some_iff.1 h
  cases heq
  exact ⟨_, hcon, rfl⟩

theorem Emparejados.enviar (h : Emparejados s) (ha : s.atendiendo = some a)
    (henviado : a.enviado = false) (hk : enviarPedido s.kernel a = some (k', c)) :
    Emparejados { s with
      kernel := k'
      atendiendo := some { a with enviado := true }
      pedidos := Function.update s.pedidos c (s.pedidos c ++ [a.pid])
      enviados := Function.update s.enviados c (s.enviados c ++ [a.pid]) } := by
  obtain ⟨mensajes, hcon, rfl⟩ := enviarPedido_eq_some hk
  have hc : s.hilos c = some a.interfaz := (h.conexiones a.interfaz c).1 hcon
  refine ⟨h.distintos, h.semHayProceso, h.hilos, h.conexiones, h.permitidas, ?_, h.mensajes, ?_, ?_⟩
  · intro b hb
    cases hb
    exact ⟨c, hc⟩
  · intro d hd
    have hdc : d ≠ c := (ne_of_hilos hd hc).symm
    obtain ⟨hpedidos, hrespuestas, henviados, hdespertados⟩ := h.desconectadas d hd
    exact ⟨by simpa [hdc] using hpedidos, hrespuestas, by simpa [hdc] using henviados, hdespertados⟩
  · intro d idInterfaz i hd hi
    have hantes := h.colas d idInterfaz i hd hi
    rw [EstadoIo.porEnviar_eq ha henviado] at hantes
    rw [EstadoIo.porEnviar_nil (by rintro _ ⟨rfl⟩; rfl)]
    show Matched (s.kernel.cola (.io i)) [] (Function.update s.enviados c _ d) (s.despertados d)
      (Function.update s.pedidos c _ d).length (s.respuestas d).length
    by_cases hdc : d = c
    · subst hdc
      rw [hc] at hd
      cases hd
      rw [if_pos hi] at hantes
      rw [Function.update_self, Function.update_self, List.length_append, List.length_singleton]
      exact hantes.send
    · have hne : encontrarCola s.kernel.interfaces a.interfaz ≠ some i :=
        fun hi' => hdc (h.misma_conexion hc hd hi' hi)
      rw [if_neg hne] at hantes
      rw [Function.update_of_ne hdc, Function.update_of_ne hdc]
      exact hantes

theorem Emparejados.terminar (h : Emparejados s) (ha : s.atendiendo = some a)
    (henviado : a.enviado = true) :
    Emparejados { s with kernel := terminarIo s.kernel a, atendiendo := none } := by
  refine ⟨h.distintos, h.semHayProceso, h.hilos, h.conexiones, h.permitidas, by rintro b ⟨⟩,
    h.mensajes, h.desconectadas, fun c idInterfaz i hc hi => ?_⟩
  have hantes := h.colas c idInterfaz i hc hi
  rw [EstadoIo.porEnviar_nil (by rw [ha]; rintro _ ⟨rfl⟩; exact henviado)] at hantes
  exact hantes

/-- A connection that carries something is one of an interface. -/
theorem Emparejados.hilo_of_pedidos (h : Emparejados s) (hp : s.pedidos c ≠ []) :
    ∃ idInterfaz, s.hilos c = some idInterfaz := by
  cases hc : s.hilos c with
  | none => exact absurd (h.desconectadas c hc).1 hp
  | some idInterfaz => exact ⟨idInterfaz, rfl⟩

theorem Emparejados.responder {mensaje : Cadena} {resto : List ℕ} (h : Emparejados s)
    (hp : s.pedidos c = p :: resto)
    (hmensaje : mensajesDeFin.any (stringEqualsIgnoreCase mensaje) = true) :
    Emparejados { s with
      pedidos := Function.update s.pedidos c resto
      respuestas := Function.update s.respuestas c (s.respuestas c ++ [mensaje]) } := by
  obtain ⟨id, hc⟩ := h.hilo_of_pedidos (c := c) (by simp [hp])
  refine ⟨h.distintos, h.semHayProceso, h.hilos, h.conexiones, h.permitidas, h.atendiendo,
    fun d m hm => ?_, fun d hd => ?_, fun d idInterfaz i hd hi => ?_⟩
  · by_cases hdc : d = c
    · subst hdc
      have hm' : m ∈ s.respuestas d ∨ m = mensaje := by simpa using hm
      rcases hm' with hm' | rfl
      · exact h.mensajes d m hm'
      · exact hmensaje
    · exact h.mensajes d m (by simpa [hdc] using hm)
  · have hdc : d ≠ c := (ne_of_hilos hd hc).symm
    simpa [hdc] using h.desconectadas d hd
  · have hantes := h.colas d idInterfaz i hd hi
    show Matched (s.kernel.cola (.io i)) (s.porEnviar i) (s.enviados d) (s.despertados d)
      (Function.update s.pedidos c resto d).length (Function.update s.respuestas c _ d).length
    by_cases hdc : d = c
    · subst hdc
      rw [hp, List.length_cons] at hantes
      rw [Function.update_self, Function.update_self, List.length_append, List.length_singleton]
      exact hantes.answer
    · rw [Function.update_of_ne hdc, Function.update_of_ne hdc]
      exact hantes

/-- What the end of an operation does: the head of the queue becomes ready. -/
theorem finDeIo_eq_some {mensaje : Cadena}
    (hfin : mensajesDeFin.any (stringEqualsIgnoreCase mensaje) = true)
    (h : finDeIo cfg k idInterfaz mensaje = some k') :
    ∃ i q resto fin, encontrarCola k.interfaces idInterfaz = some i ∧
      k.cola (.io i) = q :: resto ∧
      k' = iniciar cfg { k with cola := Function.update k.cola (.io i) resto } q fin := by
  unfold finDeIo at h
  split at h
  · rename_i hnone
    rw [List.find?_eq_none] at hnone
    obtain ⟨fin, hmem, heq⟩ := List.any_eq_true.1 hfin
    exact absurd heq (hnone fin hmem)
  · rename_i fin _
    obtain ⟨i, hi, hdes⟩ := Option.bind_eq_some_iff.1 h
    obtain ⟨q, k₁, hd, rfl⟩ := desbloquear_eq_some hdes
    obtain ⟨resto, hcola, rfl⟩ := desencolar_eq_some hd
    exact ⟨i, q, resto, fin, hi, hcola, rfl⟩

/-- The end of an operation finds a process in the queue. -/
theorem finDeIo_completa {mensaje : Cadena} {resto : List ℕ}
    (hfin : mensajesDeFin.any (stringEqualsIgnoreCase mensaje) = true)
    (hi : encontrarCola k.interfaces idInterfaz = some i) (hcola : k.cola (.io i) = p :: resto) :
    ∃ fin ∈ mensajesDeFin, stringEqualsIgnoreCase mensaje fin = true ∧
      finDeIo cfg k idInterfaz mensaje =
        some (iniciar cfg { k with cola := Function.update k.cola (.io i) resto } p fin) := by
  obtain ⟨fin, hfind⟩ := Option.isSome_iff_exists.1
    (List.find?_isSome.2 (List.any_eq_true.1 hfin))
  refine ⟨fin, List.mem_of_find?_eq_some hfind, List.find?_some hfind, ?_⟩
  simp only [finDeIo, hfind, hi, Option.bind_some, desbloquear, Estado.desencolar, hcola,
    Option.map_some]

theorem Emparejados.finDeIo {mensaje : Cadena} {resto : List Cadena} (h : Emparejados s)
    (hrespuestas : s.respuestas c = mensaje :: resto) (hc : s.hilos c = some idInterfaz)
    (hk : finDeIo cfg s.kernel idInterfaz mensaje = some k') :
    Emparejados { s with
      kernel := k'
      respuestas := Function.update s.respuestas c resto
      despertados := Function.update s.despertados c
        (s.despertados c ++ (primeroDe s.kernel idInterfaz).toList) } := by
  have hfin := h.mensajes c mensaje (by simp [hrespuestas])
  obtain ⟨i, q, cola, fin, hi, hcola, rfl⟩ := finDeIo_eq_some hfin hk
  have hprimero : primeroDe s.kernel idInterfaz = some q := by
    simp [primeroDe, hi, hcola]
  have hk₁ := iniciar_mismasInterfaces cfg
    { s.kernel with cola := Function.update s.kernel.cola (.io i) cola } q fin
  have hint := hk₁.interfaces
  refine ⟨by rw [hint]; exact h.distintos, by rw [hk₁.semHayProceso]; exact h.semHayProceso,
    by rw [hint]; exact h.hilos, by rw [hk₁.conexiones]; exact h.conexiones,
    by rw [hk₁.permitidas]; exact h.permitidas, h.atendiendo, fun d m hm => ?_, fun d hd => ?_,
    fun d otra j hd hj => ?_⟩
  · by_cases hdc : d = c
    · subst hdc
      refine h.mensajes d m ?_
      rw [hrespuestas]
      exact List.mem_cons_of_mem mensaje (by simpa using hm)
    · exact h.mensajes d m (by simpa [hdc] using hm)
  · have hdc : d ≠ c := (ne_of_hilos hd hc).symm
    simpa [hdc] using h.desconectadas d hd
  · have hj' : encontrarCola s.kernel.interfaces otra = some j := by rw [hint] at hj; exact hj
    have hantes := h.colas d otra j hd hj'
    have hpor : EstadoIo.porEnviar { s with
        kernel := iniciar cfg { s.kernel with cola := Function.update s.kernel.cola (.io i) cola } q
          fin
        respuestas := Function.update s.respuestas c resto
        despertados := Function.update s.despertados c
          (s.despertados c ++ (primeroDe s.kernel idInterfaz).toList) } j = s.porEnviar j := by
      simp only [EstadoIo.porEnviar, hint]
    rw [hpor, hk₁.cola j, hprimero]
    show Matched (Function.update s.kernel.cola (.io i) cola (.io j)) (s.porEnviar j) (s.enviados d)
      (Function.update s.despertados c (s.despertados c ++ [q]) d) (s.pedidos d).length
      (Function.update s.respuestas c resto d).length
    by_cases hdc : d = c
    · subst hdc
      rw [hc] at hd
      cases hd
      obtain rfl : i = j := Option.some.inj (hi.symm.trans hj')
      rw [hrespuestas, List.length_cons] at hantes
      obtain ⟨q', cola', heq, -, hdespues⟩ := hantes.pop
      rw [hcola] at heq
      cases heq
      rw [Function.update_self, Function.update_self, Function.update_self]
      exact hdespues
    · have hij : i ≠ j := by
        rintro rfl
        exact hdc (h.misma_conexion hc hd hi hj')
      rw [Function.update_of_ne hdc, Function.update_of_ne hdc,
        Function.update_of_ne (by simpa using hij.symm)]
      exact hantes

/-- What the connection of an interface without instructions so far changes. -/
theorem conectarInterfaz_nueva {permitidas : Cadena}
    (hperm : (get k.diccionarioInstruccionesPermitidasIo idInterfaz).isSome = false) :
    conectarInterfaz k idInterfaz permitidas c = { k with
      interfaces := k.interfaces ++ [idInterfaz]
      cola := Function.update k.cola (.io k.interfaces.length) []
      semHayProceso := Function.update k.semHayProceso k.interfaces.length 0
      diccionarioConexionesIo := put k.diccionarioConexionesIo idInterfaz c
      diccionarioInstruccionesPermitidasIo :=
        put k.diccionarioInstruccionesPermitidasIo idInterfaz permitidas } := by
  simp only [conectarInterfaz, hperm, Bool.false_eq_true, if_false]

/-- No request under way is for an interface that has not connected. -/
theorem EstadoIo.porEnviar_nueva (s : EstadoIo) : s.porEnviar s.kernel.interfaces.length = [] := by
  unfold EstadoIo.porEnviar
  cases s.atendiendo with
  | none => rfl
  | some a =>
    refine if_neg ?_
    rintro ⟨-, hlen⟩
    exact absurd (encontrarCola_lt hlen) (lt_irrefl _)

/-- No connection has a name that differs from those of the interfaces. -/
theorem Emparejados.hilos_ne_nueva (h : Emparejados s)
    (hnueva : ∀ otra ∈ s.kernel.interfaces, stringEqualsIgnoreCase otra idInterfaz = false) (d : ℤ) :
    s.hilos d ≠ some idInterfaz := by
  intro hd
  have hself := hnueva idInterfaz (h.hilos d idInterfaz hd)
  rw [stringEqualsIgnoreCase_self] at hself
  cases hself

theorem Emparejados.permitidas_nueva (h : Emparejados s)
    (hnueva : ∀ otra ∈ s.kernel.interfaces, stringEqualsIgnoreCase otra idInterfaz = false) :
    (get s.kernel.diccionarioInstruccionesPermitidasIo idInterfaz).isSome = false := by
  rw [← Bool.not_eq_true]
  intro hsome
  obtain ⟨d, hd⟩ := h.permitidas idInterfaz hsome
  exact h.hilos_ne_nueva hnueva d hd

/-- The old names keep their queues. -/
theorem Emparejados.misma_cola (h : Emparejados s) {d : ℤ} {otra : Cadena}
    (hd : s.hilos d = some otra) (nueva : Cadena) :
    encontrarCola (s.kernel.interfaces ++ [nueva]) otra =
      encontrarCola s.kernel.interfaces otra := by
  obtain ⟨j, hj⟩ := encontrarCola_of_mem (h.hilos d otra hd)
  rw [hj, encontrarCola_append hj]

/-- The request under way is still for the same queue. -/
theorem Emparejados.porEnviar_append (h : Emparejados s) {k₁ : Estado} {nueva : Cadena}
    (hint : k₁.interfaces = s.kernel.interfaces ++ [nueva]) (hilos : ℤ → Option Cadena) (i : ℕ) :
    EstadoIo.porEnviar { s with kernel := k₁, hilos := hilos } i = s.porEnviar i := by
  unfold EstadoIo.porEnviar
  cases ha : s.atendiendo with
  | none => rfl
  | some a =>
    obtain ⟨d, hd⟩ := h.atendiendo a ha
    simp only [hint, h.misma_cola hd]

theorem Emparejados.conectar {permitidas : Cadena} (h : Emparejados s) (hc : s.hilos c = none)
    (hnueva : ∀ otra ∈ s.kernel.interfaces, stringEqualsIgnoreCase otra idInterfaz = false) :
    Emparejados { s with
      kernel := conectarInterfaz s.kernel idInterfaz permitidas c
      hilos := Function.update s.hilos c (some idInterfaz) } := by
  have hsinHilo := h.hilos_ne_nueva hnueva
  obtain ⟨k₁, hk₁⟩ : ∃ k₁, k₁ = conectarInterfaz s.kernel idInterfaz permitidas c := ⟨_, rfl⟩
  have hkernel := hk₁.trans (conectarInterfaz_nueva (h.permitidas_nueva hnueva))
  have hint : k₁.interfaces = s.kernel.interfaces ++ [idInterfaz] := by rw [hkernel]
  have hsem : k₁.semHayProceso =
      Function.update s.kernel.semHayProceso s.kernel.interfaces.length 0 := by rw [hkernel]
  have hcon : k₁.diccionarioConexionesIo = put s.kernel.diccionarioConexionesIo idInterfaz c := by
    rw [hkernel]
  have hdic : k₁.diccionarioInstruccionesPermitidasIo =
      put s.kernel.diccionarioInstruccionesPermitidasIo idInterfaz permitidas := by rw [hkernel]
  have hcola : k₁.cola = Function.update s.kernel.cola (.io s.kernel.interfaces.length) [] := by
    rw [hkernel]
  rw [← hk₁]
  refine ⟨?_, fun i => ?_, fun d otra hd => ?_, fun otra d => ?_, fun otra hsome => ?_,
    fun a ha => ?_, h.mensajes, fun d hd => ?_, fun d otra i hd hi => ?_⟩
  · rw [hint, List.pairwise_append]
    exact ⟨h.distintos, List.pairwise_singleton _ _, fun otra hotra b hb => by
      rw [List.mem_singleton.1 hb]
      exact hnueva otra hotra⟩
  · rw [hsem, Function.update_apply]
    split_ifs
    · rfl
    · exact h.semHayProceso i
  · rw [hint, List.mem_append, List.mem_singleton]
    by_cases hdc : d = c
    · subst hdc
      exact Or.inr (by simpa using hd.symm)
    · exact Or.inl (h.hilos d otra (by simpa [hdc] using hd))
  · rw [hcon, get_put]
    by_cases hotra : otra = idInterfaz
    · subst hotra
      by_cases hdc : d = c
      · simp [hdc]
      · simpa [hdc, Ne.symm hdc] using hsinHilo d
    · rw [if_neg hotra, h.conexiones otra d]
      by_cases hdc : d = c
      · simp [hdc, hc, Ne.symm hotra]
      · simp [hdc]
  · rw [hdic, get_put] at hsome
    split_ifs at hsome with hotra
    · exact ⟨c, by simp [hotra]⟩
    · obtain ⟨d, hd⟩ := h.permitidas otra hsome
      exact ⟨d, by simpa [ne_of_hilos hc hd] using hd⟩
  · obtain ⟨d, hd⟩ := h.atendiendo a ha
    exact ⟨d, by simpa [ne_of_hilos hc hd] using hd⟩
  · by_cases hdc : d = c
    · subst hdc
      simp at hd
    · exact h.desconectadas d (by simpa [hdc] using hd)
  · rw [h.porEnviar_append hint]
    show Matched (k₁.cola (.io i)) (s.porEnviar i) (s.enviados d) (s.despertados d)
      (s.pedidos d).length (s.respuestas d).length
    by_cases hdc : d = c
    · subst hdc
      obtain rfl : idInterfaz = otra := by simpa using hd
      have hnuevo : some i = some s.kernel.interfaces.length := by
        rw [← encontrarCola_nueva hnueva, ← hint]
        exact hi.symm
      obtain rfl := Option.some.inj hnuevo
      obtain ⟨hpedidos, hrespuestas, henviados, hdespertados⟩ := h.desconectadas d hc
      rw [hcola, Function.update_self, s.porEnviar_nueva, hpedidos, hrespuestas, henviados,
        hdespertados]
      exact Matched.empty
    · have hd' : s.hilos d = some otra := by simpa [hdc] using hd
      have hi' : encontrarCola s.kernel.interfaces otra = some i := by
        rw [← h.misma_cola hd' idInterfaz, ← hint]
        exact hi
      have hne : Lugar.io i ≠ .io s.kernel.interfaces.length := by
        have hlt := encontrarCola_lt hi'
        intro heq
        injection heq with heq
        omega
      rw [hcola, Function.update_of_ne hne]
      exact h.colas d otra i hd' hi'

/-- What each step does, when it happens. -/
inductive AvanzaIo (cfg : KernelConfiguracion) (s : EstadoIo) : EventoIo → EstadoIo → Prop
  | kernel {ev : Evento} {k : Estado} (hotro : s.otroPaso ev = true)
      (hk : paso cfg s.kernel ev = some k) : AvanzaIo cfg s (.kernel ev) { s with kernel := k }
  | pedir {motivo : Cadena} {lista : List Cadena} {pid : ℕ} {k : Estado} {a : AtencionIo}
      (hnone : s.atendiendo = none) (hpide : pideIo s.kernel motivo lista = true)
      (hpid : s.kernel.enEjecucion = some pid)
      (hk : empezarIo cfg s.kernel motivo lista pid = some (k, a)) :
      AvanzaIo cfg s (.pedir motivo lista) { s with kernel := k, atendiendo := some a }
  | enviar {a : AtencionIo} {k : Estado} {c : ℤ} (ha : s.atendiendo = some a)
      (henviado : a.enviado = false) (hk : enviarPedido s.kernel a = some (k, c)) :
      AvanzaIo cfg s .enviar { s with
        kernel := k
        atendiendo := some { a with enviado := true }
        pedidos := Function.update s.pedidos c (s.pedidos c ++ [a.pid])
        enviados := Function.update s.enviados c (s.enviados c ++ [a.pid]) }
  | terminar {a : AtencionIo} (ha : s.atendiendo = some a) (henviado : a.enviado = true) :
      AvanzaIo cfg s .terminar { s with kernel := terminarIo s.kernel a, atendiendo := none }
  | responder {c : ℤ} {mensaje : Cadena} {p : ℕ} {resto : List ℕ}
      (hpedidos : s.pedidos c = p :: resto)
      (hmensaje : mensajesDeFin.any (stringEqualsIgnoreCase mensaje) = true) :
      AvanzaIo cfg s (.responder c mensaje) { s with
        pedidos := Function.update s.pedidos c resto
        respuestas := Function.update s.respuestas c (s.respuestas c ++ [mensaje]) }
  | finDeIo {c : ℤ} {idInterfaz mensaje : Cadena} {resto : List Cadena} {k : Estado}
      (hrespuestas : s.respuestas c = mensaje :: resto) (hhilo : s.hilos c = some idInterfaz)
      (hk : finDeIo cfg s.kernel idInterfaz mensaje = some k) :
      AvanzaIo cfg s (.finDeIo c) { s with
        kernel := k
        respuestas := Function.update s.respuestas c resto
        despertados := Function.update s.despertados c
          (s.despertados c ++ (primeroDe s.kernel idInterfaz).toList) }
  | conectar {idInterfaz permitidas : Cadena} {c : ℤ} (hhilo : s.hilos c = none) :
      AvanzaIo cfg s (.conectar idInterfaz permitidas c) { s with
        kernel := conectarInterfaz s.kernel idInterfaz permitidas c
        hilos := Function.update s.hilos c (some idInterfaz) }

theorem pasoIo_avanza {ev : EventoIo} (hp : pasoIo cfg s ev = some s') :
    AvanzaIo cfg s ev s' := by
  cases ev with
  | kernel ev =>
    rcases ite_eq_iff.1 hp with ⟨hotro, hp⟩ | ⟨-, hp⟩
    · obtain ⟨k, hk, rfl⟩ := Option.map_eq_some_iff.1 hp
      exact .kernel hotro hk
    · cases hp
  | pedir motivo lista =>
    rcases ite_eq_iff.1 hp with ⟨⟨hnone, hpide, -⟩, hp⟩ | ⟨-, hp⟩
    · obtain ⟨pid, hpid, hp⟩ := Option.bind_eq_some_iff.1 hp
      obtain ⟨⟨k, a⟩, hk, rfl⟩ := Option.map_eq_some_iff.1 hp
      exact .pedir (Option.isNone_iff_eq_none.1 hnone) hpide hpid hk
    · cases hp
  | enviar =>
    obtain ⟨a, ha, hp⟩ := Option.bind_eq_some_iff.1 hp
    rcases ite_eq_iff.1 hp with ⟨-, hp⟩ | ⟨henviado, hp⟩
    · cases hp
    · obtain ⟨⟨k, c⟩, hk, rfl⟩ := Option.map_eq_some_iff.1 hp
      exact .enviar ha (Bool.eq_false_iff.2 henviado) hk
  | terminar =>
    obtain ⟨a, ha, hp⟩ := Option.bind_eq_some_iff.1 hp
    rcases ite_eq_iff.1 hp with ⟨henviado, hp⟩ | ⟨-, hp⟩
    · cases hp
      exact .terminar ha henviado
    · cases hp
  | responder c mensaje =>
    simp only [pasoIo] at hp
    split at hp
    · cases hp
    · rename_i p resto hpedidos
      rcases ite_eq_iff.1 hp with ⟨hmensaje, hp⟩ | ⟨-, hp⟩
      · cases hp
        exact .responder hpedidos hmensaje
      · cases hp
  | finDeIo c =>
    simp only [pasoIo] at hp
    split at hp
    · cases hp
    · rename_i mensaje resto hrespuestas
      obtain ⟨idInterfaz, hhilo, hp⟩ := Option.bind_eq_some_iff.1 hp
      obtain ⟨k, hk, rfl⟩ := Option.map_eq_some_iff.1 hp
      exact .finDeIo hrespuestas hhilo hk
  | conectar idInterfaz permitidas c =>
    rcases ite_eq_iff.1 hp with ⟨-, hp⟩ | ⟨hhilo, hp⟩
    · cases hp
    · cases hp
      exact .conectar (by simpa using hhilo)

/-- Every step keeps each queue matched with its requests. -/
theorem pasoIo_emparejados (h : Emparejados s) {ev : EventoIo} (hnombres : NombresDistintos s ev)
    (hp : pasoIo cfg s ev = some s') : Emparejados s' := by
  cases pasoIo_avanza hp with
  | kernel hotro hk => exact h.kernel (paso_mismasInterfaces h.semHayProceso hotro hk)
  | pedir hnone hpide _ hk => exact h.pedir hnone hpide hk
  | enviar ha henviado hk => exact h.enviar ha henviado hk
  | terminar ha henviado => exact h.terminar ha henviado
  | responder hpedidos hmensaje => exact h.responder hpedidos hmensaje
  | finDeIo hrespuestas hhilo hk => exact h.finDeIo hrespuestas hhilo hk
  | conectar hhilo => exact h.conectar hhilo hnombres

/-- The queue of a connection, and what the next message read from it does. -/
structure DespiertaAlQuePidio (cfg : KernelConfiguracion) (s : EstadoIo) (c : ℤ)
    (idInterfaz : Cadena) (i : ℕ) : Prop where
  /-- The `k`-th process that was taken out is the one of the `k`-th request that was sent. -/
  orden : s.despertados c <+: s.enviados c
  /-- Every request that was queued has been answered and read, or its process is in the queue. -/
  unaVez : s.despertados c ++ s.kernel.cola (.io i) = s.enviados c ++ s.porEnviar i
  enCamino : (s.despertados c).length + (s.respuestas c).length + (s.pedidos c).length =
    (s.enviados c).length
  fin : ∀ mensaje resto, s.respuestas c = mensaje :: resto →
    ∃ p cola fin s', s.kernel.cola (.io i) = p :: cola ∧
      (s.enviados c)[(s.despertados c).length]? = some p ∧
      pasoIo cfg s (.finDeIo c) = some s' ∧
      s'.despertados c = s.despertados c ++ [p] ∧
      s'.kernel = iniciar cfg
        { s.kernel with cola := Function.update s.kernel.cola (.io i) cola } p fin

theorem Emparejados.despiertaAlQuePidio (h : Emparejados s) (hc : s.hilos c = some idInterfaz)
    (hi : encontrarCola s.kernel.interfaces idInterfaz = some i) :
    DespiertaAlQuePidio cfg s c idInterfaz i := by
  have hcola := h.colas c idInterfaz i hc hi
  refine ⟨hcola.popped_sent, hcola.order, hcola.balance, fun mensaje resto hrespuestas => ?_⟩
  rw [hrespuestas, List.length_cons] at hcola
  obtain ⟨p, cola, heq, hsent, -⟩ := hcola.pop
  have hmensaje := h.mensajes c mensaje (by simp [hrespuestas])
  obtain ⟨fin, -, -, hfin⟩ := @finDeIo_completa cfg _ _ _ _ _ _ hmensaje hi heq
  have hprimero : primeroDe s.kernel idInterfaz = some p := by simp [primeroDe, hi, heq]
  have hpaso : pasoIo cfg s (.finDeIo c) = some { s with
      kernel := iniciar cfg
        { s.kernel with cola := Function.update s.kernel.cola (.io i) cola } p fin
      respuestas := Function.update s.respuestas c resto
      despertados := Function.update s.despertados c (s.despertados c ++ [p]) } := by
    simp only [pasoIo, hrespuestas, hc, Option.bind_some, hfin, Option.map_some, hprimero,
      Option.toList_some]
  exact ⟨p, cola, fin, _, heq, hsent, hpaso, by simp, rfl⟩

/-- **The end of an operation wakes up the process that asked for it**: in every run in which the
names of the interfaces differ but for case, and each interface answers its requests once and in
their order, the queue of an interface is not empty when one of its messages is read, and the
process that becomes ready is the one of the request that the message answers. -/
theorem io_despierta_al_proceso (cfg : KernelConfiguracion) (evs : List EventoIo)
    (hnombres : Meets (pasoIo cfg) NombresDistintos (EstadoIo.inicial cfg) evs) :
    Along (pasoIo cfg) (fun s => ∀ c idInterfaz, s.hilos c = some idInterfaz →
      ∃ i, encontrarCola s.kernel.interfaces idInterfaz = some i ∧
        DespiertaAlQuePidio cfg s c idInterfaz i) (EstadoIo.inicial cfg) evs := by
  refine (along_of_meets (fun s ev s' h hc hp => pasoIo_emparejados h hc hp)
    (emparejados_inicial cfg) hnombres).imp ?_
  intro s h c idInterfaz hc
  obtain ⟨i, hi⟩ := encontrarCola_of_mem (h.hilos c idInterfaz hc)
  exact ⟨i, hi, h.despiertaAlQuePidio hc hi⟩

/-- The end of the first operation is read before the state of the process names the interface. -/
theorem io_despierta_al_proceso_uno :
    ∃ s p, run (pasoIo ⟨.FIFO, [], 1⟩) (EstadoIo.inicial ⟨.FIFO, [], 1⟩)
        [.conectar "GEN".toList "IO_GEN_SLEEP".toList 7, .kernel (.iniciarProceso []),
          .kernel .iniciarPlanificacion, .kernel .administrarProcesosNew,
          .kernel (.replanificar "NEW".toList),
          .pedir "IO_GEN_SLEEP".toList ["GEN".toList, "10".toList], .enviar,
          .responder 7 "END_OF_IO_GEN_SLEEP".toList] = some s ∧
      (s.enviados 7)[(s.despertados 7).length]? = some p ∧
      ∃ s', pasoIo ⟨.FIFO, [], 1⟩ s (.finDeIo 7) = some s' ∧ s'.despertados 7 = [p] := by
  have h := io_despierta_al_proceso ⟨.FIFO, [], 1⟩
    [.conectar "GEN".toList "IO_GEN_SLEEP".toList 7, .kernel (.iniciarProceso []),
      .kernel .iniciarPlanificacion, .kernel .administrarProcesosNew,
      .kernel (.replanificar "NEW".toList),
      .pedir "IO_GEN_SLEEP".toList ["GEN".toList, "10".toList], .enviar,
      .responder 7 "END_OF_IO_GEN_SLEEP".toList]
    fun s _ => ⟨by simp [NombresDistintos, EstadoIo.inicial, Estado.inicial],
      meets_of_forall (by simp [NombresDistintos]) s⟩
  obtain ⟨i, hi, hcola⟩ := (h.last rfl) 7 "GEN".toList rfl
  obtain ⟨p, cola, fin, s', -, hsent, hpaso, hdespertados, -⟩ := hcola.fin _ [] rfl
  exact ⟨_, p, rfl, hsent, s', hpaso, hdespertados⟩

end SimuladorSO.Kernel
