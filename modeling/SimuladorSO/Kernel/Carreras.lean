import SimuladorSO.Kernel.Interfaces
import SimuladorSO.Kernel.Semaforos

/-!
# An answer that comes before its request ends

The branch of `atender_solicitud_cpu` for an interface queues the process in BLOCK, sends the
request, and gives the process its last state, which names the interface.  In between, the other
threads take their steps.

* `EnEspera`: what holds in between, seen through the kernel in which the process has its last
  state already (`Estado.conEstado`); every step but the end of that same request keeps it;
* `estados_de_las_colas`: in the runs in which no request is ended before its time, the states of
  the processes are those of their queues;
* `EnEspera.terminar_pisa_el_estado`: a request ended before its time leaves a ready process in
  BLOCK.
-/

namespace SimuladorSO.Kernel

open Queues Transitions Commons Dictionary

/-- The kernel with another state for a process. -/
def Estado.conEstado (k : Estado) (pid : ℕ) (e : EstadoProceso) : Estado :=
  { k with listaEstados := k.listaEstados.set (pid - 1) e }

/-- The process is in BLOCK, in the queue of an interface, and all else is in its place. -/
structure EnEspera (cfg : KernelConfiguracion) (fuera : Finset ℕ) (pid : ℕ) (interfaz : Cadena)
    (k : Estado) : Prop where
  ajeno : pid ∉ fuera
  estado : k.estado pid = some .block
  ubicados : Ubicados cfg fuera (k.conEstado pid (.blockIo interfaz))

variable {cfg : KernelConfiguracion} {fuera : Finset ℕ} {k k₁ k' : Estado} {p q : ℕ} {l : Lugar}
  {e : EstadoProceso} {interfaz motivo : Cadena}

/-! ### Its state and its queue -/

theorem EnEspera.vivo (h : EnEspera cfg fuera p interfaz k) :
    0 < p ∧ p ≤ k.listaEstados.length := by
  rw [← estado_isSome_iff, h.estado]
  rfl

/-- With its last state, only the process has another state. -/
theorem EnEspera.estado_conEstado (h : EnEspera cfg fuera p interfaz k) (e : EstadoProceso) :
    (k.conEstado p e).estado = Function.update k.estado p (some e) :=
  estado_of_set h.vivo.1 h.vivo.2 rfl

/-- The process is in a queue of the interfaces only. -/
theorem EnEspera.lugar (h : EnEspera cfg fuera p interfaz k) (hp : p ∈ k.cola l) :
    ∃ i, l = .io i := by
  obtain ⟨-, e, he, hl⟩ := h.ubicados.estado_of_mem (l := l) hp
  rw [h.estado_conEstado, Function.update_self] at he
  cases he
  obtain ⟨i, -, rfl⟩ := Option.map_eq_some_iff.1 hl
  exact ⟨i, rfl⟩

theorem EnEspera.sin_exec (h : EnEspera cfg ∅ p interfaz k) (hn : k.enEjecucion.isSome = false)
    (q : ℕ) : (k.conEstado p (.blockIo interfaz)).estado q ≠ some .exec := by
  refine h.ubicados.sin_exec ?_ q
  have hejec : (k.conEstado p (.blockIo interfaz)).enEjecucion = k.enEjecucion := by
    unfold Estado.enEjecucion
    show k.colaExec.head?.filter _ = _
    congr 1
    funext r
    rw [h.estado_conEstado, Function.update_apply]
    split_ifs with hr
    · simp [hr, h.estado]
    · rfl
  rw [hejec, hn]

/-! ### Changes elsewhere -/

theorem EnEspera.congr (h : EnEspera cfg fuera p interfaz k) (hcola : k'.cola = k.cola)
    (hexec : k'.colaExec = k.colaExec) (hest : k'.listaEstados = k.listaEstados)
    (hint : k'.interfaces = k.interfaces) (hcont : k'.contadorPid = k.contadorPid) :
    EnEspera cfg fuera p interfaz k' where
  ajeno := h.ajeno
  estado := by rw [estado_of_listaEstados hest]; exact h.estado
  ubicados := h.ubicados.congr hcola hexec (by simp only [Estado.conEstado, hest]) hint hcont

/-- Another process changes its state. -/
theorem EnEspera.set (h : EnEspera cfg fuera p interfaz k) (hqp : q ≠ p) (hq : 0 < q)
    (hlen : q ≤ k.listaEstados.length) (hlista : k'.listaEstados = k.listaEstados.set (q - 1) e) :
    k'.estado p = some .block ∧ (k'.conEstado p (.blockIo interfaz)).listaEstados =
      (k.conEstado p (.blockIo interfaz)).listaEstados.set (q - 1) e := by
  have hp := h.vivo.1
  constructor
  · rw [estado_of_set hq hlen hlista, Function.update_of_ne hqp.symm, h.estado]
  · simp only [Estado.conEstado, hlista]
    exact List.set_comm _ _ (by omega)

theorem EnEspera.afuera (h : EnEspera cfg (insert q fuera) p interfaz k) :
    q ≠ p ∧ p ∉ fuera ∧ 0 < q ∧ q ≤ k.listaEstados.length := by
  have hajeno := h.ajeno
  simp only [Finset.mem_insert, not_or] at hajeno
  have hvivo := h.ubicados.vivos q (Finset.mem_insert_self q fuera)
  have hcreados := h.ubicados.creados
  have hlen : (k.conEstado p (.blockIo interfaz)).listaEstados.length = k.listaEstados.length :=
    List.length_set
  exact ⟨Ne.symm hajeno.1, hajeno.2, hvivo.1, by omega⟩

theorem EnEspera.poner (h : EnEspera cfg (insert q fuera) p interfaz k) (hq : q ∉ fuera)
    (hl : lugarDe cfg k.interfaces e = some l)
    (hcola : k'.cola = Function.update k.cola l (k.cola l ++ [q]))
    (hlista : k'.listaEstados = k.listaEstados.set (q - 1) e)
    (hexec : k'.colaExec = k.colaExec)
    (hint : k'.interfaces = k.interfaces) (hcont : k'.contadorPid = k.contadorPid) :
    EnEspera cfg fuera p interfaz k' := by
  obtain ⟨hqp, hajeno, h0, hlen⟩ := h.afuera
  obtain ⟨hestado, hset⟩ := h.set hqp h0 hlen hlista
  exact ⟨hajeno, hestado, h.ubicados.poner hq hl hcola hset hexec hint hcont⟩

theorem EnEspera.iniciar (h : EnEspera cfg (insert q fuera) p interfaz k) (hq : q ∉ fuera)
    (motivo : Cadena) : EnEspera cfg fuera p interfaz (iniciar cfg k q motivo) := by
  obtain ⟨l, e, hl, -, hcola, hlista⟩ := iniciar_cases cfg k q motivo
  exact h.poner hq hl hcola hlista (by simp) (by simp) (by simp)

/-- Another process is taken out of its queue. -/
theorem EnEspera.desencolar (h : EnEspera cfg fuera p interfaz k)
    (hd : k.desencolar l = some (q, k')) (hqp : q ≠ p) :
    q ∉ fuera ∧ EnEspera cfg (insert q fuera) p interfaz k' := by
  obtain ⟨resto, hcola, rfl⟩ := desencolar_eq_some hd
  have hd' : (k.conEstado p (.blockIo interfaz)).desencolar l = some (q,
      { k with cola := Function.update k.cola l resto }.conEstado p (.blockIo interfaz)) := by
    have hcola' : (k.conEstado p (.blockIo interfaz)).cola l = q :: resto := hcola
    simp only [Estado.desencolar, hcola']
    rfl
  obtain ⟨hq, -, hsacado⟩ := h.ubicados.desencolar hd'
  exact ⟨hq, by simpa [hqp.symm] using h.ajeno, h.estado, hsacado⟩

/-- A queue that is not of an interface has other processes. -/
theorem EnEspera.ne_de_cola (h : EnEspera cfg fuera p interfaz k) (hq : q ∈ k.cola l)
    (hl : ∀ i, l ≠ .io i) : q ≠ p := by
  rintro rfl
  obtain ⟨i, rfl⟩ := h.lugar hq
  exact hl i rfl

theorem mem_of_desencolar (hd : k.desencolar l = some (q, k')) : q ∈ k.cola l := by
  obtain ⟨resto, hcola, -⟩ := desencolar_eq_some hd
  simp [hcola]

theorem EnEspera.desbloquear (h : EnEspera cfg fuera p interfaz k)
    (hd : desbloquear cfg k l motivo = some k') (hne : ∀ q, (k.cola l).head? = some q → q ≠ p) :
    EnEspera cfg fuera p interfaz k' := by
  obtain ⟨q, k₁, hq, rfl⟩ := desbloquear_eq_some hd
  obtain ⟨resto, hcola, -⟩ := desencolar_eq_some hq
  obtain ⟨hfuera, hsacado⟩ := h.desencolar hq (hne q (by simp [hcola]))
  exact hsacado.iniciar hfuera motivo

theorem EnEspera.signal {recurso : Cadena} {b : Bool} (h : EnEspera cfg fuera p interfaz k)
    (hs : signal cfg k recurso q = some (k', b)) : EnEspera cfg fuera p interfaz k' := by
  rcases signal_cases hs with ⟨-, rfl, -⟩ | ⟨i, k₁, -, -, hk₁, hquitar⟩
  · exact h
  · obtain ⟨-, rfl⟩ := quitar_eq_some hquitar
    have h₁ : EnEspera cfg fuera p interfaz k₁ := by
      rcases hk₁ with ⟨-, hdes⟩ | ⟨-, rfl⟩
      · have h₀ : EnEspera cfg fuera p interfaz { k with
            instanciasRecurso := Function.update k.instanciasRecurso i (k.instanciasRecurso i + 1)
            reloj := k.reloj.seguir cfg k.finPorQuantum } := h.congr rfl rfl rfl rfl rfl
        exact h₀.desbloquear hdes fun r hr => h₀.ne_de_cola (List.mem_of_mem_head? hr) (by simp)
      · exact h.congr rfl rfl rfl rfl rfl
    exact h₁.congr rfl rfl rfl rfl rfl

theorem EnEspera.exitPrima (h : EnEspera cfg (insert q fuera) p interfaz k)
    (hq : q ∉ fuera) (he : exitPrima cfg k q = some k') :
    EnEspera cfg fuera p interfaz k' := by
  obtain ⟨k₁, hl, rfl⟩ := exitPrima_eq_some he
  have h₁ : EnEspera cfg (insert q fuera) p interfaz k₁ :=
    liberarRecursosDesde_induct (P := EnEspera cfg (insert q fuera) p interfaz)
      (fun _ _ _ _ h _ hs => h.signal hs) h hl
  exact h₁.poner (e := .exit) (l := .exit) hq rfl rfl rfl rfl rfl rfl

/-! ### Steps of the other threads -/

/-- `FINALIZAR_PROCESO` does not come back for the process itself. -/
theorem EnEspera.encontrarPcb_none (h : EnEspera cfg ∅ p interfaz k) :
    encontrarPcb cfg k p = none := by
  unfold encontrarPcb
  rw [h.estado]
  show (if stringContains "BLOCK".toList "IO".toList = true then _ else _) = none
  rw [if_neg (by decide)]
  cases hi : encontrarColaRecurso cfg (ultimaPalabra (EstadoProceso.block).texto) with
  | none => rfl
  | some i =>
    have hp : p ∉ k.cola (.recurso i) := by
      intro hp
      obtain ⟨j, hj⟩ := h.lugar hp
      cases hj
    rw [Option.bind_some, Estado.sacarDe, pcbEnCola_eq, if_neg hp]
    rfl

/-- `encontrar_pcb` leaves the states. -/
theorem encontrarPcb_listaEstados (h : encontrarPcb cfg k q = some k') :
    k'.listaEstados = k.listaEstados := by
  obtain ⟨_, _, _, _, _, _, rfl⟩ := encontrarPcb_eq_some h
  rfl

/-- `encontrar_pcb` for another process does not read the state. -/
theorem EnEspera.encontrarPcb_conEstado (h : EnEspera cfg fuera p interfaz k) (hqp : q ≠ p)
    (e : EstadoProceso) :
    encontrarPcb cfg (k.conEstado p e) q =
      (encontrarPcb cfg k q).map fun k' => k'.conEstado p e := by
  have hsacar (k : Estado) (l : Lugar) : (k.conEstado p e).sacarDe l q =
      (k.sacarDe l q).map fun k' => k'.conEstado p e := by
    unfold Estado.sacarDe
    rw [Option.map_map]
    rfl
  unfold Kernel.encontrarPcb
  rw [h.estado_conEstado, Function.update_of_ne hqp]
  cases hs : k.estado q with
  | none => rfl
  | some e' =>
    cases e' with
    | new => exact hsacar k .new
    | ready =>
      exact hsacar { k with semMultiprogramacion := k.semMultiprogramacion + 1 } .ready
    | readyM =>
      exact hsacar { k with semMultiprogramacion := k.semMultiprogramacion + 1 } .readyM
    | exec =>
      dsimp only
      rw [Option.map_map]
      rfl
    | _ =>
      dsimp only
      split_ifs with hio
      · show (encontrarCola k.interfaces _).bind _ = _
        cases encontrarCola k.interfaces (ultimaPalabra _) with
        | none => rfl
        | some i =>
          simp only [Option.bind_some]
          show (if k.semHayProceso i = 0 then _ else _) = _
          split_ifs with hsem
          · rfl
          · exact hsacar { k with
              semHayProceso := Function.update k.semHayProceso i (k.semHayProceso i - 1) } (.io i)
      · cases encontrarColaRecurso cfg (ultimaPalabra _) with
        | none => rfl
        | some i =>
          simp only [Option.bind_some]
          rw [hsacar]
          cases k.sacarDe (.recurso i) q with
          | none => rfl
          | some k₁ =>
            simp only [Option.map_some, Option.bind_some]
            unfold quitarDeListaRecursosRetenidos
            show (if k₁.listaRecursosRetenidos.any _ then _ else _) = _
            split_ifs <;> rfl

theorem EnEspera.encontrarPcb (h : EnEspera cfg ∅ p interfaz k)
    (he : encontrarPcb cfg k q = some k') : EnEspera cfg (insert q ∅) p interfaz k' := by
  have hqp : q ≠ p := by
    rintro rfl
    rw [h.encontrarPcb_none] at he
    cases he
  have hubicados : Ubicados cfg (insert q ∅) (k'.conEstado p (.blockIo interfaz)) := by
    refine h.ubicados.encontrarPcb ?_
    rw [h.encontrarPcb_conEstado hqp, he]
    rfl
  refine ⟨by simpa using hqp.symm, ?_, hubicados⟩
  rw [estado_of_listaEstados (encontrarPcb_listaEstados he)]
  exact h.estado

theorem EnEspera.finalizarProceso (h : EnEspera cfg ∅ p interfaz k)
    (hf : finalizarProceso cfg k q = some k') : EnEspera cfg ∅ p interfaz k' := by
  obtain ⟨k₁, mensajes, he, hexit⟩ := finalizarProceso_eq_some hf
  have h₁ : EnEspera cfg (insert q ∅) p interfaz { k₁ with enviados := mensajes } :=
    (h.encontrarPcb he).congr rfl rfl rfl rfl rfl
  exact h₁.exitPrima (Finset.notMem_empty q) hexit

theorem EnEspera.iniciarProceso (h : EnEspera cfg ∅ p interfaz k) (path : Cadena) :
    EnEspera cfg ∅ p interfaz (iniciarProceso k path) := by
  obtain ⟨h0, hlen⟩ := h.vivo
  have hlista : (Kernel.iniciarProceso k path).listaEstados = k.listaEstados ++ [.new] := rfl
  refine ⟨h.ajeno, ?_, ?_⟩
  · cases p with
    | zero => omega
    | succ i =>
      have hestado := h.estado
      simp only [Estado.estado, hlista] at hestado ⊢
      rw [List.getElem?_append_left (by omega), hestado]
  · have hconmuta : (Kernel.iniciarProceso k path).conEstado p (.blockIo interfaz) =
        Kernel.iniciarProceso (k.conEstado p (.blockIo interfaz)) path := by
      have hset : (k.listaEstados ++ [EstadoProceso.new]).set (p - 1) (.blockIo interfaz) =
          k.listaEstados.set (p - 1) (.blockIo interfaz) ++ [.new] :=
        List.set_append_left _ _ (by omega)
      simp only [Estado.conEstado, Kernel.iniciarProceso, Estado.cambiarEstado, Estado.encolar,
        if_true, hset]
    rw [hconmuta]
    exact h.ubicados.iniciarProceso path

theorem EnEspera.administrarProcesosNew (h : EnEspera cfg ∅ p interfaz k)
    (ha : administrarProcesosNew k = some k') : EnEspera cfg ∅ p interfaz k' := by
  obtain ⟨q, k₁, pendientes, primero, -, -, hd, -, rfl⟩ := administrarProcesosNew_eq_some ha
  obtain ⟨hq, hsacado⟩ := h.desencolar hd (h.ne_de_cola (mem_of_desencolar hd) (by simp))
  exact hsacado.poner (e := .ready) (l := .ready) hq rfl rfl rfl rfl rfl rfl

theorem EnEspera.pasarAExec (h : EnEspera cfg (insert q ∅) p interfaz k)
    (hn : ∀ r, r ≠ q → (k.conEstado p (.blockIo interfaz)).estado r ≠ some .exec) :
    EnEspera cfg ∅ p interfaz (pasarAExec k q) := by
  obtain ⟨hqp, hajeno, h0, hlen⟩ := h.afuera
  have hlista : (Kernel.pasarAExec k q).listaEstados = k.listaEstados.set (q - 1) .exec := rfl
  obtain ⟨hestado, hset⟩ := h.set hqp h0 hlen hlista
  exact ⟨hajeno, hestado, h.ubicados.ponerExec (Finset.notMem_empty q) (fun r hr _ => hn r hr) rfl
    hset rfl rfl rfl⟩

theorem EnEspera.terminarReplanificacion (h : EnEspera cfg ∅ p interfaz k)
    (hn : ∀ r, (k.conEstado p (.blockIo interfaz)).estado r ≠ some .exec)
    (ht : terminarReplanificacion k l = some k') : EnEspera cfg ∅ p interfaz k' := by
  obtain ⟨m, q, k₁, _, _, _, _, hm, hd, rfl⟩ := terminarReplanificacion_desencola ht
  have hqp : q ≠ p := h.ne_de_cola (mem_of_desencolar hd) (by rcases hm with rfl | rfl <;> simp)
  obtain ⟨-, hsacado⟩ := h.desencolar hd hqp
  obtain ⟨resto, -, rfl⟩ := desencolar_eq_some hd
  exact EnEspera.pasarAExec (hsacado.congr rfl rfl rfl rfl rfl) fun r _ => hn r

theorem EnEspera.replanificar (h : EnEspera cfg ∅ p interfaz k)
    (hn : k.enEjecucion.isSome = false) (hr : replanificar cfg k motivo = some k') :
    EnEspera cfg ∅ p interfaz k' := by
  obtain ⟨quantum, l, ht⟩ := replanificar_eq_some hr
  have h₀ : EnEspera cfg ∅ p interfaz { k with
      semPlanificacion := k.semPlanificacion - 1
      semReplanificacionQuantum := quantum } := h.congr rfl rfl rfl rfl rfl
  exact h₀.terminarReplanificacion (h.sin_exec hn) ht

theorem EnEspera.conectarInterfaz (h : EnEspera cfg ∅ p interfaz k) (idInterfaz permitidas : Cadena)
    (conexion : ℤ) : EnEspera cfg ∅ p interfaz (conectarInterfaz k idInterfaz permitidas conexion)
    where
  ajeno := h.ajeno
  estado := by
    have hlista : (Kernel.conectarInterfaz k idInterfaz permitidas conexion).listaEstados =
        k.listaEstados := by
      unfold Kernel.conectarInterfaz
      dsimp only
      split_ifs <;> rfl
    rw [estado_of_listaEstados hlista, h.estado]
  ubicados := by
    have hconmuta : (Kernel.conectarInterfaz k idInterfaz permitidas conexion).conEstado p
        (.blockIo interfaz) = Kernel.conectarInterfaz (k.conEstado p (.blockIo interfaz)) idInterfaz
          permitidas conexion := by
      unfold Kernel.conectarInterfaz
      dsimp only [Estado.conEstado]
      split_ifs <;> rfl
    rw [hconmuta]
    exact h.ubicados.conectarInterfaz idInterfaz permitidas conexion

/-- The end of an operation of another process. -/
theorem EnEspera.finDeIo {idInterfaz mensaje : Cadena} (h : EnEspera cfg ∅ p interfaz k)
    (hf : finDeIo cfg k idInterfaz mensaje = some k')
    (hne : primeroDe k idInterfaz ≠ some p) : EnEspera cfg ∅ p interfaz k' := by
  rcases finDeIo_cases hf with rfl | ⟨i, fin, -, hi, hd⟩
  · exact h
  · refine h.desbloquear hd fun q hq hqp => hne ?_
    rw [primeroDe, hi, Option.bind_some, hq, hqp]

/-- The steps that the other threads of the kernel take while the request is attended. -/
theorem EnEspera.paso {s : EstadoIo} {a : AtencionIo} {ev : Evento}
    (h : EnEspera cfg ∅ p interfaz s.kernel) (ha : s.atendiendo = some a)
    (hotro : s.otroPaso ev = true) (hp : paso cfg s.kernel ev = some k') :
    EnEspera cfg ∅ p interfaz k' := by
  cases ev with
  | iniciarProceso path =>
    cases hp
    exact h.iniciarProceso path
  | finalizarProceso pid => exact h.finalizarProceso hp
  | iniciarPlanificacion =>
    cases hp
    exact h.congr rfl rfl rfl rfl rfl
  | detenerPlanificacion =>
    obtain ⟨-, rfl⟩ := detenerPlanificacion_eq_some hp
    exact h.congr rfl rfl rfl rfl rfl
  | administrarProcesosNew => exact h.administrarProcesosNew hp
  | replanificar motivo =>
    obtain ⟨hn, hr⟩ := paso_replanificar_eq_some hp
    have h₀ : EnEspera cfg ∅ p interfaz { s.kernel with
        porReplanificar := s.kernel.porReplanificar.erase motivo } := h.congr rfl rfl rfl rfl rfl
    exact h₀.replanificar hn hr
  | enviarACpu =>
    obtain ⟨-, rfl⟩ := enviarACpu_eq_some hp
    exact h.congr rfl rfl rfl rfl rfl
  | quantum finPorQuantum =>
    cases hp
    exact h.congr rfl rfl rfl rfl rfl
  | paquete motivo lista => simp [EstadoIo.otroPaso, ha] at hotro
  | finInstruccion => simp [EstadoIo.otroPaso, ha] at hotro
  | conectarInterfaz idInterfaz permitidas conexion => cases hotro
  | finDeIo idInterfaz mensaje => cases hotro

/-! ### The request and its end -/

/-- Every process is in its place, but for the last state of the one whose request is attended. -/
def Situados (cfg : KernelConfiguracion) (s : EstadoIo) : Prop :=
  match s.atendiendo with
  | none => Ubicados cfg ∅ s.kernel
  | some a => EnEspera cfg ∅ a.pid a.interfaz s.kernel

/-- The answer that the thread of an interface reads is not that of the request that is still
attended. -/
def NoSeAdelanta (s : EstadoIo) : EventoIo → Prop
  | .finDeIo c => ∀ a idInterfaz, s.atendiendo = some a → s.hilos c = some idInterfaz →
      primeroDe s.kernel idInterfaz ≠ some a.pid
  | _ => True

/-- The states of the processes are those of the queues that they are in. -/
structure Coherentes (k : Estado) : Prop where
  listos : ∀ p, p ∈ k.cola .ready ∨ p ∈ k.cola .readyM →
    k.estado p = some .ready ∨ k.estado p = some .readyM
  bloqueados : ∀ i p, p ∈ k.cola (.io i) → ∃ e, k.estado p = some e ∧ e.bloqueado = true

variable {s s' : EstadoIo} {a : AtencionIo} {lista : List Cadena}

/-- A request queues its process, which was in EXEC. -/
theorem Ubicados.empezarIo (h : Ubicados cfg ∅ k) (hp : k.estado p = some .exec)
    (he : empezarIo cfg k motivo lista p = some (k', a)) :
    EnEspera cfg ∅ a.pid a.interfaz k' := by
  obtain ⟨interfaz, -, he⟩ := Option.bind_eq_some_iff.1 he
  obtain ⟨i, hi, heq⟩ := Option.map_eq_some_iff.1 he
  cases heq
  obtain ⟨h0, hlen⟩ := (estado_isSome_iff k p).1 (by rw [hp]; rfl)
  have h₀ : Ubicados cfg ∅ { k with
      motivo := motivo
      reloj := k.reloj.empezar cfg k.finPorQuantum
      colaExec := [p] } := h.congr_exec hp rfl rfl rfl rfl rfl
  refine ⟨Finset.notMem_empty p, ?_, ?_⟩
  · rw [estado_of_set (k := k) (e := .block) h0 hlen rfl, Function.update_self]
  · refine (h₀.apartar hp).poner (e := .blockIo interfaz) (l := .io i) (Finset.notMem_empty p)
      (by simp [lugarDe, hi]) rfl ?_ rfl rfl rfl
    exact List.set_set _

/-- The end of a request gives the process its last state. -/
theorem EnEspera.terminarIo (h : EnEspera cfg ∅ a.pid a.interfaz k) :
    Ubicados cfg ∅ (terminarIo k a) :=
  h.ubicados.congr rfl rfl rfl rfl rfl

theorem situados_none (ha : s.atendiendo = none) :
    Situados cfg s ↔ Ubicados cfg ∅ s.kernel := by
  simp only [Situados, ha]

theorem situados_some (ha : s.atendiendo = some a) :
    Situados cfg s ↔ EnEspera cfg ∅ a.pid a.interfaz s.kernel := by
  simp only [Situados, ha]

/-- A step that does not change which request is attended. -/
theorem Situados.mover (h : Situados cfg s) (hat : s'.atendiendo = s.atendiendo)
    (hlibre : s.atendiendo = none → Ubicados cfg ∅ s.kernel → Ubicados cfg ∅ s'.kernel)
    (hespera : ∀ a, s.atendiendo = some a → EnEspera cfg ∅ a.pid a.interfaz s.kernel →
      EnEspera cfg ∅ a.pid a.interfaz s'.kernel) : Situados cfg s' := by
  cases ha : s.atendiendo with
  | none => exact (situados_none (hat.trans ha)).2 (hlibre ha ((situados_none ha).1 h))
  | some a => exact (situados_some (hat.trans ha)).2 (hespera a ha ((situados_some ha).1 h))

/-- Every step in which no request is ended before its time keeps every process in its place. -/
theorem pasoIo_situados {ev : EventoIo} (h : Situados cfg s) (hc : NoSeAdelanta s ev)
    (hp : pasoIo cfg s ev = some s') : Situados cfg s' := by
  cases pasoIo_avanza hp with
  | kernel hotro hk =>
    exact h.mover rfl (fun _ hu => paso_ubicados hu hk) fun a ha he => he.paso ha hotro hk
  | pedir hnone _ hpid hk =>
    have hu := (situados_none hnone).1 h
    exact (situados_some rfl).2 (hu.empezarIo (hu.enEjecucion_iff.1 hpid) hk)
  | @enviar a _ _ ha _ hk =>
    obtain ⟨mensajes, -, rfl⟩ := enviarPedido_eq_some hk
    refine (situados_some (a := { a with enviado := true }) rfl).2 ?_
    exact ((situados_some ha).1 h).congr rfl rfl rfl rfl rfl
  | terminar ha _ => exact (situados_none rfl).2 ((situados_some ha).1 h).terminarIo
  | responder _ _ => exact h.mover rfl (fun _ hu => hu) fun _ _ he => he
  | @finDeIo _ idInterfaz _ _ _ _ hhilo hk =>
    exact h.mover rfl (fun _ hu => hu.finDeIo hk) fun a ha he =>
      he.finDeIo hk (hc a idInterfaz ha hhilo)
  | @conectar idInterfaz permitidas c _ =>
    exact h.mover rfl (fun _ hu => hu.conectarInterfaz idInterfaz permitidas c) fun _ _ he =>
      he.conectarInterfaz idInterfaz permitidas c

/-! ### States and queues -/

theorem Ubicados.coherentes (h : Ubicados cfg ∅ k) : Coherentes k where
  listos p hp := by
    rcases hp with hp | hp
    · obtain ⟨-, e, he, hl⟩ := h.estado_of_mem hp
      obtain rfl : e = .ready := estado_of_lugarDe hl
      exact Or.inl he
    · obtain ⟨-, e, he, hl⟩ := h.estado_of_mem hp
      obtain rfl : e = .readyM := estado_of_lugarDe hl
      exact Or.inr he
  bloqueados i p hp := by
    obtain ⟨-, e, he, hl⟩ := h.estado_of_mem hp
    obtain ⟨interfaz, rfl⟩ : ∃ interfaz, e = .blockIo interfaz := estado_of_lugarDe hl
    exact ⟨_, he, rfl⟩

/-- While a request is attended its process is in BLOCK already. -/
theorem EnEspera.coherentes (h : EnEspera cfg ∅ p interfaz k) : Coherentes k := by
  have hcon := h.ubicados.coherentes
  have hestado (q : ℕ) (hq : q ≠ p) :
      k.estado q = (k.conEstado p (.blockIo interfaz)).estado q := by
    rw [h.estado_conEstado, Function.update_of_ne hq]
  constructor
  · intro q hq
    rw [hestado q ?_]
    · exact hcon.listos q hq
    · rcases hq with hq | hq
      · exact h.ne_de_cola hq (by simp)
      · exact h.ne_de_cola hq (by simp)
  · intro i q hq
    by_cases hqp : q = p
    · exact ⟨.block, hqp ▸ h.estado, rfl⟩
    · rw [hestado q hqp]
      exact hcon.bloqueados i q hq

theorem Situados.coherentes (h : Situados cfg s) : Coherentes s.kernel := by
  cases ha : s.atendiendo with
  | none => exact ((situados_none ha).1 h).coherentes
  | some a => exact ((situados_some ha).1 h).coherentes

/-- A request that is answered and read before its end leaves its process ready and in BLOCK. -/
theorem EnEspera.terminar_pisa_el_estado {idInterfaz mensaje : Cadena}
    (h : EnEspera cfg ∅ a.pid a.interfaz k)
    (hmensaje : mensajesDeFin.any (stringEqualsIgnoreCase mensaje) = true)
    (hf : Kernel.finDeIo cfg k idInterfaz mensaje = some k')
    (hprimero : primeroDe k idInterfaz = some a.pid) :
    ¬ Coherentes (Kernel.terminarIo k' a) := by
  obtain ⟨i, q, resto, fin, hi, hcola, rfl⟩ := finDeIo_eq_some hmensaje hf
  obtain rfl : q = a.pid := by simpa [primeroDe, hi, hcola] using hprimero
  obtain ⟨l, e, -, hl, hcola', hlista⟩ := iniciar_cases cfg
    { k with cola := Function.update k.cola (.io i) resto } a.pid fin
  intro hcoherentes
  have hlen := h.vivo.2
  have hestado := estado_of_set (p := a.pid) (e := .blockIo a.interfaz) h.vivo.1
    (by rw [hlista, List.length_set]; exact hlen)
    (listaEstados_cambiarEstado (k := Kernel.iniciar cfg _ a.pid fin) (by simp))
  have hcoherente := hcoherentes.listos a.pid (by
    show a.pid ∈ (Kernel.iniciar cfg _ a.pid fin).cola .ready ∨
      a.pid ∈ (Kernel.iniciar cfg _ a.pid fin).cola .readyM
    rw [hcola']
    rcases hl with rfl | rfl <;> simp)
  change (Estado.cambiarEstado _ a.pid (.blockIo a.interfaz)).estado a.pid = _ ∨
    (Estado.cambiarEstado _ a.pid (.blockIo a.interfaz)).estado a.pid = _ at hcoherente
  rw [hestado] at hcoherente
  simp at hcoherente

/-- **The states are those of the queues** in every state of a run, if no interface's answer is
read before the request that it answers has been attended to its end. -/
theorem estados_de_las_colas (cfg : KernelConfiguracion) (evs : List EventoIo)
    (h : Meets (pasoIo cfg) NoSeAdelanta (EstadoIo.inicial cfg) evs) :
    Along (pasoIo cfg) (fun s => Coherentes s.kernel) (EstadoIo.inicial cfg) evs := by
  have h0 : Situados cfg (EstadoIo.inicial cfg) := (situados_none rfl).2 (ubicados_inicial cfg)
  apply (along_of_meets (fun s ev s' hs hc hp => pasoIo_situados hs hc hp) h0 h).imp
  intro s hs
  exact hs.coherentes

/-- The request of a process, answered after its end. -/
theorem estados_de_las_colas_uno :
    Along (pasoIo ⟨.FIFO, [], 1⟩) (fun s => Coherentes s.kernel) (EstadoIo.inicial ⟨.FIFO, [], 1⟩)
      ([.conectar "GEN".toList "IO_GEN_SLEEP".toList 7, .kernel (.iniciarProceso []),
        .kernel .iniciarPlanificacion, .kernel .administrarProcesosNew,
        .kernel (.replanificar "NEW".toList),
        .pedir "IO_GEN_SLEEP".toList ["GEN".toList, "10".toList], .enviar,
        .responder 7 "END_OF_IO_GEN_SLEEP".toList, .terminar] ++ [.finDeIo 7]) := by
  apply estados_de_las_colas
  apply (meets_of_forall (by simp [NoSeAdelanta]) _).append
  intro s hrun
  cases hrun
  exact fun t _ => ⟨by rintro a idInterfaz ⟨⟩, trivial⟩

/-- The end of the operation is read before the process gets its last state, which it keeps in
`cola_ready`. -/
theorem estados_de_las_colas_adelantado :
    ∃ s, run (pasoIo ⟨.FIFO, [], 1⟩) (EstadoIo.inicial ⟨.FIFO, [], 1⟩)
        [.conectar "GEN".toList "IO_GEN_SLEEP".toList 7, .kernel (.iniciarProceso []),
          .kernel .iniciarPlanificacion, .kernel .administrarProcesosNew,
          .kernel (.replanificar "NEW".toList),
          .pedir "IO_GEN_SLEEP".toList ["GEN".toList, "10".toList], .enviar,
          .responder 7 "END_OF_IO_GEN_SLEEP".toList, .finDeIo 7, .terminar] = some s ∧
      s.atendiendo = none ∧ 1 ∈ s.kernel.cola .ready ∧
      s.kernel.estado 1 = some (.blockIo "GEN".toList) :=
  ⟨_, rfl, rfl, by decide, rfl⟩

end SimuladorSO.Kernel
