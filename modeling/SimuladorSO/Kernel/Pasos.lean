import SimuladorSO.Kernel.Colas
import SimuladorSO.Library.Rounds

/-!
# The steps of the kernel

What can happen to the kernel, as one partial step function: requests of the process in EXEC,
dispatches once no process is in EXEC, admissions, messages of the interfaces, console commands, and
the flags that the other threads set.  Every step keeps `Ubicados`, so that no run loses or
duplicates a process.
-/

namespace SimuladorSO.Kernel

open Queues Transitions Commons Dictionary Rounds

/-- The process in EXEC, which is the head of `cola_exec`. -/
def Estado.enEjecucion (k : Estado) : Option ℕ :=
  k.colaExec.head?.filter fun p => k.estado p = some .exec

/-- What happens to the kernel. -/
inductive Evento
  /-- The console: `INICIAR_PROCESO`, `FINALIZAR_PROCESO`, and planning started or stopped. -/
  | iniciarProceso (path : Cadena)
  | finalizarProceso (pid : ℕ)
  | iniciarPlanificacion
  | detenerPlanificacion
  /-- An admission and a dispatch. -/
  | administrarProcesosNew
  | replanificar (motivo : Cadena)
  | enviarACpu
  /-- A packet and a message of the CPU. -/
  | paquete (motivo : Cadena) (lista : List Cadena)
  | finInstruccion
  /-- The quantum clock sets its flag. -/
  | quantum (finPorQuantum : Bool)
  /-- An interface connects, and sends a message. -/
  | conectarInterfaz (idInterfaz instruccionesPermitidas : Cadena) (conexion : ℤ)
  | finDeIo (idInterfaz mensaje : Cadena)

variable (cfg : KernelConfiguracion)

/-- One step.  Packets come from the process in EXEC, and `replanificar` is called once there is
none.  A call that a thread has made is over then. -/
def paso (k : Estado) : Evento → Option Estado
  | .iniciarProceso path => some (iniciarProceso k path)
  | .finalizarProceso pid => finalizarProceso cfg k pid
  | .iniciarPlanificacion => some { k with semPlanificacion := k.semPlanificacion + 1 }
  | .detenerPlanificacion =>
    if k.semPlanificacion = 0 then none
    else some { k with semPlanificacion := k.semPlanificacion - 1 }
  | .administrarProcesosNew => administrarProcesosNew k
  | .replanificar motivo =>
    if k.enEjecucion.isSome then none
    else replanificar cfg { k with porReplanificar := k.porReplanificar.erase motivo } motivo
  | .enviarACpu => (enviarACpu k).map Prod.fst
  | .paquete motivo lista =>
    k.enEjecucion.bind fun pid => recibirPaqueteCpu cfg k pid motivo lista
  | .finInstruccion => some (recibirMensajeCpu k).1
  | .quantum finPorQuantum => some { k with finPorQuantum := finPorQuantum }
  | .conectarInterfaz idInterfaz instruccionesPermitidas conexion =>
    some (conectarInterfaz k idInterfaz instruccionesPermitidas conexion)
  | .finDeIo idInterfaz mensaje => finDeIo cfg k idInterfaz mensaje

variable {cfg} {fuera : Finset ℕ} {k k' : Estado} {p : ℕ} {l : Lugar}

theorem Ubicados.enEjecucion_iff (h : Ubicados cfg ∅ k) :
    k.enEjecucion = some p ↔ k.estado p = some .exec := by
  unfold Estado.enEjecucion
  rw [Option.filter_eq_some_iff]
  constructor
  · rintro ⟨-, hs⟩
    exact of_decide_eq_true hs
  · exact fun hs => ⟨h.exec p (Finset.notMem_empty p) hs, decide_eq_true hs⟩

theorem Ubicados.sin_exec (h : Ubicados cfg ∅ k) (hn : k.enEjecucion.isSome = false) (q : ℕ) :
    k.estado q ≠ some .exec := by
  intro hs
  rw [h.enEjecucion_iff.2 hs] at hn
  cases hn

/-! ### Creation, admission and dispatch -/

/-- A new process gets a pid that no process has. -/
theorem Ubicados.iniciarProceso_estado (h : Ubicados cfg ∅ k) (path : Cadena) :
    k.estado k.contadorPid = none ∧ (Kernel.iniciarProceso k path).estado =
      Function.update k.estado k.contadorPid (some .new) := by
  refine ⟨?_, ?_⟩
  · have hiff := h.vivo_iff k.contadorPid
    simpa using hiff
  · rw [← h.creados]
    exact estado_cambiarEstado_new _ 0

theorem Ubicados.iniciarProceso (h : Ubicados cfg ∅ k) (path : Cadena) :
    Ubicados cfg ∅ (iniciarProceso k path) := by
  have hc := h.creados
  obtain ⟨hnone, hest⟩ := h.iniciarProceso_estado path
  refine ⟨?_, fun q hq => absurd hq (Finset.notMem_empty q), ?_, fun q _ hs => ?_,
    fun q _ e hs => ?_⟩
  · simp only [Kernel.iniciarProceso, Estado.cambiarEstado, Estado.encolar, if_true,
      List.length_append, List.length_singleton]
    omega
  · have hpush := h.colocados.push (p := k.contadorPid) (by simp [Estado.lugar, hnone]) .new
    have hcola : (Kernel.iniciarProceso k path).cola =
        Function.update k.cola .new (k.cola .new ++ [k.contadorPid]) := rfl
    rw [hcola]
    convert hpush using 1
    funext q
    by_cases hq : q = k.contadorPid
    · simp [hq, Estado.lugar, hest, lugarDe]
    · have hint : (Kernel.iniciarProceso k path).interfaces = k.interfaces := rfl
      simp [hq, Estado.lugar, hest, hint]
  · rw [hest, Function.update_apply] at hs
    split_ifs at hs with hqp
    · cases hs
    · exact h.exec q (Finset.notMem_empty q) hs
  · rw [hest, Function.update_apply] at hs
    split_ifs at hs with hqp
    · cases hs
      exact Or.inr rfl
    · exact h.lugares q (Finset.notMem_empty q) e hs

/-- What an admission does, when it comes back. -/
theorem administrarProcesosNew_eq_some (h : administrarProcesosNew k = some k') :
    ∃ q k₁ pendientes primero, k.semHayProcesosEnNew ≠ 0 ∧ k.semMultiprogramacion ≠ 0 ∧
      k.desencolar .new = some (q, k₁) ∧
      (pendientes = k.porReplanificar ++ (if k.esPrimerProceso then ["NEW".toList] else []) ∧
        primero = false) ∧
      k' = { ({ k₁.encolar .ready q with
          listaPidsReady := k.listaPidsReady ++ [q] }.cambiarEstado q .ready) with
        semHayProcesosEnNew := k.semHayProcesosEnNew - 1
        semMultiprogramacion := k.semMultiprogramacion - 1
        semProcesosEnReady := k.semProcesosEnReady + 1
        porReplanificar := pendientes
        esPrimerProceso := primero } := by
  unfold administrarProcesosNew at h
  split_ifs at h with hsem
  obtain ⟨⟨q, k₁⟩, hd, heq⟩ := Option.map_eq_some_iff.1 h
  obtain ⟨resto, hq, rfl⟩ := desencolar_eq_some hd
  have hd' : k.desencolar .new =
      some (q, { k with cola := Function.update k.cola .new resto }) := by
    have hq' : k.cola .new = q :: resto := hq
    simp only [Estado.desencolar, hq']
  dsimp only at heq
  split_ifs at heq with hprimero
  · have hprimero : k.esPrimerProceso = true := hprimero
    exact ⟨q, _, _, _, by omega, by omega, hd', ⟨by rw [hprimero]; rfl, rfl⟩, heq.symm⟩
  · have hprimero : k.esPrimerProceso = false := Bool.eq_false_iff.2 hprimero
    exact ⟨q, _, _, _, by omega, by omega, hd', ⟨by rw [hprimero]; exact (List.append_nil _).symm,
      hprimero⟩, heq.symm⟩

theorem Ubicados.administrarProcesosNew (h : Ubicados cfg ∅ k)
    (ha : administrarProcesosNew k = some k') : Ubicados cfg ∅ k' := by
  obtain ⟨q, k₁, pendientes, primero, -, -, hd, -, rfl⟩ := administrarProcesosNew_eq_some ha
  obtain ⟨hq, -, hsacado⟩ := h.desencolar hd
  exact hsacado.poner (e := .ready) (l := .ready) hq rfl rfl rfl rfl rfl rfl

/-- What `replanificar` does up to the choice of the queue, when it comes back. -/
theorem empezarReplanificacion_eq_some {motivo : Cadena}
    (h : empezarReplanificacion cfg k motivo = some (k', l)) :
    ∃ quantum, k' = { k with
      semPlanificacion := k.semPlanificacion - 1
      semReplanificacionQuantum := quantum } ∧ (l = .ready ∨ l = .readyM) ∧
      quantum + (stringEqualsIgnoreCase motivo "QUANTUM".toList).toNat =
        k.semReplanificacionQuantum := by
  have helegir : ∀ k : Estado, elegirCola cfg k motivo = .ready ∨
      elegirCola cfg k motivo = .readyM := by
    intro k
    unfold elegirCola
    split_ifs
    · exact Or.inr rfl
    · exact Or.inl rfl
  unfold empezarReplanificacion at h
  rcases ite_eq_iff.1 h with ⟨-, h⟩ | ⟨-, h⟩
  · cases h
  dsimp only at h
  cases hq : stringEqualsIgnoreCase motivo "QUANTUM".toList with
  | true =>
    rw [hq, if_pos rfl] at h
    split_ifs at h with hsem
    cases h
    exact ⟨_, rfl, helegir _, Nat.sub_add_cancel (Nat.one_le_iff_ne_zero.2 hsem)⟩
  | false =>
    rw [hq, if_neg Bool.false_ne_true] at h
    cases h
    exact ⟨_, rfl, helegir _, rfl⟩

/-- What `replanificar` does from then on, when it comes back. -/
theorem terminarReplanificacion_eq_some (h : terminarReplanificacion k l = some k') :
    ∃ q k₁, (l = .readyM ∧ k.semProcesosEnReadyM ≠ 0 ∧
        { k with semProcesosEnReadyM := k.semProcesosEnReadyM - 1 }.desencolar .readyM =
          some (q, k₁) ∧
        k' = pasarAExec { k₁ with listaPidsReadyM := k₁.listaPidsReadyM.tail } q) ∨
      (l ≠ .readyM ∧ k.semProcesosEnReady ≠ 0 ∧
        { k with semProcesosEnReady := k.semProcesosEnReady - 1 }.desencolar .ready =
          some (q, k₁) ∧
        k' = pasarAExec { k₁ with listaPidsReady := k₁.listaPidsReady.tail } q) := by
  unfold terminarReplanificacion at h
  split_ifs at h with hl hsem hsem
  · obtain ⟨⟨q, k₁⟩, hd, rfl⟩ := Option.map_eq_some_iff.1 h
    exact ⟨q, k₁, Or.inl ⟨hl, hsem, hd, rfl⟩⟩
  · obtain ⟨⟨q, k₁⟩, hd, rfl⟩ := Option.map_eq_some_iff.1 h
    exact ⟨q, k₁, Or.inr ⟨hl, hsem, hd, rfl⟩⟩

/-- Whichever queue it chose, it takes the first process of a ready queue and puts it in EXEC. -/
theorem terminarReplanificacion_desencola (h : terminarReplanificacion k l = some k') :
    ∃ m q k₁ permisosReady permisosReadyM pidsReady pidsReadyM, (m = .ready ∨ m = .readyM) ∧
      k.desencolar m = some (q, k₁) ∧
      k' = pasarAExec { k₁ with
        semProcesosEnReady := permisosReady
        semProcesosEnReadyM := permisosReadyM
        listaPidsReady := pidsReady
        listaPidsReadyM := pidsReadyM } q := by
  have hdesencolar {m : Lugar} {q : ℕ} {resto : List ℕ} (hq : k.cola m = q :: resto) :
      k.desencolar m = some (q, { k with cola := Function.update k.cola m resto }) := by
    simp only [Estado.desencolar, hq]
  obtain ⟨q, k₁, ⟨-, -, hd, rfl⟩ | ⟨-, -, hd, rfl⟩⟩ := terminarReplanificacion_eq_some h
  · obtain ⟨resto, hq, rfl⟩ := desencolar_eq_some hd
    exact ⟨.readyM, q, _, _, _, _, _, Or.inr rfl, hdesencolar hq, rfl⟩
  · obtain ⟨resto, hq, rfl⟩ := desencolar_eq_some hd
    exact ⟨.ready, q, _, _, _, _, _, Or.inl rfl, hdesencolar hq, rfl⟩

theorem Ubicados.pasarAExec {q : ℕ} (h : Ubicados cfg (insert q ∅) k)
    (hn : ∀ r, r ≠ q → k.estado r ≠ some .exec) : Ubicados cfg ∅ (pasarAExec k q) :=
  h.ponerExec (Finset.notMem_empty q) (fun r hr _ => hn r hr) rfl rfl rfl rfl rfl

/-- What `replanificar` does, when it comes back: its first part takes permits only. -/
theorem replanificar_eq_some {motivo : Cadena} (h : replanificar cfg k motivo = some k') :
    ∃ quantum l, terminarReplanificacion { k with
      semPlanificacion := k.semPlanificacion - 1
      semReplanificacionQuantum := quantum } l = some k' := by
  obtain ⟨⟨k₁, l⟩, he, ht⟩ := Option.bind_eq_some_iff.1 h
  obtain ⟨quantum, rfl, -⟩ := empezarReplanificacion_eq_some he
  exact ⟨quantum, l, ht⟩

theorem Ubicados.terminarReplanificacion (h : Ubicados cfg ∅ k)
    (hn : ∀ q, k.estado q ≠ some .exec) (ht : terminarReplanificacion k l = some k') :
    Ubicados cfg ∅ k' := by
  obtain ⟨m, q, k₁, _, _, _, _, -, hd, rfl⟩ := terminarReplanificacion_desencola ht
  obtain ⟨-, -, hsacado⟩ := h.desencolar hd
  obtain ⟨resto, -, rfl⟩ := desencolar_eq_some hd
  exact Ubicados.pasarAExec (hsacado.congr rfl rfl rfl rfl rfl) fun r _ => hn r

theorem Ubicados.replanificar {motivo : Cadena} (h : Ubicados cfg ∅ k)
    (hn : ∀ q, k.estado q ≠ some .exec) (hr : replanificar cfg k motivo = some k') :
    Ubicados cfg ∅ k' := by
  obtain ⟨quantum, l, ht⟩ := replanificar_eq_some hr
  have h₀ : Ubicados cfg ∅ { k with
      semPlanificacion := k.semPlanificacion - 1
      semReplanificacionQuantum := quantum } := h.congr rfl rfl rfl rfl rfl
  exact h₀.terminarReplanificacion hn ht

/-! ### Interfaces -/

theorem encontrarCola_append {interfaces : List Cadena} {interfaz : Cadena} {i : ℕ}
    (h : encontrarCola interfaces interfaz = some i) (nueva : Cadena) :
    encontrarCola (interfaces ++ [nueva]) interfaz = some i := by
  unfold encontrarCola at h ⊢
  rw [List.findIdx?_append, h]
  rfl

theorem encontrarCola_lt {interfaces : List Cadena} {interfaz : Cadena} {i : ℕ}
    (h : encontrarCola interfaces interfaz = some i) : i < interfaces.length :=
  (List.findIdx?_eq_some_iff_getElem.1 h).1

/-- A new interface has a new queue, in which no process can be. -/
theorem Ubicados.cola_io_nueva (h : Ubicados cfg ∅ k) : k.cola (.io k.interfaces.length) = [] := by
  rw [List.eq_nil_iff_forall_not_mem]
  intro q hq
  obtain ⟨-, e, -, he⟩ := h.estado_of_mem hq
  obtain ⟨interfaz, rfl⟩ : ∃ interfaz, e = .blockIo interfaz := estado_of_lugarDe he
  obtain ⟨i, hi, heq⟩ := Option.map_eq_some_iff.1 he
  have hlt := encontrarCola_lt hi
  injection heq with heq
  omega

/-- The interfaces may change, as long as the names of states keep their queues. -/
theorem Ubicados.congr_interfaces (h : Ubicados cfg ∅ k) (hcola : k'.cola = k.cola)
    (hexec : k'.colaExec = k.colaExec) (hlista : k'.listaEstados = k.listaEstados)
    (hcont : k'.contadorPid = k.contadorPid)
    (hint : ∀ e l, lugarDe cfg k.interfaces e = some l → lugarDe cfg k'.interfaces e = some l) :
    Ubicados cfg ∅ k' := by
  have hest := estado_of_listaEstados hlista
  have hlugarDe : ∀ q e, k.estado q = some e →
      lugarDe cfg k'.interfaces e = lugarDe cfg k.interfaces e := by
    intro q e hq
    rcases h.lugares q (Finset.notMem_empty q) e hq with rfl | hsome
    · rfl
    · obtain ⟨i, hi⟩ := Option.isSome_iff_exists.1 hsome
      rw [hi, hint e i hi]
  have hlugar : k'.lugar cfg = k.lugar cfg := by
    funext q
    simp only [Estado.lugar, hest]
    cases hq : k.estado q with
    | none => rfl
    | some e => exact hlugarDe q e hq
  refine ⟨by rw [hlista, hcont]; exact h.creados, by rw [hcont]; exact h.vivos, ?_,
    by rw [hest, hexec]; exact h.exec, fun q hq e hs => ?_⟩
  · rw [hcola, hlugar]
    exact h.colocados
  · rw [hest] at hs
    rw [hlugarDe q e hs]
    exact h.lugares q hq e hs

theorem Ubicados.conectarInterfaz (h : Ubicados cfg ∅ k) (idInterfaz permitidas : Cadena)
    (conexion : ℤ) : Ubicados cfg ∅ (conectarInterfaz k idInterfaz permitidas conexion) := by
  unfold Kernel.conectarInterfaz
  dsimp only
  split_ifs with hya
  · exact h.congr rfl rfl rfl rfl rfl
  refine h.congr_interfaces ?_ rfl rfl rfl fun e l he => ?_
  · show Function.update k.cola (.io k.interfaces.length) [] = k.cola
    rw [← h.cola_io_nueva, Function.update_eq_self]
  · -- `list_find` still stops at the old element
    cases e with
    | blockIo interfaz =>
      obtain ⟨j, hj, heq⟩ := Option.map_eq_some_iff.1 he
      exact Option.map_eq_some_iff.2 ⟨j, encontrarCola_append hj _, heq⟩
    | _ => exact he

/-- A message of an interface is not one of those that end an operation, or wakes up the head of the
queue. -/
theorem finDeIo_cases {idInterfaz mensaje : Cadena}
    (h : finDeIo cfg k idInterfaz mensaje = some k') :
    k' = k ∨ ∃ i, ∃ fin ∈ mensajesDeFin, encontrarCola k.interfaces idInterfaz = some i ∧
      desbloquear cfg k (.io i) fin = some k' := by
  unfold finDeIo at h
  split at h
  · exact Or.inl (Option.some.inj h).symm
  · rename_i fin hfin
    obtain ⟨i, hi, hd⟩ := Option.bind_eq_some_iff.1 h
    exact Or.inr ⟨i, fin, List.mem_of_find?_eq_some hfin, hi, hd⟩

theorem Ubicados.finDeIo {idInterfaz mensaje : Cadena} (h : Ubicados cfg ∅ k)
    (hf : finDeIo cfg k idInterfaz mensaje = some k') : Ubicados cfg ∅ k' := by
  rcases finDeIo_cases hf with rfl | ⟨i, fin, -, -, hd⟩
  · exact h
  · exact h.desbloquear hd

/-! ### The end of a process by the user -/

theorem rotar_eq_turn (p : ℕ) : rotar p = turn (· == p) fun _ _ => true := by
  funext s
  obtain ⟨_ | ⟨q, resto⟩, encontrado⟩ := s
  · rfl
  · simp only [rotar, turn, beq_iff_eq]

/-- `pcb_en_cola` finds a process that is there. -/
theorem pcbEnCola_eq (cola : List ℕ) (p : ℕ) :
    pcbEnCola cola p = if p ∈ cola then some (cola.filter fun q => q != p) else none := by
  have hround := iterate_turn (· == p) (fun _ _ => true) cola [] false
  rw [List.append_nil, List.nil_append, ← rotar_eq_turn] at hround
  -- the flag is set by the first element gathered
  have hflag : ((cola.filter (· == p)).foldl (fun _ _ => true) false) = decide (p ∈ cola) := by
    rw [List.filter_beq]
    cases hcount : cola.count p with
    | zero => exact (decide_eq_false (List.count_eq_zero.1 hcount)).symm
    | succ n =>
      rw [decide_eq_true (List.count_pos_iff.1 (by omega)), List.replicate_succ', List.foldl_append]
      rfl
  unfold pcbEnCola
  rw [hround, hflag]
  simp only [decide_eq_true_eq]
  rfl

/-- `pcb_en_cola` takes a process out of a queue without duplicates. -/
theorem pcbEnCola_eq_some {cola resto : List ℕ} (hnodup : cola.Nodup)
    (h : pcbEnCola cola p = some resto) : p ∈ cola ∧ resto = cola.erase p := by
  rw [pcbEnCola_eq] at h
  split_ifs at h with hp
  refine ⟨hp, ?_⟩
  rw [hnodup.erase_eq_filter]
  exact (Option.some.inj h).symm

/-- What taking a process out of a queue does, when it is there. -/
theorem sacarDe_eq_some (hnodup : (k.cola l).Nodup) (h : k.sacarDe l p = some k') :
    p ∈ k.cola l ∧ k' = { k with cola := Function.update k.cola l ((k.cola l).erase p) } := by
  obtain ⟨resto, hresto, rfl⟩ := Option.map_eq_some_iff.1 h
  obtain ⟨hp, rfl⟩ := pcbEnCola_eq_some hnodup hresto
  exact ⟨hp, rfl⟩

theorem Ubicados.sacarDe (h : Ubicados cfg ∅ k) (hs : k.sacarDe l p = some k') :
    Ubicados cfg (insert p ∅) k' := by
  obtain ⟨hp, rfl⟩ := sacarDe_eq_some (h.colocados.nodup l) hs
  have hlugar := (h.colocados.mem_iff l p).1 hp
  exact h.sacar (Finset.notMem_empty p) (by simpa using hlugar) rfl rfl rfl rfl rfl

/-- Taking a process out of one queue takes it out of all. -/
theorem Ubicados.cola_sacarDe (h : Ubicados cfg ∅ k) (hs : k.sacarDe l p = some k') (m : Lugar) :
    k'.cola m = (k.cola m).erase p := by
  obtain ⟨hp, rfl⟩ := sacarDe_eq_some (h.colocados.nodup l) hs
  show Function.update k.cola l ((k.cola l).erase p) m = _
  rw [Function.update_apply]
  split_ifs with hm
  · rw [hm]
  · refine (List.erase_of_not_mem fun hpm => hm ?_).symm
    exact h.colocados.eq_of_mem hpm hp

/-- What `encontrar_pcb` does, when it comes back, by the state of the process. -/
theorem encontrarPcb_cases (h : encontrarPcb cfg k p = some k') :
    (k.estado p = some .new ∧ k.sacarDe .new p = some k') ∨
    (k.estado p = some .ready ∧
      { k with semMultiprogramacion := k.semMultiprogramacion + 1 }.sacarDe .ready p = some k') ∨
    (k.estado p = some .readyM ∧
      { k with semMultiprogramacion := k.semMultiprogramacion + 1 }.sacarDe .readyM p =
        some k') ∨
    (k.estado p = some .exec ∧ ∃ resto, pcbEnCola k.colaExec p = some resto ∧
      k' = { k with
        semMultiprogramacion := k.semMultiprogramacion + 1
        colaExec := resto }) ∨
    (∃ i, k.semHayProceso i ≠ 0 ∧
      { k with semHayProceso :=
        Function.update k.semHayProceso i (k.semHayProceso i - 1) }.sacarDe (.io i) p = some k') ∨
    ∃ e i k₁, k.estado p = some e ∧ e ≠ .new ∧ e ≠ .ready ∧ e ≠ .readyM ∧ e ≠ .exec ∧
      encontrarColaRecurso cfg (ultimaPalabra e.texto) = some i ∧
      k.sacarDe (.recurso i) p = some k₁ ∧
      quitarDeListaRecursosRetenidos { k₁ with
        instanciasRecurso := Function.update k₁.instanciasRecurso i (k₁.instanciasRecurso i + 1) }
        (ultimaPalabra e.texto) p = some k' := by
  unfold encontrarPcb at h
  dsimp only at h
  split at h
  · cases h
  · rename_i hs
    exact Or.inl ⟨hs, h⟩
  · rename_i hs
    exact Or.inr (Or.inl ⟨hs, h⟩)
  · rename_i hs
    exact Or.inr (Or.inr (Or.inl ⟨hs, h⟩))
  · rename_i hs
    obtain ⟨resto, hresto, heq⟩ := Option.map_eq_some_iff.1 h
    exact Or.inr (Or.inr (Or.inr (Or.inl ⟨hs, resto, hresto, heq.symm⟩)))
  · rename_i e hnew hready hreadyM hexec hs
    split_ifs at h with hio
    · obtain ⟨i, -, h⟩ := Option.bind_eq_some_iff.1 h
      split_ifs at h with hsem
      exact Or.inr (Or.inr (Or.inr (Or.inr (Or.inl ⟨i, hsem, h⟩))))
    · obtain ⟨i, hi, h⟩ := Option.bind_eq_some_iff.1 h
      obtain ⟨k₁, hk₁, h⟩ := Option.bind_eq_some_iff.1 h
      exact Or.inr (Or.inr (Or.inr (Or.inr (Or.inr ⟨e, i, k₁, hs, fun he => hnew (he ▸ rfl),
        fun he => hready (he ▸ rfl), fun he => hreadyM (he ▸ rfl), fun he => hexec (he ▸ rfl),
        hi, hk₁, h⟩))))

/-- It changes queues, resources and two kinds of permits, and nothing else. -/
theorem encontrarPcb_eq_some (h : encontrarPcb cfg k p = some k') :
    ∃ cola colaExec admisiones permisosIo instancias retenidos, k' = { k with
      cola := cola
      colaExec := colaExec
      semMultiprogramacion := admisiones
      semHayProceso := permisosIo
      instanciasRecurso := instancias
      listaRecursosRetenidos := retenidos } := by
  have hsacar {k₀ k₁ : Estado} {l : Lugar} (hs : k₀.sacarDe l p = some k₁) :
      ∃ cola, k₁ = { k₀ with cola := cola } := by
    obtain ⟨resto, -, rfl⟩ := Option.map_eq_some_iff.1 hs
    exact ⟨_, rfl⟩
  rcases encontrarPcb_cases h with ⟨-, hs⟩ | ⟨-, hs⟩ | ⟨-, hs⟩ | ⟨-, resto, -, rfl⟩ |
    ⟨i, -, hs⟩ | ⟨e, i, k₁, -, -, -, -, -, -, hs, hq⟩
  · obtain ⟨cola, rfl⟩ := hsacar hs
    exact ⟨_, _, _, _, _, _, rfl⟩
  · obtain ⟨cola, rfl⟩ := hsacar hs
    exact ⟨_, _, _, _, _, _, rfl⟩
  · obtain ⟨cola, rfl⟩ := hsacar hs
    exact ⟨_, _, _, _, _, _, rfl⟩
  · exact ⟨_, _, _, _, _, _, rfl⟩
  · obtain ⟨cola, rfl⟩ := hsacar hs
    exact ⟨_, _, _, _, _, _, rfl⟩
  · obtain ⟨-, rfl⟩ := quitar_eq_some hq
    obtain ⟨cola, rfl⟩ := hsacar hs
    exact ⟨_, _, _, _, _, _, rfl⟩

theorem Ubicados.encontrarPcb (h : Ubicados cfg ∅ k) (he : encontrarPcb cfg k p = some k') :
    Ubicados cfg (insert p ∅) k' := by
  have hadmitido : Ubicados cfg ∅ { k with
      semMultiprogramacion := k.semMultiprogramacion + 1 } := h.congr rfl rfl rfl rfl rfl
  rcases encontrarPcb_cases he with ⟨-, hs⟩ | ⟨-, hs⟩ | ⟨-, hs⟩ | ⟨hexec, resto, -, rfl⟩ |
    ⟨i, -, hs⟩ | ⟨e, i, k₁, -, -, -, -, -, -, hs, hq⟩
  · exact h.sacarDe hs
  · exact hadmitido.sacarDe hs
  · exact hadmitido.sacarDe hs
  · have hapartado := hadmitido.apartar (p := p) hexec
    refine ⟨hapartado.creados, hapartado.vivos, hapartado.colocados, fun q hq hs => ?_,
      hapartado.lugares⟩
    -- no other process is in EXEC
    have hp := h.exec p (Finset.notMem_empty p) hexec
    have hqhead := h.exec q (Finset.notMem_empty q) hs
    rw [hp] at hqhead
    exact absurd (Option.some.inj hqhead).symm (by simpa using hq)
  · have h₀ : Ubicados cfg ∅ { k with
        semHayProceso := Function.update k.semHayProceso i (k.semHayProceso i - 1) } :=
      h.congr rfl rfl rfl rfl rfl
    exact h₀.sacarDe hs
  · obtain ⟨-, rfl⟩ := quitar_eq_some hq
    exact (h.sacarDe hs).congr rfl rfl rfl rfl rfl

/-- What `FINALIZAR_PROCESO` does, when it comes back. -/
theorem finalizarProceso_eq_some (h : finalizarProceso cfg k p = some k') :
    ∃ k₁ mensajes, encontrarPcb cfg k p = some k₁ ∧
      exitPrima cfg { k₁ with enviados := mensajes } p = some k' := by
  obtain ⟨k₁, he, h⟩ := Option.bind_eq_some_iff.1 h
  dsimp only at h
  split_ifs at h
  · exact ⟨k₁, _, he, h⟩
  · exact ⟨k₁, k₁.enviados, he, h⟩

theorem Ubicados.finalizarProceso (h : Ubicados cfg ∅ k)
    (hf : finalizarProceso cfg k p = some k') : Ubicados cfg ∅ k' := by
  obtain ⟨k₁, mensajes, he, hexit⟩ := finalizarProceso_eq_some hf
  have h₁ : Ubicados cfg (insert p ∅) { k₁ with enviados := mensajes } :=
    (h.encontrarPcb he).congr rfl rfl rfl rfl rfl
  exact h₁.exitPrima (Finset.notMem_empty p) hexit

/-! ### Every step -/

theorem detenerPlanificacion_eq_some (h : paso cfg k .detenerPlanificacion = some k') :
    k.semPlanificacion ≠ 0 ∧ k' = { k with semPlanificacion := k.semPlanificacion - 1 } := by
  simp only [paso] at h
  split_ifs at h with hsem
  exact ⟨hsem, (Option.some.inj h).symm⟩

/-- `replanificar` is called when no process is in EXEC. -/
theorem paso_replanificar_eq_some {motivo : Cadena}
    (h : paso cfg k (.replanificar motivo) = some k') :
    k.enEjecucion.isSome = false ∧ replanificar cfg
      { k with porReplanificar := k.porReplanificar.erase motivo } motivo = some k' := by
  simp only [paso] at h
  split_ifs at h with hexec
  exact ⟨by simpa using hexec, h⟩

/-- The packet with the PCB goes to the CPU, which may run it. -/
theorem enviarACpu_eq_some (h : paso cfg k .enviarACpu = some k') :
    k.semEjecutar ≠ 0 ∧
      k' = { k with semEjecutar := k.semEjecutar - 1, desalojaPorInstruccion := false } := by
  obtain ⟨⟨k₁, pid⟩, he, rfl⟩ := Option.map_eq_some_iff.1 h
  unfold enviarACpu at he
  split_ifs at he with hsem
  obtain ⟨q, -, heq⟩ := Option.map_eq_some_iff.1 he
  cases heq
  exact ⟨hsem, rfl⟩

/-- A packet of the CPU is a request of the process in EXEC. -/
theorem paquete_eq_some {motivo : Cadena} {lista : List Cadena}
    (h : paso cfg k (.paquete motivo lista) = some k') :
    ∃ pid, k.enEjecucion = some pid ∧
      atenderSolicitudCpu cfg { k with motivo := motivo } lista pid motivo = some k' := by
  obtain ⟨pid, hpid, hr⟩ := Option.bind_eq_some_iff.1 h
  unfold recibirPaqueteCpu at hr
  split_ifs at hr
  exact ⟨pid, hpid, hr⟩

/-- At start-up there are no processes. -/
theorem ubicados_inicial (cfg : KernelConfiguracion) : Ubicados cfg ∅ (Estado.inicial cfg) where
  creados := rfl
  vivos p hp := absurd hp (Finset.notMem_empty p)
  colocados := by
    have hlugar : ∀ p, (Estado.inicial cfg).lugar cfg p = none := by
      intro p
      cases p <;> rfl
    simp only [Finset.notMem_empty, if_false, hlugar]
    exact Placed.empty
  exec p _ hs := by cases p <;> cases hs
  lugares p _ e hs := by cases p <;> cases hs

/-- Every step keeps every process in one place. -/
theorem paso_ubicados (h : Ubicados cfg ∅ k) {ev : Evento} (hp : paso cfg k ev = some k') :
    Ubicados cfg ∅ k' := by
  cases ev with
  | iniciarProceso path =>
    cases hp
    exact h.iniciarProceso path
  | finalizarProceso pid => exact h.finalizarProceso hp
  | iniciarPlanificacion =>
    cases hp
    exact h.congr rfl rfl rfl rfl rfl
  | detenerPlanificacion =>
    obtain ⟨-, rfl⟩ := detenerPlanificacion_eq_some hp
    exact h.congr rfl rfl rfl rfl rfl
  | administrarProcesosNew => exact h.administrarProcesosNew hp
  | replanificar motivo =>
    obtain ⟨hn, hr⟩ := paso_replanificar_eq_some hp
    have h₀ : Ubicados cfg ∅ { k with porReplanificar := k.porReplanificar.erase motivo } :=
      h.congr rfl rfl rfl rfl rfl
    exact h₀.replanificar (h.sin_exec hn) hr
  | enviarACpu =>
    obtain ⟨-, rfl⟩ := enviarACpu_eq_some hp
    exact h.congr rfl rfl rfl rfl rfl
  | paquete motivo lista =>
    obtain ⟨pid, hpid, hr⟩ := paquete_eq_some hp
    have h₀ : Ubicados cfg ∅ { k with motivo := motivo } := h.congr rfl rfl rfl rfl rfl
    exact h₀.atenderSolicitudCpu (h.enEjecucion_iff.1 hpid) hr
  | finInstruccion =>
    cases hp
    unfold recibirMensajeCpu
    split_ifs <;> exact h.congr rfl rfl rfl rfl rfl
  | quantum finPorQuantum =>
    cases hp
    exact h.congr rfl rfl rfl rfl rfl
  | conectarInterfaz idInterfaz permitidas conexion =>
    cases hp
    exact h.conectarInterfaz idInterfaz permitidas conexion
  | finDeIo idInterfaz mensaje => exact h.finDeIo hp

/-- Every state of the kernel that can be reached keeps every process in one place. -/
theorem ubicados_of_reachable (h : Reachable (paso cfg) (Estado.inicial cfg) k) :
    Ubicados cfg ∅ k :=
  h.induct (P := Ubicados cfg ∅) (ubicados_inicial cfg) fun _ _ _ hk hstep => paso_ubicados hk hstep

end SimuladorSO.Kernel
