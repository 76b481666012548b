import SimuladorSO.Library.Channels
import SimuladorSO.Kernel.Envios
import SimuladorSO.Kernel.Semaforos

/-!
# The order in which processes get the CPU

`replanificar` takes the head of a ready queue, and processes come in at the end: each ready queue is
served in order.  A new process comes in at the end of `cola_ready` after those that were created
before it, and stays behind them until it gets the CPU for the first time, whatever comes in between.

* `despachado`, `despachados`: the process that a step gives the CPU, and takes out of one queue;
* `listos_en_orden`: each ready queue is served in order, along every run;
* `primeros_turnos`: processes get the CPU for the first time in the order of their creation.

The processes that the console ends are left out.
-/

namespace SimuladorSO.Kernel

open Queues Transitions Commons

variable (cfg : KernelConfiguracion)

/-- The process that the step gives the CPU. -/
def despachado (k : Estado) : Evento → List ℕ
  | .replanificar motivo => (k.cola (elegirCola cfg k motivo)).head?.toList
  | _ => []

/-- The process that the step takes out of a ready queue and gives the CPU. -/
def despachados (l : Lugar) (k : Estado) : Evento → List ℕ
  | .replanificar motivo =>
    if elegirCola cfg k motivo = l then (k.cola l).head?.toList else []
  | _ => []

/-- The process that the console ends in the step. -/
def finalizado : Evento → List ℕ
  | .finalizarProceso pid => [pid]
  | _ => []

/-- The console does not end the process in these steps. -/
def sinFinalizar (evs : List Evento) (p : ℕ) : Bool :=
  evs.all fun ev => match ev with
    | .finalizarProceso q => q != p
    | _ => true

/-- What a step does to the new and the ready queues. -/
inductive MueveListas (k k' : Estado) : Evento → Prop
  | crea (path : Cadena)
      (hcola : k'.cola = Function.update k.cola .new (k.cola .new ++ [k.contadorPid]))
      (hpid : k'.contadorPid = k.contadorPid + 1) : MueveListas k k' (.iniciarProceso path)
  | admite {p : ℕ} {resto : List ℕ} (hnew : k.cola .new = p :: resto)
      (hcola : k'.cola = Function.update (Function.update k.cola .new resto) .ready
        (k.cola .ready ++ [p]))
      (hpid : k'.contadorPid = k.contadorPid) : MueveListas k k' .administrarProcesosNew
  | despacha {motivo : Cadena} {l : Lugar} {p : ℕ} {resto : List ℕ}
      (hl : elegirCola cfg k motivo = l) (hlista : k.cola l = p :: resto)
      (hcola : k'.cola = Function.update k.cola l resto) (hexec : k'.colaExec = [p])
      (hpid : k'.contadorPid = k.contadorPid) : MueveListas k k' (.replanificar motivo)
  | finaliza {p : ℕ} {k₁ : Estado} (hcolas : ∀ l, k₁.cola l = (k.cola l).erase p)
      (hlleg : Llegadas k₁ k') (hpid : k'.contadorPid = k.contadorPid) :
      MueveListas k k' (.finalizarProceso p)
  | llegan {ev : Evento} (hlleg : Llegadas k k') (hpid : k'.contadorPid = k.contadorPid)
      (hev : ∀ motivo, ev ≠ .replanificar motivo) (hfin : finalizado ev = []) :
      MueveListas k k' ev

variable {cfg} {k k' : Estado} {l : Lugar} {ev : Evento} {p q : ℕ}

/-! ### One step -/

/-- `replanificar` takes the head of the queue that it chooses. -/
theorem replanificar_despacha {motivo : Cadena} (h : replanificar cfg k motivo = some k') :
    ∃ p resto, k.cola (elegirCola cfg k motivo) = p :: resto ∧
      k'.cola = Function.update k.cola (elegirCola cfg k motivo) resto ∧ k'.colaExec = [p] ∧
      k'.contadorPid = k.contadorPid := by
  obtain ⟨⟨k₁, l⟩, he, ht⟩ := Option.bind_eq_some_iff.1 h
  obtain ⟨quantum, rfl, hl, -⟩ := empezarReplanificacion_eq_some he
  have hcola : l = elegirCola cfg k motivo := by
    unfold empezarReplanificacion at he
    dsimp only at he
    split_ifs at he <;>
      · obtain ⟨-, rfl⟩ := Prod.mk.inj (Option.some.inj he)
        rfl
  rw [← hcola]
  obtain ⟨q, k₂, ⟨rfl, -, hd, rfl⟩ | ⟨hne, -, hd, rfl⟩⟩ := terminarReplanificacion_eq_some ht
  · obtain ⟨resto, hq, rfl⟩ := desencolar_eq_some hd
    exact ⟨q, resto, hq, rfl, rfl, rfl⟩
  · obtain rfl := hl.resolve_right hne
    obtain ⟨resto, hq, rfl⟩ := desencolar_eq_some hd
    exact ⟨q, resto, hq, rfl, rfl, rfl⟩

theorem paso_mueveListas (h : Ubicados cfg ∅ k) (hp : paso cfg k ev = some k') :
    MueveListas cfg k k' ev := by
  cases ev with
  | iniciarProceso path =>
    cases hp
    exact .crea path rfl rfl
  | finalizarProceso p =>
    obtain ⟨k₁, mensajes, he, hexit⟩ := finalizarProceso_eq_some hp
    obtain ⟨e, -, hs₁, -⟩ := h.encontrarPcb_grado he
    have h₁ : Ubicados cfg (insert p ∅) { k₁ with enviados := mensajes } :=
      (h.encontrarPcb he).congr rfl rfl rfl rfl rfl
    have hcolas : ∀ l, { k₁ with enviados := mensajes }.cola l = (k.cola l).erase p :=
      (h.encontrarPcb_colas he).1
    have hpid : k₁.contadorPid = k.contadorPid := by
      obtain ⟨_, _, _, _, _, _, rfl⟩ := encontrarPcb_eq_some he
      rfl
    exact .finaliza hcolas (h₁.exitPrima_cuentas (e := e) hs₁ hexit).1
      ((exitPrima_sinIniciar hexit).contadorPid.trans hpid)
  | iniciarPlanificacion =>
    cases hp
    exact .llegan ((Llegadas.refl k).congr rfl rfl rfl rfl rfl rfl) rfl (by simp) rfl
  | detenerPlanificacion =>
    obtain ⟨-, rfl⟩ := detenerPlanificacion_eq_some hp
    exact .llegan ((Llegadas.refl k).congr rfl rfl rfl rfl rfl rfl) rfl (by simp) rfl
  | administrarProcesosNew =>
    obtain ⟨q, k₁, pendientes, primero, -, -, hd, -, rfl⟩ := administrarProcesosNew_eq_some hp
    obtain ⟨resto, hq, rfl⟩ := desencolar_eq_some hd
    exact .admite hq rfl rfl
  | replanificar motivo =>
    obtain ⟨p, resto, hlista, hcola, hexec, hpid⟩ :=
      replanificar_despacha (paso_replanificar_eq_some hp).2
    exact .despacha rfl hlista hcola hexec hpid
  | enviarACpu =>
    obtain ⟨-, rfl⟩ := enviarACpu_eq_some hp
    exact .llegan ((Llegadas.refl k).congr rfl rfl rfl rfl rfl rfl) rfl (by simp) rfl
  | paquete motivo lista =>
    obtain ⟨pid, hpid, hr⟩ := paquete_eq_some hp
    have h₀ : Ubicados cfg ∅ { k with motivo := motivo } := h.congr rfl rfl rfl rfl rfl
    have hllegan := (h₀.atenderSolicitudCpu_cuentas (h.enEjecucion_iff.1 hpid) hr).1
    have hmotivo : Llegadas k { k with motivo := motivo } :=
      (Llegadas.refl k).congr rfl rfl rfl rfl rfl rfl
    exact .llegan (hmotivo.trans hllegan) (atenderSolicitudCpu_sinIniciar hr).contadorPid (by simp)
      rfl
  | finInstruccion =>
    cases hp
    refine .llegan ?_ (recibirMensajeCpu_sinIniciar k).contadorPid (by simp) rfl
    unfold recibirMensajeCpu
    split_ifs <;> exact (Llegadas.refl k).congr rfl rfl rfl rfl rfl rfl
  | quantum finPorQuantum =>
    cases hp
    exact .llegan ((Llegadas.refl k).congr rfl rfl rfl rfl rfl rfl) rfl (by simp) rfl
  | conectarInterfaz idInterfaz permitidas conexion =>
    cases hp
    refine .llegan ?_ ?_ (by simp) rfl
    · unfold conectarInterfaz
      dsimp only
      split_ifs
      · exact (Llegadas.refl k).congr rfl rfl rfl rfl rfl rfl
      · exact .of_update (l := .io k.interfaces.length) rfl (by simp) rfl rfl rfl rfl rfl
    · unfold conectarInterfaz
      dsimp only
      split_ifs <;> rfl
  | finDeIo idInterfaz mensaje =>
    exact .llegan (h.finDeIo_cuentas hp).1 (finDeIo_sinIniciar hp).contadorPid (by simp) rfl

/-! ### Each ready queue is served in order -/

/-- The processes of the ready queue that the console does not end. -/
def quedan (evs : List Evento) (l : Lugar) (k : Estado) : List ℕ :=
  (k.cola l).filter (sinFinalizar evs)

theorem sinFinalizar_of_mem {evs : List Evento} (h : .finalizarProceso p ∈ evs) :
    sinFinalizar evs p = false := by
  rw [sinFinalizar, List.all_eq_false]
  exact ⟨_, h, by simp⟩

theorem filter_erase_of_false {f : ℕ → Bool} (h : f p = false) (c : List ℕ) :
    (c.erase p).filter f = c.filter f := by
  have hno : p ∉ c.filter f := fun hmem => by
    rw [(List.mem_filter.1 hmem).2] at h
    cases h
  rw [← List.erase_filter, List.erase_of_not_mem hno]

/-- Arrivals at one of the ready queues. -/
theorem Llegadas.cola (h : Llegadas k k') (hl : l = .ready ∨ l = .readyM) :
    ∃ r, k'.cola l = k.cola l ++ r := by
  rcases hl with rfl | rfl
  · obtain ⟨r, hr, -⟩ := h.ready
    exact ⟨r, hr⟩
  · obtain ⟨r, hr, -⟩ := h.readyM
    exact ⟨r, hr⟩

theorem elegirCola_listos (cfg : KernelConfiguracion) (k : Estado) (motivo : Cadena) :
    elegirCola cfg k motivo = .ready ∨ elegirCola cfg k motivo = .readyM := by
  unfold elegirCola
  split_ifs
  · exact Or.inr rfl
  · exact Or.inl rfl

theorem despachado_eq_nil (hev : ∀ motivo, ev ≠ .replanificar motivo) :
    despachado cfg k ev = [] := by
  cases ev with
  | replanificar motivo => exact absurd rfl (hev motivo)
  | _ => rfl

theorem despachados_eq_nil (hev : ∀ motivo, ev ≠ .replanificar motivo) :
    despachados cfg l k ev = [] := by
  cases ev with
  | replanificar motivo => exact absurd rfl (hev motivo)
  | _ => rfl

/-- A ready queue, but for the processes that the console ends, is served in order. -/
theorem canal_listos (cfg : KernelConfiguracion) (evs : List Evento)
    (hl : l = .ready ∨ l = .readyM) :
    Channel (paso cfg) (Ubicados cfg ∅) (· ∈ evs) (quedan evs l)
      fun k ev => (despachados cfg l k ev).filter (sinFinalizar evs) where
  inv _ _ _ h _ hp := paso_ubicados h hp
  step k ev k' h hev hp := by
    have hnew : l ≠ .new := by rcases hl with rfl | rfl <;> decide
    unfold quedan
    cases paso_mueveListas h hp with
    | crea path hcola hpid =>
      refine ⟨[], ?_⟩
      rw [hcola, Function.update_of_ne hnew, List.append_nil]
      rfl
    | @admite p resto hlista hcola hpid =>
      rw [hcola, Function.update_apply]
      split_ifs with hready
      · refine ⟨[p].filter (sinFinalizar evs), ?_⟩
        rw [hready, List.filter_append]
        rfl
      · refine ⟨[], ?_⟩
        rw [Function.update_of_ne hnew, List.append_nil]
        rfl
    | @despacha motivo m p resto helegir hlista hcola hexec hpid =>
      refine ⟨[], ?_⟩
      rw [hcola, despachados, helegir, List.append_nil]
      by_cases hm : l = m
      · subst hm
        rw [if_pos rfl, hlista, Function.update_self, ← List.filter_append]
        rfl
      · rw [if_neg (Ne.symm hm), Function.update_of_ne hm]
        rfl
    | @finaliza p k₁ hcolas hlleg hpid =>
      obtain ⟨r, hr⟩ := hlleg.cola hl
      refine ⟨r.filter (sinFinalizar evs), ?_⟩
      rw [hr, hcolas, List.filter_append, filter_erase_of_false (sinFinalizar_of_mem hev)]
      rfl
    | llegan hlleg hpid hnada hfin =>
      obtain ⟨r, hr⟩ := hlleg.cola hl
      refine ⟨r.filter (sinFinalizar evs), ?_⟩
      rw [hr, despachados_eq_nil hnada, List.filter_append]
      rfl

/-- **Each ready queue is served in order.**  Along every run from a reachable state, and but for
the processes that the console ends, whoever is at position `n` of `cola_ready` or `cola_ready_m`
is the one that gets the CPU after `n` others have got it from there, or is still there behind those
of them that have not; whatever comes in between. -/
theorem listos_en_orden (cfg : KernelConfiguracion) (evs₀ evs : List Evento) (k k' : Estado)
    (l : Lugar) (hl : l = .ready ∨ l = .readyM)
    (hrun₀ : run (paso cfg) (Estado.inicial cfg) evs₀ = some k)
    (hrun : run (paso cfg) k evs = some k') (n p : ℕ)
    (hp : ((k.cola l).filter (sinFinalizar evs))[n]? = some p) :
    ((traceOf (paso cfg) (despachados cfg l) k evs).filter (sinFinalizar evs) ++
      (k'.cola l).filter (sinFinalizar evs))[n]? = some p := by
  have hk : Ubicados cfg ∅ k := ubicados_of_reachable ⟨evs₀, hrun₀⟩
  rw [← traceOf_filter]
  exact (canal_listos cfg evs hl).served hk (fun _ h => h) hrun hp

/-- FIFO, three processes at a time. -/
def fifoDeTres : KernelConfiguracion := ⟨.FIFO, [], 3⟩

/-- Three processes are created and admitted, and the first one has the CPU. -/
def tresAdmitidos : List Evento :=
  [.iniciarProceso [], .iniciarProceso [], .iniciarProceso [], .iniciarPlanificacion,
    .administrarProcesosNew, .replanificar "NEW".toList, .enviarACpu, .administrarProcesosNew,
    .administrarProcesosNew]

/-- The first one ends, and the second one has the CPU. -/
def unoTermina : List Evento :=
  [.paquete "EXIT".toList [], .finInstruccion, .replanificar "EXIT".toList, .enviarACpu]

/-- The third one was behind one other. -/
theorem listos_en_orden_tres :
    ∃ k k', run (paso fifoDeTres) (Estado.inicial fifoDeTres) tresAdmitidos = some k ∧
      (k.cola .ready)[1]? = some 3 ∧ run (paso fifoDeTres) k unoTermina = some k' ∧
      ((traceOf (paso fifoDeTres) (despachados fifoDeTres .ready) k unoTermina).filter
        (sinFinalizar unoTermina) ++ (k'.cola .ready).filter (sinFinalizar unoTermina))[1]? =
          some 3 :=
  ⟨_, _, rfl, rfl, rfl, listos_en_orden fifoDeTres tresAdmitidos unoTermina _ _ .ready (Or.inl rfl)
    rfl rfl 1 3 rfl⟩

/-! ### The first turns -/

/-- Two lists that agree on some elements agree on less. -/
theorem filter_of_filter {f g : ℕ → Bool} {c d : List ℕ} (h : c.filter f = d.filter f)
    (hg : ∀ p, g p = true → f p = true) : c.filter g = d.filter g := by
  have hdos : (fun p => g p && f p) = g := by
    funext p
    cases hp : g p with
    | true => rw [hg p hp]; rfl
    | false => rfl
  have hfiltro : ∀ c : List ℕ, (c.filter f).filter g = c.filter g := fun c => by
    rw [List.filter_filter, hdos]
  rw [← hfiltro c, h, hfiltro d]

/-- Of the processes before `c`, those that have not had the CPU (`D`), and that the console has not
ended (`F`), stand in the line in the order of their pids; and nobody has had it before them. -/
structure EnFila (D F fila : List ℕ) (c : ℕ) : Prop where
  fila : fila.filter (fun p => p ∉ D ∧ p ∉ F) =
    (List.range' 1 (c - 1)).filter (fun p => p ∉ D ∧ p ∉ F)
  orden : ∀ q ∈ D, q ∉ F → ∀ p, 0 < p → p < q → p ∈ D ∨ p ∈ F

variable {D F fila A B r : List ℕ} {c : ℕ}

theorem EnFila.mem (h : EnFila D F fila c) (h0 : 0 < p) (hlt : p < c) (hD : p ∉ D) (hF : p ∉ F) :
    p ∈ fila := by
  have hmem : p ∈ fila.filter (fun p => p ∉ D ∧ p ∉ F) := by
    rw [h.fila]
    exact List.mem_filter.2 ⟨List.mem_range'_1.2 (by omega), by simpa using ⟨hD, hF⟩⟩
  exact (List.mem_filter.1 hmem).1

/-- A process is created. -/
theorem EnFila.crea (h : EnFila D F fila c) (hc : 0 < c) : EnFila D F (fila ++ [c]) (c + 1) := by
  refine ⟨?_, h.orden⟩
  have hrange : List.range' 1 (c + 1 - 1) = List.range' 1 (c - 1) ++ [c] := by
    obtain ⟨n, rfl⟩ := Nat.exists_eq_add_of_lt hc
    have hn : 0 + n + 1 = 1 + n := by omega
    rw [Nat.add_sub_cancel, Nat.add_sub_cancel, Nat.zero_add, List.range'_1_concat, Nat.add_comm 1 n]
  rw [hrange, List.filter_append, List.filter_append, h.fila]

/-- A process that is not in the line comes in: it has had the CPU, or has been ended. -/
theorem EnFila.llegan (h : EnFila D F (A ++ B) c)
    (hr : ∀ p ∈ r, (0 < p ∧ p < c) ∧ p ∉ A ∧ p ∉ B) : EnFila D F (A ++ r ++ B) c := by
  refine ⟨?_, h.orden⟩
  have hnada : r.filter (fun p => p ∉ D ∧ p ∉ F) = [] := by
    rw [List.filter_eq_nil_iff]
    intro p hp hpend
    obtain ⟨⟨h0, hlt⟩, hA, hB⟩ := hr p hp
    obtain ⟨hD, hF⟩ := of_decide_eq_true hpend
    exact (List.mem_append.1 (h.mem h0 hlt hD hF)).elim hA hB
  rw [List.filter_append, List.filter_append, hnada, List.append_nil, ← List.filter_append, h.fila]

/-- The console ends a process. -/
theorem EnFila.finaliza (h : EnFila D F (A ++ B) c) (p : ℕ) :
    EnFila D (F ++ [p]) (A.erase p ++ B.erase p) c := by
  refine ⟨?_, fun q hq hF r h0 hr => ?_⟩
  · have hno : decide (p ∉ D ∧ p ∉ F ++ [p]) = false := by simp
    rw [List.filter_append, filter_erase_of_false hno, filter_erase_of_false hno,
      ← List.filter_append]
    exact filter_of_filter h.fila fun q => by simp; tauto
  · exact (h.orden q hq (fun hq' => hF (List.mem_append_left _ hq')) r h0 hr).imp_right
      (List.mem_append_left _)

/-- A process gets the CPU: the head of the line, or one that is not in it. -/
theorem EnFila.despacha (h : EnFila D F fila c) (h0 : 0 < p) (hlt : p < c)
    (hfila : (∃ resto, fila = p :: resto) ∨ p ∉ fila) :
    EnFila (D ++ [p]) F (fila.erase p) c := by
  refine ⟨?_, fun q hq hF r hr0 hr => ?_⟩
  · have hno : decide (p ∉ D ++ [p] ∧ p ∉ F) = false := by simp
    rw [filter_erase_of_false hno]
    exact filter_of_filter h.fila fun q => by simp; tauto
  · rw [List.mem_append]
    by_cases hqD : q ∈ D
    · exact (h.orden q hqD hF r hr0 hr).imp_left Or.inl
    · obtain rfl := List.mem_singleton.1 ((List.mem_append.1 hq).resolve_left hqD)
      obtain ⟨resto, rfl⟩ := hfila.resolve_right (not_not.2 (h.mem h0 hlt hqD hF))
      by_contra hno
      push Not at hno
      -- one that came before would stand before the head
      have hmem : r ∈ (q :: resto).filter (fun p => p ∉ D ∧ p ∉ F) := by
        rw [h.fila]
        refine List.mem_filter.2 ⟨List.mem_range'_1.2 (by omega), ?_⟩
        simpa using ⟨hno.1.1, hno.2⟩
      have hsorted : ((q :: resto).filter (fun p => p ∉ D ∧ p ∉ F)).Pairwise (· < ·) := by
        rw [h.fila]
        exact (List.pairwise_lt_range' 1).filter _
      rw [List.filter_cons_of_pos (by simpa using ⟨hqD, hF⟩)] at hmem hsorted
      rcases List.mem_cons.1 hmem with hrq | hmem
      · omega
      · have hlt' := List.rel_of_pairwise_cons hsorted hmem
        omega

theorem Ubicados.vivo_of_mem (h : Ubicados cfg ∅ k) (hp : p ∈ k.cola l) :
    0 < p ∧ p < k.contadorPid := by
  obtain ⟨-, e, he, -⟩ := h.estado_of_mem hp
  exact (h.vivo_iff p).1 (by rw [he]; rfl)

/-- Arrivals at `cola_ready` come from neither `cola_ready` nor `cola_new`. -/
theorem Ubicados.llegan_de_otras (h : Ubicados cfg ∅ k') {k : Estado} (hlleg : Llegadas k k') :
    ∃ r, k'.cola .ready = k.cola .ready ++ r ∧
      ∀ p ∈ r, (0 < p ∧ p < k'.contadorPid) ∧ p ∉ k.cola .ready ∧ p ∉ k.cola .new := by
  obtain ⟨r, hr, -⟩ := hlleg.ready
  refine ⟨r, hr, fun p hp => ?_⟩
  have hmem : p ∈ k'.cola .ready := by
    rw [hr]
    exact List.mem_append_right _ hp
  have hnodup := h.colocados.nodup .ready
  rw [hr, List.nodup_append] at hnodup
  refine ⟨h.vivo_of_mem hmem, fun hready => hnodup.2.2 p hready p hp rfl, fun hnew => ?_⟩
  rw [← hlleg.new] at hnew
  cases h.colocados.eq_of_mem hmem hnew

theorem paso_enFila (h : Ubicados cfg ∅ k) (hp : paso cfg k ev = some k')
    (hf : EnFila D F (k.cola .ready ++ k.cola .new) k.contadorPid) :
    EnFila (D ++ despachado cfg k ev) (F ++ finalizado ev) (k'.cola .ready ++ k'.cola .new)
      k'.contadorPid := by
  have h' := paso_ubicados h hp
  cases paso_mueveListas h hp with
  | crea path hcola hpid =>
    show EnFila (D ++ []) (F ++ []) _ _
    rw [hcola, hpid, List.append_nil, List.append_nil, Function.update_self,
      Function.update_of_ne (by decide), ← List.append_assoc]
    exact hf.crea (by rw [← h.creados]; exact Nat.succ_pos _)
  | @admite p resto hlista hcola hpid =>
    show EnFila (D ++ []) (F ++ []) _ _
    rw [hcola, hpid, List.append_nil, List.append_nil, Function.update_self,
      Function.update_of_ne (by decide), Function.update_self, List.append_assoc]
    rw [hlista] at hf
    exact hf
  | @despacha motivo m p resto helegir hlista hcola hexec hpid =>
    have hp : p ∈ k.cola m := by
      rw [hlista]
      exact List.mem_cons_self
    obtain ⟨h0, hlt⟩ := h.vivo_of_mem hp
    have hD : despachado cfg k (.replanificar motivo) = [p] := by
      rw [despachado, helegir, hlista]
      rfl
    show EnFila _ (F ++ []) _ _
    rw [hD, List.append_nil, hpid, hcola]
    rcases elegirCola_listos cfg k motivo with hm | hm <;> obtain rfl := hm.symm.trans helegir
    · rw [Function.update_self, Function.update_of_ne (by decide)]
      rw [hlista, List.cons_append] at hf
      have hd := hf.despacha h0 hlt (Or.inl ⟨_, rfl⟩)
      rwa [List.erase_cons_head] at hd
    · rw [Function.update_of_ne (by decide), Function.update_of_ne (by decide)]
      have hno : p ∉ k.cola .ready ++ k.cola .new := fun hmem => by
        rcases List.mem_append.1 hmem with hmem | hmem <;>
          cases h.colocados.eq_of_mem hp hmem
      have hd := hf.despacha h0 hlt (Or.inr hno)
      rwa [List.erase_of_not_mem hno] at hd
  | @finaliza p k₁ hcolas hlleg hpid =>
    obtain ⟨r, hr, hvienen⟩ := h'.llegan_de_otras hlleg
    rw [hpid, hcolas, hcolas] at hvienen
    show EnFila (D ++ []) (F ++ [p]) _ _
    rw [hr, hlleg.new, hcolas, hcolas, hpid, List.append_nil]
    exact (hf.finaliza p).llegan hvienen
  | llegan hlleg hpid hnada hfin =>
    obtain ⟨r, hr, hvienen⟩ := h'.llegan_de_otras hlleg
    rw [hpid] at hvienen
    rw [hr, hlleg.new, hpid, despachado_eq_nil hnada, hfin, List.append_nil, List.append_nil]
    exact hf.llegan hvienen

/-- A whole run. -/
theorem run_enFila {evs : List Evento} (h : Ubicados cfg ∅ k) (hrun : run (paso cfg) k evs = some k')
    (hf : EnFila D F (k.cola .ready ++ k.cola .new) k.contadorPid) :
    EnFila (D ++ traceOf (paso cfg) (despachado cfg) k evs) (F ++ evs.flatMap finalizado)
      (k'.cola .ready ++ k'.cola .new) k'.contadorPid := by
  induction evs generalizing k D F with
  | nil =>
    cases hrun
    show EnFila (D ++ []) (F ++ []) _ _
    rw [List.append_nil, List.append_nil]
    exact hf
  | cons ev evs ih =>
    obtain ⟨k₁, hk₁, hrun⟩ := run_cons_eq_some.1 hrun
    have h₁ := ih (paso_ubicados h hk₁) hrun (paso_enFila h hk₁ hf)
    rw [traceOf_cons hk₁, List.flatMap_cons, ← List.append_assoc, ← List.append_assoc]
    exact h₁

theorem enFila_inicial (cfg : KernelConfiguracion) :
    EnFila [] [] ((Estado.inicial cfg).cola .ready ++ (Estado.inicial cfg).cola .new)
      (Estado.inicial cfg).contadorPid :=
  ⟨rfl, fun _ hq => absurd hq List.not_mem_nil⟩

theorem mem_finalizados {evs : List Evento} :
    p ∈ evs.flatMap finalizado ↔ .finalizarProceso p ∈ evs := by
  rw [List.mem_flatMap]
  constructor
  · rintro ⟨ev, hev, hp⟩
    cases ev with
    | finalizarProceso q =>
      obtain rfl := List.mem_singleton.1 hp
      exact hev
    | _ => cases hp
  · exact fun h => ⟨_, h, List.mem_singleton.2 rfl⟩

/-- **Processes get the CPU for the first time in the order of their creation**, under FIFO, RR and
VRR, whatever blocks, returns or ends in between: at any point of any run, if a process has had the
CPU, so has every process created before it that the console has not ended. -/
theorem primeros_turnos (cfg : KernelConfiguracion) (evs : List Evento) (k : Estado)
    (hrun : run (paso cfg) (Estado.inicial cfg) evs = some k) (p q : ℕ) (h0 : 0 < p) (hpq : p < q)
    (hq : q ∈ traceOf (paso cfg) (despachado cfg) (Estado.inicial cfg) evs)
    (hsigue : .finalizarProceso q ∉ evs) :
    p ∈ traceOf (paso cfg) (despachado cfg) (Estado.inicial cfg) evs ∨
      .finalizarProceso p ∈ evs := by
  have hf := run_enFila (ubicados_inicial cfg) hrun (enFila_inicial cfg)
  rw [List.nil_append, List.nil_append] at hf
  rw [← mem_finalizados] at hsigue ⊢
  exact hf.orden q hq hsigue p h0 hpq

/-- The first process ends, and the second one has the CPU after it. -/
theorem primeros_turnos_dos :
    2 ∈ traceOf (paso fifoDeTres) (despachado fifoDeTres) (Estado.inicial fifoDeTres)
        (tresAdmitidos ++ unoTermina) ∧
      1 ∈ traceOf (paso fifoDeTres) (despachado fifoDeTres) (Estado.inicial fifoDeTres)
        (tresAdmitidos ++ unoTermina) := by
  have hq : 2 ∈ traceOf (paso fifoDeTres) (despachado fifoDeTres) (Estado.inicial fifoDeTres)
      (tresAdmitidos ++ unoTermina) := by
    have htrace : traceOf (paso fifoDeTres) (despachado fifoDeTres) (Estado.inicial fifoDeTres)
        (tresAdmitidos ++ unoTermina) = [1, 2] := rfl
    rw [htrace]
    decide
  have h := primeros_turnos fifoDeTres (tresAdmitidos ++ unoTermina) _ rfl 1 2 (by decide)
    (by decide) hq (by simp [tresAdmitidos, unoTermina])
  exact ⟨hq, h.resolve_right (by simp [tresAdmitidos, unoTermina])⟩

end SimuladorSO.Kernel
