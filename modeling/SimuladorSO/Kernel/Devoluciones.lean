import SimuladorSO.Kernel.Finalizacion

/-!
# The instances that are returned

What `signal` and `liberar_recursos` do, exactly, where the counters, the records and the queues of
the resources agree.

* `Devuelve`: one instance is returned, and the head of the queue, if there is one, becomes ready;
* `Liberado`: a process returns all that it holds, and nobody else's record is touched;
* `liberarRecursos_libera`: the loop of `liberar_recursos` comes back and does so;
* `signal_segura_iff`: in every reachable state, `signal` does its part exactly for the processes
  that have a record of the resource.
-/

namespace SimuladorSO.Kernel

open Queues Counting Transitions Commons

/-- The ready queue of a process that a resource wakes up. -/
def colaAlDespertar (cfg : KernelConfiguracion) : Lugar :=
  if cfg.algoritmoPlanificacion = .VRR then .readyM else .ready

/-- The processes that wait for a resource. -/
def Estado.esperan (k : Estado) (i : ℕ) : List ℕ := k.cola (.recurso i)

/-- The process `p` returns one instance of the resource `i`. -/
structure Devuelve (cfg : KernelConfiguracion) (recurso : Cadena) (i p : ℕ) (k k' : Estado) :
    Prop where
  instancias : k'.instanciasRecurso =
    Function.update k.instanciasRecurso i (k.instanciasRecurso i + 1)
  registros : k'.listaRecursosRetenidos =
    k.listaRecursosRetenidos.eraseP (RecursosRetenidos.concuerda recurso p)
  sale : k'.esperan = Function.update k.esperan i (k.esperan i).tail
  despierta : k'.cola (colaAlDespertar cfg) =
    k.cola (colaAlDespertar cfg) ++ (k.esperan i).head?.toList
  estados : k'.listaEstados = (k.esperan i).head?.elim k.listaEstados fun q =>
    k.listaEstados.set (q - 1) (estadoAlDespertar cfg)
  otras : ∀ l, l ≠ colaAlDespertar cfg → (∀ j, l ≠ .recurso j) → k'.cola l = k.cola l

/-- How many records a process has for a resource. -/
def Estado.registrosDe (cfg : KernelConfiguracion) (k : Estado) (p i : ℕ) : ℕ :=
  k.listaRecursosRetenidos.countP (RecursosRetenidos.esDeProceso cfg p i)

/-- The process `p` has returned all that it held: its records are gone and those of the others are
as they were; each counter has grown by its records for the resource; and as many of those who
waited as there were records, if there were that many, have left each queue from its head, in their
order, for the ready queue. -/
structure Liberado (cfg : KernelConfiguracion) (p : ℕ) (k k' : Estado) : Prop where
  propios : ∀ r ∈ k'.listaRecursosRetenidos, r.pid ≠ p
  ajenos : k'.listaRecursosRetenidos = k.listaRecursosRetenidos.filter fun r => r.pid ≠ p
  instancias : ∀ i, k'.instanciasRecurso i = k.instanciasRecurso i + k.registrosDe cfg p i
  quedan : ∀ i, k'.cola (.recurso i) = (k.cola (.recurso i)).drop
    (min (k.registrosDe cfg p i) (k.cola (.recurso i)).length)
  despiertan : ∃ salen : List (ℕ × ℕ),
    k'.cola (colaAlDespertar cfg) = k.cola (colaAlDespertar cfg) ++ salen.map Prod.snd ∧
    ∀ i, poppedFrom i salen = (k.cola (.recurso i)).take
      (min (k.registrosDe cfg p i) (k.cola (.recurso i)).length)
  otras : ∀ l, l ≠ colaAlDespertar cfg → (∀ j, l ≠ .recurso j) → k'.cola l = k.cola l

variable {cfg : KernelConfiguracion} {k k₁ k' : Estado} {p i : ℕ} {recurso : Cadena}
  {motivo : Cadena}

/-! ### One instance -/

/-- What `iniciar` does for a reason other than the quantum. -/
theorem iniciar_despierta (cfg : KernelConfiguracion)
    (hmotivo : stringEqualsIgnoreCase motivo "QUANTUM".toList = false) (k : Estado) (p : ℕ) :
    (iniciar cfg k p motivo).cola = Function.update k.cola
      (colaAlDespertar cfg) (k.cola (colaAlDespertar cfg) ++ [p]) := by
  unfold iniciar colaAlDespertar
  by_cases hvrr : cfg.algoritmoPlanificacion = .VRR
  · rw [if_neg (by rw [hmotivo]; simp [hvrr]), if_pos hvrr]
    rfl
  · rw [if_pos (Or.inr hvrr), if_neg hvrr]
    dsimp only
    split_ifs <;> rfl

theorem colaAlDespertar_ne_recurso (cfg : KernelConfiguracion) (j : ℕ) :
    colaAlDespertar cfg ≠ .recurso j := by
  unfold colaAlDespertar
  split_ifs <;> simp

/-- The head of the queue of a resource is woken. -/
theorem desbloquear_despierta (hmotivo : stringEqualsIgnoreCase motivo "QUANTUM".toList = false)
    (h : desbloquear cfg k (.recurso i) motivo = some k') :
    ∃ q c, k.esperan i = q :: c ∧ k'.esperan = Function.update k.esperan i c ∧
      k'.cola (colaAlDespertar cfg) = k.cola (colaAlDespertar cfg) ++ [q] ∧
      k'.listaEstados = k.listaEstados.set (q - 1) (estadoAlDespertar cfg) ∧
      ∀ l, l ≠ colaAlDespertar cfg → (∀ j, l ≠ .recurso j) → k'.cola l = k.cola l := by
  obtain ⟨q, k₁, hd, rfl⟩ := desbloquear_eq_some h
  obtain ⟨c, hq, rfl⟩ := desencolar_eq_some hd
  have hcola := iniciar_despierta cfg hmotivo
    { k with cola := Function.update k.cola (.recurso i) c } q
  refine ⟨q, c, hq, ?_, ?_, iniciar_estadoAlDespertar hmotivo _ q, fun l hl hno => ?_⟩
  · funext j
    rw [Estado.esperan, hcola, Function.update_of_ne (colaAlDespertar_ne_recurso cfg j).symm]
    simp [Function.update_apply, Estado.esperan]
  · rw [hcola, Function.update_self]
    simp [Function.update_of_ne (colaAlDespertar_ne_recurso cfg i)]
  · rw [hcola, Function.update_of_ne hl]
    simp [Function.update_of_ne (hno i)]

/-- `signal` returns the instance of which the process has a record. -/
theorem Contados.signal_devuelve (h : Contados cfg k)
    (hi : encontrarColaRecurso cfg recurso = some i)
    (hany : k.listaRecursosRetenidos.any (RecursosRetenidos.concuerda recurso p) = true) :
    ∃ k', Kernel.signal cfg k recurso p = some (k', false) ∧ Devuelve cfg recurso i p k k' := by
  obtain ⟨k', hs, hregistros⟩ := signal_completa h hany
  refine ⟨k', hs, ?_⟩
  -- the counter with this record, so that a waiter is woken exactly when there is one
  have hc := h.contados i
  rw [Estado.retenidos, countP_eraseP hi hany i, if_pos rfl] at hc
  rcases signal_cases hs with ⟨hnone, -, -⟩ | ⟨j, k₁, hj, -, hk₁, hquitar⟩
  · rw [hi] at hnone
    cases hnone
  rw [hi] at hj
  cases hj
  obtain ⟨-, rfl⟩ := quitar_eq_some hquitar
  rcases hk₁ with ⟨-, hdes⟩ | ⟨hlibre, rfl⟩
  · obtain ⟨q, c, hq, hesperan, hlistos, hestados, hotras⟩ :=
      desbloquear_despierta (by decide) hdes
    obtain ⟨hinst, -, -⟩ := desbloquear_recursos hdes
    have hq' : k.esperan i = q :: c := hq
    exact ⟨hinst, hregistros, by rw [hq']; exact hesperan, by rw [hq']; exact hlistos,
      by rw [hq']; exact hestados, hotras⟩
  · have hvacia : k.esperan i = [] :=
      List.length_eq_zero_iff.1 (hc.waiters_of_free (by omega))
    refine ⟨rfl, hregistros, ?_, by simp [hvacia], by simp [hvacia], fun _ _ _ => rfl⟩
    funext j
    by_cases hji : j = i
    · subst hji
      simp only [hvacia, List.tail_nil, Function.update_self]
      exact hvacia
    · rw [Function.update_of_ne hji]
      rfl

/-! ### All of them -/

/-- The resources of the records of a process, in their order. -/
def Estado.recursosDe (cfg : KernelConfiguracion) (k : Estado) (p : ℕ) : List ℕ :=
  k.listaRecursosRetenidos.filterMap fun r =>
    if r.pid = p then encontrarColaRecurso cfg r.recurso else none

theorem count_recursosDe (k : Estado) (p i : ℕ) :
    (k.recursosDe cfg p).count i = k.registrosDe cfg p i := by
  rw [Estado.recursosDe, Estado.registrosDe, List.count, List.countP_filterMap]
  congr 1
  funext r
  by_cases hr : r.pid = p
  · cases he : encontrarColaRecurso cfg r.recurso <;>
      simp [hr, he, RecursosRetenidos.esDeProceso, RecursosRetenidos.esDe]
  · simp [hr, RecursosRetenidos.esDeProceso]

/-- The loop takes away the first record of the process, whichever its resource is. -/
theorem eraseP_of_find? {lista : List RecursosRetenidos} {r : RecursosRetenidos}
    (h : lista.find? (fun r => r.pid = p) = some r) :
    r.pid = p ∧ ∃ antes despues, lista = antes ++ r :: despues ∧ (∀ a ∈ antes, a.pid ≠ p) ∧
      lista.eraseP (RecursosRetenidos.concuerda r.recurso p) = antes ++ despues := by
  obtain ⟨hr, antes, despues, rfl, hno⟩ := List.find?_eq_some_iff_append.1 h
  have hr' : r.pid = p := by simpa using hr
  have hno' : ∀ a ∈ antes, a.pid ≠ p := by simpa using hno
  refine ⟨hr', antes, despues, rfl, hno', ?_⟩
  rw [List.eraseP_append_right, List.eraseP_cons_of_pos]
  · exact concuerda_iff.2 ⟨stringEqualsIgnoreCase_self _, hr'⟩
  · intro a ha hcon
    exact hno' a ha (concuerda_iff.1 hcon).2

/-- What is left to release after one turn of the loop. -/
theorem Devuelve.recursosDe {r : RecursosRetenidos}
    (hfind : k.listaRecursosRetenidos.find? (fun r => r.pid = p) = some r)
    (hi : encontrarColaRecurso cfg r.recurso = some i) (h : Devuelve cfg r.recurso i p k k₁) :
    k.recursosDe cfg p = i :: k₁.recursosDe cfg p ∧
      (k₁.listaRecursosRetenidos.filter fun r => r.pid ≠ p) =
        (k.listaRecursosRetenidos.filter fun r => r.pid ≠ p) ∧
      k.listaRecursosRetenidos.length = k₁.listaRecursosRetenidos.length + 1 := by
  obtain ⟨hr, antes, despues, hlista, hno, herase⟩ := eraseP_of_find? hfind
  have hantes : (antes.filterMap fun r =>
      if r.pid = p then encontrarColaRecurso cfg r.recurso else none) = [] := by
    rw [List.filterMap_eq_nil_iff]
    exact fun a ha => if_neg (hno a ha)
  simp only [Estado.recursosDe, h.registros, herase]
  simp [hlista, hantes, hr, hi, Nat.add_assoc]

/-- The loop of `liberar_recursos`: each turn serves one of the records. -/
theorem Contados.liberarRecursosDesde_libera (h : Contados cfg k)
    (hp : ∀ j, p ∉ k.cola (.recurso j)) {fuel : ℕ}
    (hfuel : k.listaRecursosRetenidos.length ≤ fuel) :
    ∃ k', liberarRecursosDesde cfg p fuel k = some k' ∧
      k'.listaRecursosRetenidos = (k.listaRecursosRetenidos.filter fun r => r.pid ≠ p) ∧
      (∀ i, k'.instanciasRecurso i = k.instanciasRecurso i + (k.recursosDe cfg p).count i) ∧
      k'.esperan = remaining k.esperan (k.recursosDe cfg p) ∧
      k'.cola (colaAlDespertar cfg) = k.cola (colaAlDespertar cfg) ++
        (serve k.esperan (k.recursosDe cfg p)).map Prod.snd ∧
      ∀ l, l ≠ colaAlDespertar cfg → (∀ j, l ≠ .recurso j) → k'.cola l = k.cola l := by
  have hfin : ∀ {k : Estado}, (k.listaRecursosRetenidos.find? fun r => r.pid = p) = none →
      k.recursosDe cfg p = [] ∧
        (k.listaRecursosRetenidos.filter fun r => r.pid ≠ p) = k.listaRecursosRetenidos := by
    intro k hnone
    have hno : ∀ r ∈ k.listaRecursosRetenidos, r.pid ≠ p := by simpa using hnone
    refine ⟨List.filterMap_eq_nil_iff.2 fun r hr => if_neg (hno r hr), ?_⟩
    exact List.filter_eq_self.2 fun r hr => by simpa using hno r hr
  induction fuel generalizing k with
  | zero =>
    have hnil : k.listaRecursosRetenidos = [] := List.length_eq_zero_iff.1 (by omega)
    have hnone : (k.listaRecursosRetenidos.find? fun r => r.pid = p) = none := by rw [hnil]; rfl
    obtain ⟨hrecursos, hfilter⟩ := hfin hnone
    refine ⟨k, by unfold liberarRecursosDesde; rw [hnone], hfilter.symm, ?_⟩
    simp [hrecursos, remaining_nil, serve]
  | succ fuel ih =>
    cases hfind : k.listaRecursosRetenidos.find? fun r => r.pid = p with
    | none =>
      obtain ⟨hrecursos, hfilter⟩ := hfin hfind
      refine ⟨k, by unfold liberarRecursosDesde; rw [hfind], hfilter.symm, ?_⟩
      simp [hrecursos, remaining_nil, serve]
    | some r =>
      have hr := List.mem_of_find?_eq_some hfind
      obtain ⟨i, hi⟩ := Option.isSome_iff_exists.1 (h.existen r hr)
      have hrp : r.pid = p := by simpa using List.find?_some hfind
      have hany : k.listaRecursosRetenidos.any (RecursosRetenidos.concuerda r.recurso p) = true :=
        List.any_eq_true.2 ⟨r, hr, concuerda_iff.2 ⟨stringEqualsIgnoreCase_self _, hrp⟩⟩
      obtain ⟨k₁, hs, hd⟩ := h.signal_devuelve hi hany
      obtain ⟨h₁, hdrop⟩ := h.signal hp hs
      obtain ⟨hrecursos, hfilter, hlen⟩ := hd.recursosDe hfind hi
      obtain ⟨k', hk', hlista, hinst, hesperan, hlistos, hotras⟩ :=
        ih h₁ (notMem_of_drop hp hdrop) (by omega)
      refine ⟨k', ?_, hlista.trans hfilter, fun j => ?_, ?_, ?_, fun l hl hno => ?_⟩
      · unfold liberarRecursosDesde
        simp only [hfind, hs, Option.bind_some, hk']
      · rw [hinst, hd.instancias, hrecursos, List.count_cons, Function.update_apply]
        by_cases hj : j = i
        · simp [hj]
          ring
        · simp [hj, Ne.symm hj]
      · rw [hesperan, hd.sale, hrecursos, remaining_cons]
      · rw [hlistos, hd.despierta, hd.sale, hrecursos, serve]
        cases hq : k.esperan i <;> simp
      · rw [hotras l hl hno, hd.otras l hl hno]

/-- **The end of a process releases what it holds, and only that**: where the counters, the records
and the queues agree, `liberar_recursos` of a process that waits for no resource comes back; its
records are gone, those of the others are untouched, and each resource has been returned as often as
it was held, with the first waiters woken in their order. -/
theorem liberarRecursos_libera (cfg : KernelConfiguracion) (k : Estado) (p : ℕ)
    (h : Contados cfg k) (hp : ∀ i, p ∉ k.cola (.recurso i)) :
    ∃ k', liberarRecursos cfg k p = some k' ∧ Liberado cfg p k k' := by
  obtain ⟨k', hk', hlista, hinst, hesperan, hlistos, hotras⟩ :=
    h.liberarRecursosDesde_libera hp le_rfl
  refine ⟨k', hk', ⟨fun r hr => ?_, hlista, fun i => ?_, fun i => ?_, ⟨_, hlistos, fun i => ?_⟩,
    hotras⟩⟩
  · rw [hlista] at hr
    simpa using (List.mem_filter.1 hr).2
  · rw [hinst, count_recursosDe]
  · have hi := congrFun hesperan i
    rw [remaining, count_recursosDe] at hi
    rw [← List.drop_eq_drop_min]
    exact hi
  · rw [poppedFrom_serve, count_recursosDe, ← List.take_eq_take_min]
    rfl

/-- Under VRR the first of two processes releases the resource for which the second waits. -/
theorem liberarRecursos_libera_dos_procesos :
    ∃ k k', run (paso ⟨.VRR, [("RA".toList, 1)], 2⟩) (Estado.inicial ⟨.VRR, [("RA".toList, 1)], 2⟩)
        [.iniciarProceso [], .iniciarProceso [], .iniciarPlanificacion, .administrarProcesosNew,
          .replanificar "NEW".toList, .enviarACpu, .administrarProcesosNew,
          .paquete "WAIT".toList ["RA".toList], .paquete "QUANTUM".toList [],
          .replanificar "QUANTUM".toList, .enviarACpu,
          .paquete "WAIT".toList ["ra".toList]] = some k ∧
      k.cola (.recurso 0) = [2] ∧ k.registrosDe ⟨.VRR, [("RA".toList, 1)], 2⟩ 1 0 = 1 ∧
      liberarRecursos ⟨.VRR, [("RA".toList, 1)], 2⟩ k 1 = some k' ∧
      Liberado ⟨.VRR, [("RA".toList, 1)], 2⟩ 1 k k' := by
  obtain ⟨k, hrun, hready, hcola, hregistros⟩ : ∃ k, run (paso ⟨.VRR, [("RA".toList, 1)], 2⟩)
      (Estado.inicial ⟨.VRR, [("RA".toList, 1)], 2⟩)
      [.iniciarProceso [], .iniciarProceso [], .iniciarPlanificacion, .administrarProcesosNew,
        .replanificar "NEW".toList, .enviarACpu, .administrarProcesosNew,
        .paquete "WAIT".toList ["RA".toList], .paquete "QUANTUM".toList [],
        .replanificar "QUANTUM".toList, .enviarACpu,
        .paquete "WAIT".toList ["ra".toList]] = some k ∧ k.cola .ready = [1] ∧
      k.cola (.recurso 0) = [2] ∧ k.registrosDe ⟨.VRR, [("RA".toList, 1)], 2⟩ 1 0 = 1 :=
    ⟨_, rfl, rfl, rfl, by decide⟩
  obtain ⟨hu, hc⟩ := contados_of_reachable ⟨_, hrun⟩
  obtain ⟨k', hk', hl⟩ := liberarRecursos_libera ⟨.VRR, [("RA".toList, 1)], 2⟩ k 1 hc fun i hi => by
    cases hu.colocados.eq_of_mem hi (show 1 ∈ k.cola .ready by simp [hready])
  exact ⟨k, k', hrun, hcola, hregistros, hk', hl⟩

/-! ### Every history -/

/-- `signal` does its part: it comes back, the counter is one more, the head waiter is woken if
there is one, and one record of the process is taken away and none of the others. -/
def SignalSegura (cfg : KernelConfiguracion) (k : Estado) (recurso : Cadena) (i p : ℕ) : Prop :=
  ∃ k', signal cfg k recurso p = some (k', false) ∧ Devuelve cfg recurso i p k k' ∧
    (k'.listaRecursosRetenidos.filter fun r => r.pid ≠ p) =
      k.listaRecursosRetenidos.filter fun r => r.pid ≠ p

/-- A record of another process is not one that `signal` takes away. -/
theorem filter_eraseP_concuerda (lista : List RecursosRetenidos) (recurso : Cadena) (p : ℕ) :
    ((lista.eraseP (RecursosRetenidos.concuerda recurso p)).filter fun r => r.pid ≠ p) =
      lista.filter fun r => r.pid ≠ p := by
  induction lista with
  | nil => rfl
  | cons r lista ih =>
    rw [List.eraseP_cons]
    cases hr : RecursosRetenidos.concuerda recurso p r with
    | true => simp [(concuerda_iff.1 hr).2]
    | false => simp only [cond_false, List.filter_cons, ih]

/-- **`SIGNAL` after every history**: in the state that any run reaches, `signal` does its part for a
configured resource exactly when the process has a record of it; else the record that is not found
is used all the same. -/
theorem signal_segura_iff (cfg : KernelConfiguracion) (evs : List Evento) (k : Estado)
    (hrun : run (paso cfg) (Estado.inicial cfg) evs = some k) (recurso : Cadena) (i p : ℕ)
    (hi : encontrarColaRecurso cfg recurso = some i) :
    SignalSegura cfg k recurso i p ↔ ∃ r ∈ k.listaRecursosRetenidos,
      stringEqualsIgnoreCase r.recurso recurso = true ∧ r.pid = p := by
  have hc := (contados_of_reachable ⟨evs, hrun⟩).2
  simp only [← concuerda_iff, ← List.any_eq_true]
  constructor
  · rintro ⟨k', hs, -⟩
    exact signal_concuerda hi hs
  · intro hany
    obtain ⟨k', hs, hd⟩ := hc.signal_devuelve hi hany
    exact ⟨k', hs, hd, by rw [hd.registros, filter_eraseP_concuerda]⟩

/-- A process that holds a resource may return it. -/
theorem signal_segura_tras_wait :
    ∃ k, run (paso ⟨.FIFO, [("RA".toList, 1)], 1⟩) (Estado.inicial ⟨.FIFO, [("RA".toList, 1)], 1⟩)
        [.iniciarProceso [], .administrarProcesosNew, .iniciarPlanificacion,
          .replanificar "NEW".toList, .paquete "WAIT".toList ["RA".toList]] = some k ∧
      k.estado 1 = some .exec ∧
      SignalSegura ⟨.FIFO, [("RA".toList, 1)], 1⟩ k "ra".toList 0 1 := by
  refine ⟨_, rfl, rfl, (signal_segura_iff ⟨.FIFO, [("RA".toList, 1)], 1⟩
    [.iniciarProceso [], .administrarProcesosNew, .iniciarPlanificacion,
      .replanificar "NEW".toList, .paquete "WAIT".toList ["RA".toList]] _ rfl _ _ _ (by decide)).2 ?_⟩
  exact ⟨⟨1, "RA".toList⟩, List.mem_singleton_self _, by decide, rfl⟩

/-- A process that has returned its only instance returns it again. -/
theorem signal_insegura_sin_registro :
    ∃ k, run (paso ⟨.FIFO, [("RA".toList, 1)], 1⟩) (Estado.inicial ⟨.FIFO, [("RA".toList, 1)], 1⟩)
        [.iniciarProceso [], .administrarProcesosNew, .iniciarPlanificacion,
          .replanificar "NEW".toList, .paquete "WAIT".toList ["RA".toList],
          .paquete "SIGNAL".toList ["RA".toList]] = some k ∧
      k.estado 1 = some .exec ∧
      encontrarColaRecurso ⟨.FIFO, [("RA".toList, 1)], 1⟩ "RA".toList = some 0 ∧
      signal ⟨.FIFO, [("RA".toList, 1)], 1⟩ k "RA".toList 1 = none ∧
      ¬ SignalSegura ⟨.FIFO, [("RA".toList, 1)], 1⟩ k "RA".toList 0 1 := by
  refine ⟨_, rfl, rfl, by decide, rfl, ?_⟩
  rintro ⟨k', hs, -⟩
  cases hs

end SimuladorSO.Kernel
