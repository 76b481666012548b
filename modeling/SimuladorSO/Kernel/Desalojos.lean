import SimuladorSO.Kernel.Pasos

/-!
# Who runs next

What the operations of the kernel do to the process in EXEC, to `cola_exit`, and to the permits and
requests by which another process is chosen.

* `Ajeno`: processes are woken up or admitted, and none of this changes;
* `Desalojado`: the process in EXEC leaves it, by its request, and the CPU is told so;
* `atenderSolicitudCpu_desalojos`: a request of the running process is the one or the other;
* `exitPrima_salidas`: a process enters `cola_exit` when memoria is told that it ended, and no
  operation takes one out.
-/

namespace SimuladorSO.Kernel

open Queues Commons

/-- The interrupt that a sent message is, if it is one. -/
def Envio.interrupcion? : Envio → Option (ℕ × Cadena)
  | .interrupcion pid motivo => some (pid, motivo)
  | _ => none

/-- The process that a sent message ends, if it ends one. -/
def Envio.finalizado? : Envio → Option ℕ
  | .finalizarProceso pid => some pid
  | _ => none

/-- The interrupts sent so far. -/
def Estado.interrupciones (k : Estado) : List (ℕ × Cadena) :=
  k.enviados.filterMap Envio.interrupcion?

/-- The processes for which `exit_prima` has run, in its order. -/
def Estado.finalizados (k : Estado) : List ℕ := k.enviados.filterMap Envio.finalizado?

/-- The reason is not the end of the quantum. -/
def noEsQuantum (motivo : Cadena) : Bool := !stringEqualsIgnoreCase motivo "QUANTUM".toList

/-- The calls of `replanificar` that can choose a process: those that wait for no quantum, the
permits for those that do, and the first admission. -/
def Estado.fichas (k : Estado) : ℕ :=
  k.porReplanificar.countP noEsQuantum + k.semReplanificacionQuantum + k.esPrimerProceso.toNat

/-- `cola_exit` and the processes for which `exit_prima` has run have grown together. -/
def Salidas (k k' : Estado) : Prop :=
  ∃ ps, k'.cola .exit = k.cola .exit ++ ps ∧ k'.finalizados = k.finalizados ++ ps

/-- Neither the process in EXEC nor who runs next has changed, and no process has ended. -/
structure Ajeno (k k' : Estado) : Prop where
  exec : ∀ p, k'.estado p = some .exec ↔ k.estado p = some .exec
  exit : k'.cola .exit = k.cola .exit
  finalizados : k'.finalizados = k.finalizados
  interrupciones : k'.interrupciones = k.interrupciones
  colaExec : ∀ p ∈ k'.colaExec, p ∈ k.colaExec
  fichas : k'.fichas = k.fichas
  semEjecutar : k'.semEjecutar = k.semEjecutar
  desaloja : k'.desalojaPorInstruccion = k.desalojaPorInstruccion

/-- The process has left EXEC, and the CPU is told so for a reason other than the quantum. -/
structure Desalojado (p : ℕ) (k k' : Estado) : Prop where
  exec : ∀ q, k'.estado q = some .exec ↔ k.estado q = some .exec ∧ q ≠ p
  salidas : Salidas k k'
  interrupciones : ∃ motivo, noEsQuantum motivo = true ∧
    k'.interrupciones = k.interrupciones ++ [(p, motivo)]
  colaExec : ∀ p ∈ k'.colaExec, p ∈ k.colaExec
  fichas : k'.fichas = k.fichas
  semEjecutar : k'.semEjecutar = k.semEjecutar
  desaloja : k'.desalojaPorInstruccion = true

variable {cfg : KernelConfiguracion} {fuera : Finset ℕ} {k k₁ k' : Estado} {p : ℕ} {l : Lugar}
  {motivo : Cadena}

/-! ### The processes that have ended -/

/-- Memoria has been asked for a process as often as `exit_prima` has run for it. -/
theorem count_finalizados (k : Estado) (p : ℕ) :
    k.finalizados.count p = k.enviados.count (.finalizarProceso p) := by
  unfold Estado.finalizados
  induction k.enviados with
  | nil => rfl
  | cons m ms ih =>
    rw [List.count_cons, ← ih]
    cases m with
    | finalizarProceso q =>
      show List.count p (q :: _) = _
      rw [List.count_cons]
      simp
    | iniciarProceso path q => rfl
    | interfaz conexion q instruccion argumentos => rfl
    | interrupcion q motivo => rfl

theorem Ubicados.exit_iff (h : Ubicados cfg ∅ k) : k.estado p = some .exit ↔ p ∈ k.cola .exit := by
  constructor
  · intro hp
    exact h.mem_cola hp rfl
  · intro hp
    obtain ⟨-, e, he, hl⟩ := h.estado_of_mem hp
    obtain rfl : e = .exit := estado_of_lugarDe hl
    exact he

theorem Ajeno.refl (k : Estado) : Ajeno k k :=
  ⟨fun _ => Iff.rfl, rfl, rfl, rfl, fun _ h => h, rfl, rfl, rfl⟩

theorem Ajeno.trans (h : Ajeno k k₁) (h₁ : Ajeno k₁ k') : Ajeno k k' where
  exec q := (h₁.exec q).trans (h.exec q)
  exit := h₁.exit.trans h.exit
  finalizados := h₁.finalizados.trans h.finalizados
  interrupciones := h₁.interrupciones.trans h.interrupciones
  colaExec q hq := h.colaExec q (h₁.colaExec q hq)
  fichas := h₁.fichas.trans h.fichas
  semEjecutar := h₁.semEjecutar.trans h.semEjecutar
  desaloja := h₁.desaloja.trans h.desaloja

theorem Salidas.congr (hcola : k'.cola .exit = k.cola .exit) (henv : k'.enviados = k.enviados) :
    Salidas k k' :=
  ⟨[], by rw [hcola, List.append_nil], by rw [Estado.finalizados, henv, List.append_nil]; rfl⟩

theorem Salidas.trans (h : Salidas k k₁) (h₁ : Salidas k₁ k') : Salidas k k' := by
  obtain ⟨ps, hexit, hfin⟩ := h
  obtain ⟨qs, hexit', hfin'⟩ := h₁
  exact ⟨ps ++ qs, by rw [hexit', hexit, List.append_assoc], by rw [hfin', hfin, List.append_assoc]⟩

theorem Ajeno.salidas (h : Ajeno k k') : Salidas k k' :=
  ⟨[], by simp [h.exit], by simp [h.finalizados]⟩

theorem Desalojado.of_ajeno (h : Ajeno k k₁) (h₁ : Desalojado p k₁ k') : Desalojado p k k' where
  exec q := by rw [h₁.exec, h.exec]
  salidas := h.salidas.trans h₁.salidas
  interrupciones := by
    obtain ⟨motivo, hmotivo, hint⟩ := h₁.interrupciones
    exact ⟨motivo, hmotivo, by rw [hint, h.interrupciones]⟩
  colaExec q hq := h.colaExec q (h₁.colaExec q hq)
  fichas := h₁.fichas.trans h.fichas
  semEjecutar := h₁.semEjecutar.trans h.semEjecutar
  desaloja := h₁.desaloja

/-! ### Waking processes up -/

/-- What becoming ready changes: a permit if the quantum ended, and nothing of the rest. -/
theorem iniciar_frame (cfg : KernelConfiguracion) (k : Estado) (p : ℕ) (motivo : Cadena) :
    (iniciar cfg k p motivo).cola .exit = k.cola .exit ∧
      (iniciar cfg k p motivo).enviados = k.enviados ∧
      (iniciar cfg k p motivo).semEjecutar = k.semEjecutar ∧
      (iniciar cfg k p motivo).desalojaPorInstruccion = k.desalojaPorInstruccion ∧
      (iniciar cfg k p motivo).fichas = k.fichas + (!noEsQuantum motivo).toNat := by
  unfold iniciar
  split_ifs with h1 h2
  · refine ⟨rfl, rfl, rfl, rfl, ?_⟩
    have hm : noEsQuantum motivo = false := by simp only [noEsQuantum, h2, Bool.not_true]
    rw [hm]
    show k.porReplanificar.countP noEsQuantum + (k.semReplanificacionQuantum + 1) +
      k.esPrimerProceso.toNat = k.porReplanificar.countP noEsQuantum +
        k.semReplanificacionQuantum + k.esPrimerProceso.toNat + 1
    omega
  · refine ⟨rfl, rfl, rfl, rfl, ?_⟩
    simp only [noEsQuantum, h2]
    rfl
  · refine ⟨rfl, rfl, rfl, rfl, ?_⟩
    have hq : stringEqualsIgnoreCase motivo "QUANTUM".toList = false := by
      rw [not_or] at h1
      exact Bool.eq_false_iff.2 h1.1
    simp only [noEsQuantum, hq]
    rfl

/-- A process outside is in EXEC no more once it is ready. -/
theorem Ubicados.iniciar_exec (h : Ubicados cfg (insert p fuera) k) (motivo : Cadena) (q : ℕ) :
    (Kernel.iniciar cfg k p motivo).estado q = some .exec ↔
      k.estado q = some .exec ∧ q ≠ p := by
  obtain ⟨l, e, hl, -, -, hlista⟩ := iniciar_cases cfg k p motivo
  rw [(h.estado_set (Finset.mem_insert_self p fuera) hlista).2, Function.update_apply]
  have he : e ≠ .exec := by
    rintro rfl
    cases hl
  split_ifs with hqp <;> simp [he, hqp]

/-- A process outside becomes ready, for a reason other than the quantum. -/
theorem Ubicados.iniciar_ajeno (h : Ubicados cfg (insert p fuera) k)
    (hp : k.estado p ≠ some .exec) (hm : noEsQuantum motivo = true) :
    Ajeno k (Kernel.iniciar cfg k p motivo) := by
  obtain ⟨hexit, henv, hsem, hdes, hfichas⟩ := iniciar_frame cfg k p motivo
  refine ⟨fun q => ?_, hexit, by rw [Estado.finalizados, henv]; rfl,
    by rw [Estado.interrupciones, henv]; rfl, fun q hq => by rwa [iniciar_colaExec] at hq,
    by rw [hfichas, hm]; rfl, hsem, hdes⟩
  rw [h.iniciar_exec motivo q]
  constructor
  · exact fun hq => hq.1
  · refine fun hq => ⟨hq, ?_⟩
    rintro rfl
    exact hp hq

/-- The head of a block queue is made ready. -/
theorem Ubicados.desbloquear_ajeno (h : Ubicados cfg fuera k) (hl : l ≠ .exit)
    (hm : noEsQuantum motivo = true) (hd : Kernel.desbloquear cfg k l motivo = some k') :
    Ajeno k k' := by
  obtain ⟨q, k₁, hq, rfl⟩ := desbloquear_eq_some hd
  obtain ⟨hfuera, -, hsacado⟩ := h.desencolar hq
  obtain ⟨resto, hcola, rfl⟩ := desencolar_eq_some hq
  obtain ⟨-, e, he, hlugar⟩ := h.estado_of_mem (p := q) (l := l) (by simp [hcola])
  have hsale : Ajeno k { k with cola := Function.update k.cola l resto } :=
    ⟨fun _ => Iff.rfl, Function.update_of_ne hl.symm _ _, rfl, rfl, fun _ h => h, rfl, rfl, rfl⟩
  refine hsale.trans (hsacado.iniciar_ajeno ?_ hm)
  show k.estado q ≠ some .exec
  rw [he]
  intro hexec
  rw [Option.some.inj hexec] at hlugar
  cases hlugar

theorem Ubicados.signal_ajeno {recurso : Cadena} {b : Bool} (h : Ubicados cfg fuera k)
    (hs : Kernel.signal cfg k recurso p = some (k', b)) : Ajeno k k' := by
  rcases signal_cases hs with ⟨-, rfl, -⟩ | ⟨i, k₁, -, -, ⟨-, hdes⟩ | ⟨-, rfl⟩, hquitar⟩
  · exact .refl _
  · obtain ⟨-, rfl⟩ := quitar_eq_some hquitar
    have h₀ : Ubicados cfg fuera { k with
        instanciasRecurso := Function.update k.instanciasRecurso i (k.instanciasRecurso i + 1)
        reloj := k.reloj.seguir cfg k.finPorQuantum } := h.congr rfl rfl rfl rfl rfl
    have hdesp := h₀.desbloquear_ajeno (by simp) (by decide) hdes
    exact ⟨hdesp.exec, hdesp.exit, hdesp.finalizados, hdesp.interrupciones, hdesp.colaExec,
      hdesp.fichas, hdesp.semEjecutar, hdesp.desaloja⟩
  · obtain ⟨-, rfl⟩ := quitar_eq_some hquitar
    exact ⟨fun _ => Iff.rfl, rfl, rfl, rfl, fun _ h => h, rfl, rfl, rfl⟩

theorem Ubicados.liberarRecursos_ajeno (h : Ubicados cfg fuera k)
    (hl : Kernel.liberarRecursos cfg k p = some k') : Ajeno k k' := by
  refine (liberarRecursosDesde_induct (P := fun k₁ => Ubicados cfg fuera k₁ ∧ Ajeno k k₁) ?_
    ⟨h, .refl k⟩ hl).2
  rintro k₁ k₂ b r ⟨hu, hajeno⟩ - hs
  exact ⟨hu.signal hs, hajeno.trans (hu.signal_ajeno hs)⟩

/-! ### Leaving EXEC -/

/-- A process enters `cola_exit` when memoria is told that it has ended. -/
theorem Ubicados.exitPrima_salidas (h : Ubicados cfg fuera k)
    (hx : Kernel.exitPrima cfg k p = some k') : Salidas k k' := by
  obtain ⟨k₁, hl, rfl⟩ := exitPrima_eq_some hx
  refine (h.liberarRecursos_ajeno hl).salidas.trans ⟨[p], ?_, ?_⟩
  · show Function.update k₁.cola .exit (k₁.cola .exit ++ [p]) .exit = _
    rw [Function.update_self]
  · exact List.filterMap_append

/-- What else `exit_prima` changes. -/
theorem Ubicados.exitPrima_frame (h : Ubicados cfg (insert p fuera) k)
    (hx : Kernel.exitPrima cfg k p = some k') :
    (∀ q, k'.estado q = some .exec ↔ k.estado q = some .exec ∧ q ≠ p) ∧
      k'.cola .exit = k.cola .exit ++ [p] ∧ k'.finalizados = k.finalizados ++ [p] ∧
      k'.interrupciones = k.interrupciones ∧ (∀ q ∈ k'.colaExec, q ∈ k.colaExec) ∧
      k'.fichas = k.fichas ∧ k'.semEjecutar = k.semEjecutar ∧
      k'.desalojaPorInstruccion = k.desalojaPorInstruccion := by
  obtain ⟨k₁, hl, rfl⟩ := exitPrima_eq_some hx
  have hajeno := h.liberarRecursos_ajeno hl
  refine ⟨fun q => ?_, ?_, ?_, ?_, hajeno.colaExec, hajeno.fichas, hajeno.semEjecutar,
    hajeno.desaloja⟩
  · rw [((h.liberarRecursos hl).estado_set (Finset.mem_insert_self p fuera) rfl).2,
      Function.update_apply, ← hajeno.exec q]
    split_ifs with hqp <;> simp [hqp]
  · rw [← hajeno.exit]
    show Function.update k₁.cola .exit (k₁.cola .exit ++ [p]) .exit = k₁.cola .exit ++ [p]
    rw [Function.update_self]
  · rw [← hajeno.finalizados]
    exact List.filterMap_append
  · rw [← hajeno.interrupciones]
    simp [Estado.interrupciones, Estado.encolar, Estado.cambiarEstado, Envio.interrupcion?]

/-- The reason with which a process ends by its request is not the quantum. -/
theorem motivoDeExit_eq_some {b b' : Bool} {motivo' : Cadena}
    (h : motivoDeExit b b' motivo = some motivo') : noEsQuantum motivo' = true := by
  unfold motivoDeExit at h
  rcases ite_eq_iff.1 h with ⟨-, h⟩ | ⟨-, h⟩
  · cases h
    decide
  rcases ite_eq_iff.1 h with ⟨-, h⟩ | ⟨-, h⟩
  · cases h
    decide
  rcases ite_eq_iff.1 h with ⟨hx, h⟩ | ⟨-, h⟩
  · cases h
    have hno : stringEqualsIgnoreCase motivo "QUANTUM".toList = false := by
      rcases hx with hx | hx | hx
      · exact not_stringEquals_of_equals hx (by decide)
      · exact not_stringEquals_of_equals hx (by decide)
      · exact not_stringEquals_of_equals hx (by decide)
    rw [noEsQuantum, hno]
    rfl
  · cases h

/-- The process ends by its request. -/
theorem Ubicados.terminar_desalojado (h : Ubicados cfg ∅ k)
    (hp : k.estado p = some .exec) (hm : noEsQuantum motivo = true)
    (ht : Kernel.terminar cfg k p noCumplio motivo = some k') : Desalojado p k k' := by
  obtain ⟨k₁, hx, rfl⟩ := terminar_eq_some ht
  have h₀ : Ubicados cfg (insert p ∅) (desalojarPorInstruccion cfg k) :=
    (h.apartar hp).congr rfl rfl rfl rfl rfl
  obtain ⟨hexec, hexit, hfin, hint, hcola, hfichas, hsem, hdes⟩ := h₀.exitPrima_frame hx
  refine ⟨hexec, ⟨[p], hexit, ?_⟩, ⟨motivo, hm, ?_⟩, hcola, hfichas, hsem, hdes⟩
  · show List.filterMap _ (k₁.enviados ++ [Envio.interrupcion p motivo]) = _
    rw [List.filterMap_append]
    show k₁.finalizados ++ [] = k.finalizados ++ [p]
    rw [List.append_nil, hfin]
    rfl
  · show List.filterMap _ (k₁.enviados ++ [Envio.interrupcion p motivo]) = _
    rw [List.filterMap_append]
    show k₁.interrupciones ++ [(p, motivo)] = k.interrupciones ++ [(p, motivo)]
    rw [hint]
    rfl

/-- The process is put in a block queue by its request. -/
theorem Ubicados.bloquear_desalojado {e : EstadoProceso} (motivo : Cadena)
    (mensajes : List Envio) (h : Ubicados cfg ∅ k) (hp : k.estado p = some .exec)
    (hl : l ≠ .exit) (he : e ≠ .exec) (hm : noEsQuantum motivo = true)
    (hmensajes : mensajes.filterMap Envio.finalizado? = [] ∧
      mensajes.filterMap Envio.interrupcion? = [])
    (hlista : k'.listaEstados = k.listaEstados.set (p - 1) e)
    (hcola : k'.cola = Function.update k.cola l (k.cola l ++ [p]))
    (henv : k'.enviados = k.enviados ++ mensajes ++ [Envio.interrupcion p motivo])
    (hexec : k'.colaExec = k.colaExec) (hfichas : k'.fichas = k.fichas)
    (hsem : k'.semEjecutar = k.semEjecutar) (hdes : k'.desalojaPorInstruccion = true) :
    Desalojado p k k' := by
  refine ⟨fun q => ?_, ⟨[], ?_, ?_⟩, ⟨motivo, hm, ?_⟩, fun q hq => hexec ▸ hq, hfichas, hsem,
    hdes⟩
  · rw [((h.apartar hp).estado_set (Finset.mem_insert_self p ∅) hlista).2, Function.update_apply]
    split_ifs with hqp <;> simp [hqp, he]
  · rw [hcola, Function.update_of_ne hl.symm, List.append_nil]
  · simp [Estado.finalizados, henv, hmensajes.1, Envio.finalizado?]
  · simp [Estado.interrupciones, henv, hmensajes.2, Envio.interrupcion?]

/-- A request that an interface permits. -/
theorem Ubicados.bloquearPorIo_desalojado {lista : List Cadena} {interfaz : Cadena}
    (h : Ubicados cfg ∅ k) (hp : k.estado p = some .exec) (hm : noEsQuantum motivo = true)
    (hb : Kernel.bloquearPorIo cfg k lista p motivo interfaz = some k') : Desalojado p k k' := by
  obtain ⟨i, -, hb⟩ := Option.bind_eq_some_iff.1 hb
  dsimp only at hb
  split_ifs at hb
  obtain ⟨argumentos, -, hb⟩ := Option.bind_eq_some_iff.1 hb
  obtain ⟨conexion, -, rfl⟩ := Option.map_eq_some_iff.1 hb
  refine h.bloquear_desalojado (l := .io i) (e := .blockIo interfaz) motivo _ hp (by simp)
    (by simp) hm ?_ (List.set_set _) rfl rfl rfl rfl rfl rfl
  cases argumentos <;> simp [Envio.finalizado?, Envio.interrupcion?]

/-- A request of the process in EXEC leaves it there, or it is evicted. -/
theorem Ubicados.atenderSolicitudCpu_desalojos {lista : List Cadena} (h : Ubicados cfg ∅ k)
    (hp : k.estado p = some .exec) (hm : noEsQuantum motivo = true)
    (ha : Kernel.atenderSolicitudCpu cfg k lista p motivo = some k') :
    Ajeno k k' ∨ Desalojado p k k' := by
  rcases atenderSolicitudCpu_cases ha with ⟨hq, -⟩ | ⟨k₀, hk₀, hcases⟩
  · rw [noEsQuantum, hq] at hm
    cases hm
  have h₀ : Ubicados cfg ∅ k₀ := by
    rw [hk₀]
    exact h.congr_exec hp rfl rfl rfl rfl rfl
  have hp₀ : k₀.estado p = some .exec := by rw [hk₀]; exact hp
  have hajeno : Ajeno k k₀ := by
    rw [hk₀]
    refine ⟨fun _ => Iff.rfl, rfl, rfl, rfl, fun q hq => ?_, rfl, rfl, rfl⟩
    rw [List.mem_singleton.1 hq]
    exact List.mem_of_head? (h.exec p (Finset.notMem_empty p) hp)
  rcases hcases with ⟨noCumplio, motivo', ⟨b, hmotivo⟩, ht⟩ | ⟨interfaz, -, hb⟩ |
    ⟨recurso, rfl⟩ | ⟨recurso, hs⟩ | rfl
  · exact Or.inr (.of_ajeno hajeno
      (h₀.terminar_desalojado hp₀ (motivoDeExit_eq_some hmotivo) ht))
  · exact Or.inr (.of_ajeno hajeno (h₀.bloquearPorIo_desalojado hp₀ hm hb))
  · rcases wait_cases cfg k₀ recurso p with ⟨-, heq⟩ | ⟨i, k₁, -, rfl, ⟨-, heq⟩ | ⟨-, heq⟩⟩
    · rw [heq]
      exact Or.inl hajeno
    · rw [heq]
      refine Or.inr (.of_ajeno hajeno (h₀.bloquear_desalojado (l := .recurso i)
        (e := .blockRecurso recurso) "WAIT".toList [] hp₀ (by simp) (by simp)
        (by decide) ⟨rfl, rfl⟩ rfl rfl ?_ rfl rfl rfl rfl))
      simp [pedidoDeDesalojo, Estado.encolar, Estado.cambiarEstado, desalojarPorInstruccion]
    · rw [heq]
      exact Or.inl (hajeno.trans
        ⟨fun _ => Iff.rfl, rfl, rfl, rfl, fun _ h => h, rfl, rfl, rfl⟩)
  · exact Or.inl (hajeno.trans (h₀.signal_ajeno hs))
  · exact Or.inl hajeno

/-! ### Creation, admission and interfaces -/

theorem Ubicados.iniciarProceso_ajeno (h : Ubicados cfg ∅ k) (path : Cadena) :
    Ajeno k (Kernel.iniciarProceso k path) := by
  obtain ⟨hnone, hest⟩ := h.iniciarProceso_estado path
  refine ⟨fun q => ?_, rfl, ?_, ?_, fun _ h => h, rfl, rfl, rfl⟩
  · rw [hest, Function.update_apply]
    split_ifs with hq
    · simp [hq, hnone]
    · rfl
  · simp [Estado.finalizados, Kernel.iniciarProceso, Estado.cambiarEstado, Estado.encolar,
      Envio.finalizado?]
  · simp [Estado.interrupciones, Kernel.iniciarProceso, Estado.cambiarEstado, Estado.encolar,
      Envio.interrupcion?]

/-- An admission; the first one asks for a dispatch. -/
theorem Ubicados.administrarProcesosNew_ajeno (h : Ubicados cfg ∅ k)
    (ha : Kernel.administrarProcesosNew k = some k') : Ajeno k k' := by
  obtain ⟨q, k₁, pendientes, primero, -, -, hd, ⟨rfl, rfl⟩, rfl⟩ :=
    administrarProcesosNew_eq_some ha
  obtain ⟨hfuera, -, hsacado⟩ := h.desencolar hd
  obtain ⟨resto, hcola, rfl⟩ := desencolar_eq_some hd
  obtain ⟨-, e, he, hlugar⟩ := h.estado_of_mem (p := q) (l := .new) (by simp [hcola])
  refine ⟨fun r => ?_, rfl, rfl, rfl, fun _ h => h, ?_, rfl, rfl⟩
  · rw [(hsacado.estado_set (e := .ready) (Finset.mem_insert_self q ∅) rfl).2,
      Function.update_apply]
    split_ifs with hr
    · -- the head of `cola_new` was not in EXEC
      have hne : e ≠ .exec := by
        rintro rfl
        cases hlugar
      rw [hr]
      show some EstadoProceso.ready = some .exec ↔ k.estado q = some .exec
      simp [he, hne]
    · rfl
  · show (k.porReplanificar ++ _).countP noEsQuantum + k.semReplanificacionQuantum +
      false.toNat = k.fichas
    rw [List.countP_append, Estado.fichas]
    cases k.esPrimerProceso with
    | true =>
      show _ + List.countP noEsQuantum ["NEW".toList] + _ + 0 = _ + _ + 1
      have hnew : List.countP noEsQuantum ["NEW".toList] = 1 := by decide
      omega
    | false => rfl

theorem conectarInterfaz_ajeno (k : Estado) (idInterfaz permitidas : Cadena) (conexion : ℤ) :
    Ajeno k (conectarInterfaz k idInterfaz permitidas conexion) := by
  unfold conectarInterfaz
  dsimp only
  split_ifs
  · exact ⟨fun _ => Iff.rfl, rfl, rfl, rfl, fun _ h => h, rfl, rfl, rfl⟩
  · refine ⟨fun _ => Iff.rfl, ?_, rfl, rfl, fun _ h => h, rfl, rfl, rfl⟩
    show Function.update k.cola (.io k.interfaces.length) [] .exit = k.cola .exit
    rw [Function.update_of_ne (by simp)]

theorem Ubicados.finDeIo_ajeno {idInterfaz mensaje : Cadena} (h : Ubicados cfg ∅ k)
    (hf : Kernel.finDeIo cfg k idInterfaz mensaje = some k') : Ajeno k k' := by
  rcases finDeIo_cases hf with rfl | ⟨i, fin, hfin, -, hd⟩
  · exact .refl k'
  · have hm : ∀ fin ∈ mensajesDeFin, noEsQuantum fin = true := by decide
    exact h.desbloquear_ajeno (by simp) (hm fin hfin) hd

/-! ### Choosing the next process -/

/-- A process is taken from a ready queue and goes to EXEC. -/
theorem Ubicados.terminarReplanificacion_frame (h : Ubicados cfg ∅ k)
    (hn : ∀ q, k.estado q ≠ some .exec) (ht : Kernel.terminarReplanificacion k l = some k') :
    ∃ q, (∀ r, k'.estado r = some .exec ↔ q = r) ∧ k'.colaExec = [q] ∧
      k'.cola .exit = k.cola .exit ∧ k'.finalizados = k.finalizados ∧ k'.fichas = k.fichas ∧
      k'.semEjecutar = k.semEjecutar + 1 ∧
      k'.desalojaPorInstruccion = k.desalojaPorInstruccion := by
  have hexec : ∀ {q : ℕ} {k₁ k₂ : Estado}, Ubicados cfg (insert q ∅) k₁ →
      k₁.listaEstados = k.listaEstados → k₂.listaEstados = k₁.listaEstados.set (q - 1) .exec →
      ∀ r, k₂.estado r = some .exec ↔ q = r := by
    intro q k₁ k₂ h₁ hlista hset r
    rw [(h₁.estado_set (Finset.mem_insert_self q ∅) hset).2, Function.update_apply,
      estado_of_listaEstados hlista]
    split_ifs with hr
    · simp [hr]
    · simp [hn r, Ne.symm hr]
  obtain ⟨m, q, k₁, _, _, _, _, hm, hd, rfl⟩ := terminarReplanificacion_desencola ht
  obtain ⟨-, -, hsacado⟩ := h.desencolar hd
  obtain ⟨resto, -, rfl⟩ := desencolar_eq_some hd
  refine ⟨q, hexec hsacado rfl rfl, rfl, ?_, rfl, rfl, rfl, rfl⟩
  have hexit : Lugar.exit ≠ m := by rcases hm with rfl | rfl <;> decide
  exact Function.update_of_ne hexit resto k.cola

/-- A call of `replanificar` waits for a permit if it is for the quantum. -/
theorem fichas_empezarReplanificacion (hmem : motivo ∈ k.porReplanificar)
    (he : empezarReplanificacion cfg k motivo = some (k', l)) :
    ({ k' with porReplanificar := k'.porReplanificar.erase motivo } : Estado).fichas + 1 =
      k.fichas := by
  obtain ⟨quantum, rfl, -, hquantum⟩ := empezarReplanificacion_eq_some he
  show (k.porReplanificar.erase motivo).countP noEsQuantum + quantum + k.esPrimerProceso.toNat +
    1 = k.porReplanificar.countP noEsQuantum + k.semReplanificacionQuantum +
      k.esPrimerProceso.toNat
  rw [List.countP_erase, ← hquantum]
  cases hm : noEsQuantum motivo with
  | true =>
    have hpos : 0 < k.porReplanificar.countP noEsQuantum :=
      List.countP_pos_iff.2 ⟨motivo, hmem, hm⟩
    have hq : stringEqualsIgnoreCase motivo "QUANTUM".toList = false := by
      simpa only [noEsQuantum, Bool.not_eq_true'] using hm
    rw [if_pos ⟨hmem, rfl⟩, hq, Bool.toNat_false]
    omega
  | false =>
    have hq : stringEqualsIgnoreCase motivo "QUANTUM".toList = true := by
      simpa only [noEsQuantum, Bool.not_eq_false'] using hm
    rw [if_neg (by simp), hq, Bool.toNat_true]
    omega

end SimuladorSO.Kernel
