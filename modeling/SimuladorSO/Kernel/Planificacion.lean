import SimuladorSO.Kernel.Despacho

/-!
# Starting and stopping planning

`INICIAR_PLANIFICACION` posts `sem_planificacion` and `DETENER_PLANIFICACION` waits for it;
`replanificar` holds it until it has taken a process, and a request of an interface takes it and
gives it back.  The console, the dispatches and the rest of the kernel take their steps in any
order.

* `Crece`: what the rest of the kernel does to the ready queues and to the semaphores of a dispatch;
* `Tramo`, `EstadoPlanificacion`, `pasoPlanificacion`: the dispatches under way, the console and the
  kernel, and `replanificar_por_tramos`, that one after another the pieces of a dispatch are what
  `replanificar` does;
* `Cuenta`, which every step that meets `Ordenada` keeps (`pasoPlanificacion_cuenta`);
* `planificacion_obedece`: in the runs whose steps meet it, planning follows the last command.
-/

namespace SimuladorSO.Kernel

open Queues Transitions Commons

/-- The ready queues have only grown, with a permit for each process, and the other semaphores of a
dispatch have lost no permit. -/
structure Crece (k k' : Estado) : Prop where
  planificacion : k'.semPlanificacion = k.semPlanificacion
  quantum : k.semReplanificacionQuantum ≤ k'.semReplanificacionQuantum
  ready : ∃ r, k'.cola .ready = k.cola .ready ++ r ∧
    k'.semProcesosEnReady = k.semProcesosEnReady + r.length
  readyM : ∃ r, k'.cola .readyM = k.cola .readyM ++ r ∧
    k'.semProcesosEnReadyM = k.semProcesosEnReadyM + r.length

variable {cfg : KernelConfiguracion} {k k₁ k' : Estado} {p : ℕ} {l : Lugar} {motivo : Cadena}
  {lista : List Cadena}

theorem Crece.refl (k : Estado) : Crece k k := ⟨rfl, le_rfl, ⟨[], by simp⟩, ⟨[], by simp⟩⟩

theorem Crece.trans (h : Crece k k₁) (h₁ : Crece k₁ k') : Crece k k' := by
  obtain ⟨hplan, hquantum, ⟨r, hr, hsr⟩, ⟨m, hm, hsm⟩⟩ := h
  obtain ⟨hplan', hquantum', ⟨r', hr', hsr'⟩, ⟨m', hm', hsm'⟩⟩ := h₁
  refine ⟨hplan'.trans hplan, hquantum.trans hquantum', ⟨r ++ r', ?_, ?_⟩, ⟨m ++ m', ?_, ?_⟩⟩
  · rw [hr', hr, List.append_assoc]
  · rw [hsr', hsr, List.length_append, Nat.add_assoc]
  · rw [hm', hm, List.append_assoc]
  · rw [hsm', hsm, List.length_append, Nat.add_assoc]

/-- A queue that is not of ready processes changes. -/
theorem Crece.of_update {c : List ℕ} (hcola : k'.cola = Function.update k.cola l c)
    (hl : l ≠ .ready ∧ l ≠ .readyM) (hplan : k'.semPlanificacion = k.semPlanificacion)
    (hquantum : k'.semReplanificacionQuantum = k.semReplanificacionQuantum)
    (hready : k'.semProcesosEnReady = k.semProcesosEnReady)
    (hreadyM : k'.semProcesosEnReadyM = k.semProcesosEnReadyM) : Crece k k' where
  planificacion := hplan
  quantum := hquantum.ge
  ready := ⟨[], by rw [hcola, Function.update_of_ne hl.1.symm]; simp [hready]⟩
  readyM := ⟨[], by rw [hcola, Function.update_of_ne hl.2.symm]; simp [hreadyM]⟩

/-- Nothing that a dispatch reads changes. -/
theorem Crece.of_eq (hcola : k'.cola = k.cola) (hplan : k'.semPlanificacion = k.semPlanificacion)
    (hquantum : k'.semReplanificacionQuantum = k.semReplanificacionQuantum)
    (hready : k'.semProcesosEnReady = k.semProcesosEnReady)
    (hreadyM : k'.semProcesosEnReadyM = k.semProcesosEnReadyM) : Crece k k' where
  planificacion := hplan
  quantum := hquantum.ge
  ready := ⟨[], by simp [hcola, hready]⟩
  readyM := ⟨[], by simp [hcola, hreadyM]⟩

/-- Waking processes up. -/
theorem Crece.of_llegadas (h : Llegadas k k') (hplan : k'.semPlanificacion = k.semPlanificacion)
    (hquantum : k.semReplanificacionQuantum ≤ k'.semReplanificacionQuantum) : Crece k k' := by
  obtain ⟨-, -, ⟨r, hr, -, hsr⟩, ⟨m, hm, -, hsm⟩⟩ := h
  exact ⟨hplan, hquantum, ⟨r, hr, hsr⟩, ⟨m, hm, hsm⟩⟩

theorem iniciar_crece (cfg : KernelConfiguracion) (k : Estado) (p : ℕ) (motivo : Cadena) :
    Crece k (iniciar cfg k p motivo) := by
  apply Crece.of_llegadas (iniciar_llegadas cfg k p motivo)
  · unfold iniciar
    split_ifs <;> rfl
  · unfold iniciar
    split_ifs
    · exact Nat.le_succ _
    · exact le_rfl
    · exact le_rfl

theorem desbloquear_crece (h : desbloquear cfg k l motivo = some k')
    (hl : l ≠ .ready ∧ l ≠ .readyM) : Crece k k' := by
  obtain ⟨q, k₁, hd, rfl⟩ := desbloquear_eq_some h
  obtain ⟨resto, -, rfl⟩ := desencolar_eq_some hd
  have hsale : Crece k { k with cola := Function.update k.cola l resto } :=
    .of_update rfl hl rfl rfl rfl rfl
  exact hsale.trans (iniciar_crece cfg _ q motivo)

theorem signal_crece {recurso : Cadena} {b : Bool} (h : signal cfg k recurso p = some (k', b)) :
    Crece k k' := by
  rcases signal_cases h with ⟨-, rfl, -⟩ | ⟨i, k₁, -, -, hk₁, hquitar⟩
  · exact .refl k'
  · obtain ⟨-, rfl⟩ := quitar_eq_some hquitar
    have h₁ : Crece k k₁ := by
      rcases hk₁ with ⟨-, hdes⟩ | ⟨-, rfl⟩
      · have hcrece := desbloquear_crece hdes (by simp)
        exact ⟨hcrece.planificacion, hcrece.quantum, hcrece.ready, hcrece.readyM⟩
      · exact .of_eq rfl rfl rfl rfl rfl
    exact h₁.trans (.of_eq rfl rfl rfl rfl rfl)

theorem exitPrima_crece (h : exitPrima cfg k p = some k') :
    Crece k k' := by
  obtain ⟨k₁, hl, rfl⟩ := exitPrima_eq_some h
  have h₁ : Crece k k₁ := liberarRecursosDesde_induct (P := Crece k)
    (fun _ _ _ _ h _ hs => h.trans (signal_crece hs)) (.refl k) hl
  exact h₁.trans (.of_update (l := .exit) rfl (by decide) rfl rfl rfl rfl)

theorem wait_crece (cfg : KernelConfiguracion) (k : Estado) (recurso : Cadena) (p : ℕ) :
    Crece k (wait cfg k recurso p).1 := by
  rcases wait_cases cfg k recurso p with ⟨-, heq⟩ | ⟨i, k₁, -, rfl, ⟨-, heq⟩ | ⟨-, heq⟩⟩
  · rw [heq]
    exact .refl k
  · rw [heq]
    exact .of_update (l := .recurso i) rfl (by simp) rfl rfl rfl rfl
  · rw [heq]
    exact .of_eq rfl rfl rfl rfl rfl

theorem bloquearPorIo_crece {interfaz : Cadena}
    (h : bloquearPorIo cfg k lista p motivo interfaz = some k') : Crece k k' := by
  obtain ⟨i, mensajes, -, -, rfl⟩ := bloquearPorIo_eq_some h
  exact .of_update (l := .io i) rfl (by simp) rfl rfl rfl rfl

theorem atenderSolicitudCpu_crece (h : atenderSolicitudCpu cfg k lista p motivo = some k') :
    Crece k k' := by
  rcases atenderSolicitudCpu_cases h with ⟨-, rfl⟩ | ⟨k₀, hk₀, hcases⟩
  · exact iniciar_crece cfg k p motivo
  have h₀ : Crece k k₀ := by
    rw [hk₀]
    exact .of_eq rfl rfl rfl rfl rfl
  apply h₀.trans
  rcases hcases with ⟨noCumplio, motivo', -, ht⟩ | ⟨interfaz, -, hb⟩ | ⟨recurso, rfl⟩ |
    ⟨recurso, hs⟩ | rfl
  · obtain ⟨k₁, he, rfl⟩ := terminar_eq_some ht
    have hdesalojar : Crece k₀ (desalojarPorInstruccion cfg k₀) := .of_eq rfl rfl rfl rfl rfl
    exact (hdesalojar.trans (exitPrima_crece he)).trans (.of_eq rfl rfl rfl rfl rfl)
  · exact bloquearPorIo_crece hb
  · exact wait_crece cfg _ recurso p
  · exact signal_crece hs
  · exact .refl _

theorem administrarProcesosNew_crece (h : administrarProcesosNew k = some k') : Crece k k' := by
  obtain ⟨q, k₁, pendientes, primero, -, -, hd, -, rfl⟩ := administrarProcesosNew_eq_some h
  obtain ⟨resto, -, rfl⟩ := desencolar_eq_some hd
  have hsale : Crece k { k with cola := Function.update k.cola .new resto } :=
    .of_update rfl (by decide) rfl rfl rfl rfl
  apply hsale.trans
  refine ⟨rfl, le_rfl, ⟨[q], ?_, rfl⟩, ⟨[], ?_, rfl⟩⟩
  · simp [Estado.cambiarEstado, Estado.encolar]
  · simp [Estado.cambiarEstado, Estado.encolar]

/-! ### The pieces of a dispatch -/

/-- `replanificar` once it holds `sem_planificacion`, up to the choice of the ready queue. -/
def elegirReplanificacion (cfg : KernelConfiguracion) (k : Estado) (motivo : Cadena) :
    Option (Estado × Lugar) :=
  if stringEqualsIgnoreCase motivo "QUANTUM".toList then
    if k.semReplanificacionQuantum = 0 then none
    else
      let k := { k with semReplanificacionQuantum := k.semReplanificacionQuantum - 1 }
      some (k, elegirCola cfg k motivo)
  else some (k, elegirCola cfg k motivo)

/-- **One after another, the pieces are `replanificar`.** -/
theorem replanificar_por_tramos (cfg : KernelConfiguracion) (k : Estado) (motivo : Cadena) :
    replanificar cfg k motivo =
      if k.semPlanificacion = 0 then none
      else
        (elegirReplanificacion cfg { k with semPlanificacion := k.semPlanificacion - 1 }
          motivo).bind fun (k, l) => terminarReplanificacion k l := by
  unfold replanificar empezarReplanificacion
  by_cases hsem : k.semPlanificacion = 0
  · rw [if_pos hsem, if_pos hsem]
    rfl
  · rw [if_neg hsem, if_neg hsem]
    rfl

/-- A call that holds `sem_planificacion`: `replanificar` before and after its choice of the queue,
and the pause of a request. -/
inductive Tramo
  | tomo (motivo : Cadena)
  | eligio (motivo : Cadena) (l : Lugar)
  | pausa
  deriving DecidableEq

/-- The call can go on at once until it posts `sem_planificacion`. -/
def Tramo.PuedeTerminar (cfg : KernelConfiguracion) (k : Estado) : Tramo → Prop
  | tomo motivo => ∃ k' l, elegirReplanificacion cfg k motivo = some (k', l) ∧
      (terminarReplanificacion k' l).isSome = true
  | eligio _ l => (terminarReplanificacion k l).isSome = true
  | pausa => True

/-- A dispatch that has chosen a queue waits for a permit, and takes a process. -/
theorem terminarReplanificacion_isSome_iff (k : Estado) (l : Lugar) :
    (terminarReplanificacion k l).isSome = true ↔
      if l = .readyM then k.semProcesosEnReadyM ≠ 0 ∧ k.cola .readyM ≠ []
      else k.semProcesosEnReady ≠ 0 ∧ k.cola .ready ≠ [] := by
  have hdesencolar (k : Estado) (m : Lugar) :
      (k.desencolar m).isSome = true ↔ k.cola m ≠ [] := by
    unfold Estado.desencolar
    cases k.cola m <;> simp
  unfold terminarReplanificacion
  split_ifs with hl hsem hsem
  · simp [hsem]
  · rw [Option.isSome_map, hdesencolar]
    simp [hsem]
  · simp [hsem]
  · rw [Option.isSome_map, hdesencolar]
    simp [hsem]

/-- What the choice of the queue does, when it comes back. -/
theorem elegirReplanificacion_eq_some (h : elegirReplanificacion cfg k motivo = some (k', l)) :
    ∃ quantum, k' = { k with semReplanificacionQuantum := quantum } ∧ l = elegirCola cfg k motivo ∧
      (stringEqualsIgnoreCase motivo "QUANTUM".toList = true →
        k.semReplanificacionQuantum ≠ 0) := by
  unfold elegirReplanificacion at h
  split_ifs at h with hquantum hsem
  · cases h
    exact ⟨_, rfl, rfl, fun _ => hsem⟩
  · cases h
    exact ⟨_, rfl, rfl, fun hq => absurd hq hquantum⟩

/-- A dispatch that has not chosen a queue yet. -/
theorem puedeTerminar_tomo_iff :
    (Tramo.tomo motivo).PuedeTerminar cfg k ↔
      (stringEqualsIgnoreCase motivo "QUANTUM".toList = true → k.semReplanificacionQuantum ≠ 0) ∧
        (terminarReplanificacion k (elegirCola cfg k motivo)).isSome = true := by
  constructor
  · rintro ⟨k', l, helegir, htermina⟩
    obtain ⟨quantum, rfl, rfl, hsem⟩ := elegirReplanificacion_eq_some helegir
    rw [terminarReplanificacion_isSome_iff] at htermina
    exact ⟨hsem, (terminarReplanificacion_isSome_iff k _).2 htermina⟩
  · rintro ⟨hsem, htermina⟩
    rw [terminarReplanificacion_isSome_iff] at htermina
    by_cases hquantum : stringEqualsIgnoreCase motivo "QUANTUM".toList = true
    · have helegir : elegirReplanificacion cfg k motivo = some ({ k with
          semReplanificacionQuantum := k.semReplanificacionQuantum - 1 },
          elegirCola cfg k motivo) := by
        unfold elegirReplanificacion
        rw [if_pos hquantum, if_neg (hsem hquantum)]
        rfl
      exact ⟨_, _, helegir, (terminarReplanificacion_isSome_iff _ _).2 htermina⟩
    · have helegir : elegirReplanificacion cfg k motivo = some (k, elegirCola cfg k motivo) :=
        if_neg hquantum
      exact ⟨_, _, helegir, (terminarReplanificacion_isSome_iff _ _).2 htermina⟩

/-- Arrivals at the ready queues do not stop a call that could go on. -/
theorem Tramo.PuedeTerminar.crece {t : Tramo} (h : t.PuedeTerminar cfg k) (hk : Crece k k') :
    t.PuedeTerminar cfg k' := by
  obtain ⟨-, hquantum, ⟨r, hr, hsr⟩, ⟨m, hm, hsm⟩⟩ := hk
  have hready : k.semProcesosEnReady ≠ 0 ∧ k.cola .ready ≠ [] →
      k'.semProcesosEnReady ≠ 0 ∧ k'.cola .ready ≠ [] := by
    rintro ⟨hsem, hcola⟩
    exact ⟨by omega, by simp [hr, hcola]⟩
  have hreadyM : k.semProcesosEnReadyM ≠ 0 ∧ k.cola .readyM ≠ [] →
      k'.semProcesosEnReadyM ≠ 0 ∧ k'.cola .readyM ≠ [] := by
    rintro ⟨hsem, hcola⟩
    exact ⟨by omega, by simp [hm, hcola]⟩
  cases t with
  | pausa => trivial
  | eligio motivo l =>
    have h' := (terminarReplanificacion_isSome_iff k l).1 h
    refine (terminarReplanificacion_isSome_iff k' l).2 ?_
    split_ifs at h' ⊢ with hl
    · exact hreadyM h'
    · exact hready h'
  | tomo motivo =>
    obtain ⟨hsem, h'⟩ := puedeTerminar_tomo_iff.1 h
    refine puedeTerminar_tomo_iff.2 ⟨fun hq => ?_, ?_⟩
    · have hne := hsem hq
      omega
    · rw [terminarReplanificacion_isSome_iff] at h' ⊢
      by_cases hvrr : cfg.algoritmoPlanificacion = .VRR
      · -- the choice changes only when a process arrives at `cola_ready_m`
        rcases elegirCola_cases hvrr k motivo with ⟨hl, -⟩ | ⟨hl, hnil⟩
        · rw [hl, if_pos rfl] at h'
          rcases elegirCola_cases hvrr k' motivo with ⟨hl', -⟩ | ⟨-, hnil'⟩
          · rw [hl', if_pos rfl]
            exact hreadyM h'
          · exact absurd hnil' (hreadyM h').2
        · rw [hl, if_neg (by decide)] at h'
          rcases elegirCola_cases hvrr k' motivo with ⟨hl', hvacia⟩ | ⟨hl', -⟩
          · have hne : k'.cola .readyM ≠ [] := fun hnil' => (hready h').2 (hvacia hnil')
            have hpos : 0 < m.length := by
              rw [hm, hnil, List.nil_append] at hne
              exact List.length_pos_of_ne_nil hne
            rw [hl', if_pos rfl]
            exact ⟨by omega, hne⟩
          · rw [hl', if_neg (by decide)]
            exact hready h'
      · have hl (k : Estado) : elegirCola cfg k motivo = .ready := by
          unfold elegirCola
          rw [if_neg fun hc => hvrr hc.1]
        rw [hl, if_neg (by decide)] at h' ⊢
        exact hready h'

/-! ### The console, the dispatches and the kernel -/

/-- The commands that start and stop planning. -/
inductive Comando
  | iniciarPlanificacion
  | detenerPlanificacion
  deriving DecidableEq

/-- The kernel, the calls that hold `sem_planificacion`, and the console. -/
structure EstadoPlanificacion where
  kernel : Estado
  enCurso : List Tramo
  /-- The last of the two commands that the console has read. -/
  ultimo : Option Comando
  /-- The console waits in `DETENER_PLANIFICACION`. -/
  esperando : Bool

/-- Before the first command. -/
def EstadoPlanificacion.inicial (cfg : KernelConfiguracion) : EstadoPlanificacion :=
  ⟨Estado.inicial cfg, [], none, false⟩

/-- A step of one of the threads. -/
inductive EventoPlanificacion
  /-- The console reads a command; the wait of `DETENER_PLANIFICACION` is over. -/
  | iniciarPlanificacion
  | detenerPlanificacion
  | detenida
  /-- `replanificar` passes its initial wait, and chooses a queue; a request pauses. -/
  | tomar (motivo : Cadena)
  | elegir (i : ℕ)
  | pausar
  /-- A call that holds `sem_planificacion` goes on until it has posted it. -/
  | terminar (i : ℕ)
  /-- Any other step of the kernel. -/
  | kernel (ev : Evento)

/-- A step of a call that holds `sem_planificacion`, or the end of the wait for it. -/
def EventoPlanificacion.cede : EventoPlanificacion → Bool
  | detenida => true
  | elegir _ => true
  | terminar _ => true
  | _ => false

/-- The other steps of the kernel; while the console waits it reads no command. -/
def EstadoPlanificacion.otroPaso (s : EstadoPlanificacion) : Evento → Bool
  | .iniciarPlanificacion => false
  | .detenerPlanificacion => false
  | .replanificar _ => false
  | .iniciarProceso _ => !s.esperando
  | .finalizarProceso _ => !s.esperando
  | _ => true

/-- `sem_post(&sem_planificacion)`. -/
def Estado.postPlanificacion (k : Estado) : Estado :=
  { k with semPlanificacion := k.semPlanificacion + 1 }

/-- `sem_wait(&sem_planificacion)`. -/
def Estado.waitPlanificacion (k : Estado) : Option Estado :=
  if k.semPlanificacion = 0 then none
  else some { k with semPlanificacion := k.semPlanificacion - 1 }

variable (cfg) in
/-- One step. -/
def pasoPlanificacion (s : EstadoPlanificacion) : EventoPlanificacion → Option EstadoPlanificacion
  | .iniciarPlanificacion =>
    if s.esperando then none
    else some { s with kernel := s.kernel.postPlanificacion, ultimo := some .iniciarPlanificacion }
  | .detenerPlanificacion =>
    if s.esperando then none
    else some { s with ultimo := some .detenerPlanificacion, esperando := true }
  | .detenida =>
    if s.esperando then
      s.kernel.waitPlanificacion.map fun k => { s with kernel := k, esperando := false }
    else none
  | .tomar motivo =>
    s.kernel.waitPlanificacion.map fun k =>
      { s with kernel := k, enCurso := s.enCurso ++ [.tomo motivo] }
  | .elegir i =>
    match s.enCurso[i]? with
    | some (.tomo motivo) =>
      (elegirReplanificacion cfg s.kernel motivo).map fun (k, l) =>
        { s with kernel := k, enCurso := s.enCurso.set i (.eligio motivo l) }
    | _ => none
  | .pausar =>
    s.kernel.waitPlanificacion.map fun k => { s with kernel := k, enCurso := s.enCurso ++ [.pausa] }
  | .terminar i =>
    match s.enCurso[i]? with
    | some (.eligio motivo l) =>
      (terminarReplanificacion s.kernel l).map fun k =>
        { s with
          kernel := { k with porReplanificar := k.porReplanificar.erase motivo }
          enCurso := s.enCurso.eraseIdx i }
    | some .pausa =>
      some { s with kernel := s.kernel.postPlanificacion, enCurso := s.enCurso.eraseIdx i }
    | _ => none
  | .kernel ev =>
    if s.otroPaso ev then (paso cfg s.kernel ev).map fun k => { s with kernel := k } else none

/-- Planning follows the last command. -/
structure Obedece (cfg : KernelConfiguracion) (s : EstadoPlanificacion) : Prop where
  /-- `sem_planificacion` does not exceed 1. -/
  uno : s.kernel.semPlanificacion ≤ 1
  /-- The command that the console has read comes to its end, without any other step of the
  kernel. -/
  completa : ∃ evs s', (∀ ev ∈ evs, ev.cede = true) ∧
    run (pasoPlanificacion cfg) s evs = some s' ∧ s'.esperando = false
  /-- After `DETENER_PLANIFICACION` no `replanificar` passes its initial wait. -/
  detenida : s.ultimo = some .detenerPlanificacion → s.esperando = false →
    ∀ motivo, pasoPlanificacion cfg s (.tomar motivo) = none
  /-- After `INICIAR_PLANIFICACION` it does, unless another call is between its two. -/
  iniciada : s.ultimo = some .iniciarPlanificacion →
    (∀ motivo, (pasoPlanificacion cfg s (.tomar motivo)).isSome = true) ∨ s.enCurso ≠ []

/-- The commands alternate, starting with `INICIAR_PLANIFICACION`; and while the console waits in
`DETENER_PLANIFICACION` no call holds `sem_planificacion` that waits for something else. -/
def Ordenada (cfg : KernelConfiguracion) (s : EstadoPlanificacion) : EventoPlanificacion → Prop
  | .iniciarPlanificacion => s.ultimo ≠ some .iniciarPlanificacion
  | .detenerPlanificacion =>
    s.ultimo = some .iniciarPlanificacion ∧ ∀ t ∈ s.enCurso, t.PuedeTerminar cfg s.kernel
  | .tomar motivo => s.esperando = true → (Tramo.tomo motivo).PuedeTerminar cfg s.kernel
  | _ => True

variable {s s' : EstadoPlanificacion}

/-! ### The account of the semaphore -/

/-- While planning is on there is one permit, or one call that holds it. -/
structure Cuenta (cfg : KernelConfiguracion) (s : EstadoPlanificacion) : Prop where
  suma : s.kernel.semPlanificacion + s.enCurso.length =
    if s.ultimo = some .iniciarPlanificacion ∨ s.esperando = true then 1 else 0
  ultimo : s.esperando = true → s.ultimo = some .detenerPlanificacion
  puede : s.esperando = true → ∀ t ∈ s.enCurso, t.PuedeTerminar cfg s.kernel

theorem waitPlanificacion_eq_some (h : k.waitPlanificacion = some k') :
    k.semPlanificacion ≠ 0 ∧ k' = { k with semPlanificacion := k.semPlanificacion - 1 } := by
  unfold Estado.waitPlanificacion at h
  split_ifs at h with hsem
  exact ⟨hsem, (Option.some.inj h).symm⟩

/-- Whether a call can go on does not depend on `sem_planificacion`. -/
theorem Tramo.PuedeTerminar.planificacion {t : Tramo} (h : t.PuedeTerminar cfg k) (n : ℕ) :
    t.PuedeTerminar cfg { k with semPlanificacion := n } := by
  cases t with
  | pausa => trivial
  | eligio motivo l =>
    refine (terminarReplanificacion_isSome_iff _ l).2 ?_
    exact (terminarReplanificacion_isSome_iff k l).1 h
  | tomo motivo =>
    obtain ⟨hsem, htermina⟩ := puedeTerminar_tomo_iff.1 h
    refine puedeTerminar_tomo_iff.2 ⟨hsem, (terminarReplanificacion_isSome_iff _ _).2 ?_⟩
    exact (terminarReplanificacion_isSome_iff k _).1 htermina

/-- The end of a dispatch posts `sem_planificacion`. -/
theorem terminarReplanificacion_planificacion (h : terminarReplanificacion k l = some k') :
    k'.semPlanificacion = k.semPlanificacion + 1 := by
  obtain ⟨m, q, k₁, _, _, _, _, -, hd, rfl⟩ := terminarReplanificacion_desencola h
  obtain ⟨resto, -, rfl⟩ := desencolar_eq_some hd
  rfl

/-- `encontrar_pcb` leaves `sem_planificacion`. -/
theorem encontrarPcb_planificacion (h : encontrarPcb cfg k p = some k') :
    k'.semPlanificacion = k.semPlanificacion := by
  obtain ⟨_, _, _, _, _, _, rfl⟩ := encontrarPcb_eq_some h
  rfl

/-- What the rest of the kernel does to a dispatch. -/
theorem paso_planificacion {ev : Evento} (hotro : s.otroPaso ev = true)
    (hp : paso cfg s.kernel ev = some k') :
    k'.semPlanificacion = s.kernel.semPlanificacion ∧
      (s.esperando = true → Crece s.kernel k') := by
  have hcrece (h : Crece s.kernel k') : k'.semPlanificacion = s.kernel.semPlanificacion ∧
      (s.esperando = true → Crece s.kernel k') := ⟨h.planificacion, fun _ => h⟩
  cases ev with
  | iniciarPlanificacion => cases hotro
  | detenerPlanificacion => cases hotro
  | replanificar motivo => cases hotro
  | iniciarProceso path =>
    cases hp
    exact hcrece (.of_update (l := .new) rfl (by decide) rfl rfl rfl rfl)
  | finalizarProceso pid =>
    obtain ⟨k₁, mensajes, he, hexit⟩ := finalizarProceso_eq_some hp
    refine ⟨?_, fun hesp => ?_⟩
    · have hplan := encontrarPcb_planificacion he
      exact (exitPrima_crece hexit).planificacion.trans hplan
    · simp [EstadoPlanificacion.otroPaso, hesp] at hotro
  | administrarProcesosNew => exact hcrece (administrarProcesosNew_crece hp)
  | enviarACpu =>
    obtain ⟨-, rfl⟩ := enviarACpu_eq_some hp
    exact hcrece (.of_eq rfl rfl rfl rfl rfl)
  | paquete motivo lista =>
    obtain ⟨pid, -, hr⟩ := paquete_eq_some hp
    have h₀ : Crece s.kernel { s.kernel with motivo := motivo } := .of_eq rfl rfl rfl rfl rfl
    exact hcrece (h₀.trans (atenderSolicitudCpu_crece hr))
  | finInstruccion =>
    cases hp
    apply hcrece
    unfold recibirMensajeCpu
    split_ifs <;> exact .of_eq rfl rfl rfl rfl rfl
  | quantum finPorQuantum =>
    cases hp
    exact hcrece (.of_eq rfl rfl rfl rfl rfl)
  | conectarInterfaz idInterfaz permitidas conexion =>
    cases hp
    apply hcrece
    unfold conectarInterfaz
    dsimp only
    split_ifs
    · exact .of_eq rfl rfl rfl rfl rfl
    · exact .of_update (l := .io s.kernel.interfaces.length) rfl (by simp) rfl rfl rfl rfl
  | finDeIo idInterfaz mensaje =>
    rcases finDeIo_cases hp with rfl | ⟨i, fin, -, -, hd⟩
    · exact hcrece (.refl _)
    · exact hcrece (desbloquear_crece hd (by simp))

theorem cuenta_inicial (cfg : KernelConfiguracion) : Cuenta cfg (EstadoPlanificacion.inicial cfg) :=
  ⟨rfl, by rintro ⟨⟩, by rintro ⟨⟩⟩

/-- While the console waits, a permit is left or one call holds it. -/
theorem Cuenta.uno (h : Cuenta cfg s) (hesp : s.esperando = true) :
    s.kernel.semPlanificacion + s.enCurso.length = 1 := by
  have hsuma := h.suma
  rwa [if_pos (Or.inr hesp)] at hsuma

/-- A call takes the permit. -/
theorem Cuenta.tomar {t : Tramo} (h : Cuenta cfg s) (hw : s.kernel.waitPlanificacion = some k')
    (ht : s.esperando = true → t.PuedeTerminar cfg s.kernel) :
    Cuenta cfg { s with kernel := k', enCurso := s.enCurso ++ [t] } := by
  obtain ⟨hsem, rfl⟩ := waitPlanificacion_eq_some hw
  refine ⟨?_, h.ultimo, fun hesp u hu => ?_⟩
  · have hsuma := h.suma
    rw [← hsuma, List.length_append, List.length_singleton]
    show s.kernel.semPlanificacion - 1 + _ = _
    omega
  · have huno := h.uno hesp
    have hnil : s.enCurso = [] := List.eq_nil_of_length_eq_zero (by omega)
    obtain rfl : u = t := by simpa [hnil] using hu
    exact (ht hesp).planificacion _

/-- A call gives the permit back. -/
theorem Cuenta.terminar {i : ℕ} (h : Cuenta cfg s) (hi : i < s.enCurso.length)
    (hsem : k'.semPlanificacion = s.kernel.semPlanificacion + 1) :
    Cuenta cfg { s with kernel := k', enCurso := s.enCurso.eraseIdx i } := by
  have hlen : (s.enCurso.eraseIdx i).length = s.enCurso.length - 1 := List.length_eraseIdx_of_lt hi
  refine ⟨?_, h.ultimo, fun hesp u hu => ?_⟩
  · have hsuma := h.suma
    rw [← hsuma]
    show k'.semPlanificacion + (s.enCurso.eraseIdx i).length = _
    omega
  · have huno := h.uno hesp
    have hnil : s.enCurso.eraseIdx i = [] := List.eq_nil_of_length_eq_zero (by omega)
    have hu' : u ∈ s.enCurso.eraseIdx i := hu
    simp [hnil] at hu'

/-- Every step that keeps the order of the commands keeps the account. -/
theorem pasoPlanificacion_cuenta {ev : EventoPlanificacion} (h : Cuenta cfg s)
    (hc : Ordenada cfg s ev) (hp : pasoPlanificacion cfg s ev = some s') : Cuenta cfg s' := by
  have hsuma := h.suma
  cases ev with
  | iniciarPlanificacion =>
    rcases ite_eq_iff.1 hp with ⟨-, hp⟩ | ⟨hesp, hp⟩
    · cases hp
    · cases hp
      have hne : s.ultimo ≠ some .iniciarPlanificacion := hc
      rw [if_neg (by simp [hne, hesp])] at hsuma
      refine ⟨?_, fun hesp' => absurd hesp' hesp, fun hesp' => absurd hesp' hesp⟩
      rw [if_pos (Or.inl rfl)]
      show s.kernel.semPlanificacion + 1 + s.enCurso.length = 1
      omega
  | detenerPlanificacion =>
    obtain ⟨hultimo, hpuede⟩ := hc
    rcases ite_eq_iff.1 hp with ⟨-, hp⟩ | ⟨-, hp⟩
    · cases hp
    · cases hp
      rw [if_pos (Or.inl hultimo)] at hsuma
      refine ⟨?_, fun _ => rfl, fun _ => hpuede⟩
      rw [if_pos (Or.inr rfl)]
      exact hsuma
  | detenida =>
    rcases ite_eq_iff.1 hp with ⟨hesp, hp⟩ | ⟨-, hp⟩
    · obtain ⟨k, hk, rfl⟩ := Option.map_eq_some_iff.1 hp
      obtain ⟨hsem, rfl⟩ := waitPlanificacion_eq_some hk
      have huno := h.uno hesp
      refine ⟨?_, by rintro ⟨⟩, by rintro ⟨⟩⟩
      rw [if_neg (by simp [h.ultimo hesp])]
      show s.kernel.semPlanificacion - 1 + s.enCurso.length = 0
      omega
    · cases hp
  | tomar motivo =>
    obtain ⟨k, hk, rfl⟩ := Option.map_eq_some_iff.1 hp
    exact h.tomar hk hc
  | pausar =>
    obtain ⟨k, hk, rfl⟩ := Option.map_eq_some_iff.1 hp
    exact h.tomar hk fun _ => trivial
  | elegir i =>
    simp only [pasoPlanificacion] at hp
    split at hp
    · rename_i motivo hi
      obtain ⟨⟨k, l⟩, he, rfl⟩ := Option.map_eq_some_iff.1 hp
      obtain ⟨quantum, rfl, rfl, -⟩ := elegirReplanificacion_eq_some he
      refine ⟨?_, h.ultimo, fun hesp u hu => ?_⟩
      · rw [← hsuma]
        show s.kernel.semPlanificacion + (s.enCurso.set i _).length = _
        rw [List.length_set]
      · -- it is the only call
        obtain ⟨hlt, -⟩ := List.getElem?_eq_some_iff.1 hi
        have huno := h.uno hesp
        obtain ⟨t, ht⟩ := List.length_eq_one_iff.1 (by omega : s.enCurso.length = 1)
        obtain rfl : i = 0 := by omega
        obtain ⟨k', l', he', htermina⟩ := h.puede hesp _ (List.mem_of_getElem? hi)
        rw [he] at he'
        cases he'
        obtain rfl : u = .eligio motivo (elegirCola cfg s.kernel motivo) := by simpa [ht] using hu
        exact htermina
    · cases hp
  | terminar i =>
    simp only [pasoPlanificacion] at hp
    split at hp
    · rename_i motivo l hi
      obtain ⟨k, hk, rfl⟩ := Option.map_eq_some_iff.1 hp
      have hsem := terminarReplanificacion_planificacion hk
      exact h.terminar (List.getElem?_eq_some_iff.1 hi).1 hsem
    · rename_i hi
      cases hp
      exact h.terminar (List.getElem?_eq_some_iff.1 hi).1 rfl
    · cases hp
  | kernel ev =>
    rcases ite_eq_iff.1 hp with ⟨hotro, hp⟩ | ⟨-, hp⟩
    · obtain ⟨k, hk, rfl⟩ := Option.map_eq_some_iff.1 hp
      obtain ⟨hplan, hcrece⟩ := paso_planificacion hotro hk
      refine ⟨?_, h.ultimo, fun hesp t ht => (h.puede hesp t ht).crece (hcrece hesp)⟩
      rw [← hsuma]
      show k.semPlanificacion + s.enCurso.length = _
      rw [hplan]
    · cases hp

/-- A call that can go on goes on until its end. -/
theorem Tramo.PuedeTerminar.cede {t : Tramo} (h : t.PuedeTerminar cfg s.kernel)
    (hcurso : s.enCurso = [t]) :
    ∃ evs s', (∀ ev ∈ evs, ev.cede = true) ∧ run (pasoPlanificacion cfg) s evs = some s' ∧
      s'.esperando = s.esperando ∧ s'.kernel.semPlanificacion ≠ 0 := by
  cases t with
  | pausa =>
    refine ⟨[.terminar 0], { s with kernel := s.kernel.postPlanificacion, enCurso := [] },
      by simp [EventoPlanificacion.cede], ?_, rfl, Nat.succ_ne_zero _⟩
    simp [run_cons, pasoPlanificacion, hcurso]
  | eligio motivo l =>
    obtain ⟨k, hk⟩ := Option.isSome_iff_exists.1 h
    refine ⟨[.terminar 0], { s with
        kernel := { k with porReplanificar := k.porReplanificar.erase motivo }, enCurso := [] },
      by simp [EventoPlanificacion.cede], ?_, rfl, ?_⟩
    · simp [run_cons, pasoPlanificacion, hcurso, hk]
    · simp [terminarReplanificacion_planificacion hk]
  | tomo motivo =>
    obtain ⟨k₁, l, he, htermina⟩ := h
    obtain ⟨k, hk⟩ := Option.isSome_iff_exists.1 htermina
    refine ⟨[.elegir 0, .terminar 0], { s with
        kernel := { k with porReplanificar := k.porReplanificar.erase motivo }, enCurso := [] },
      by simp [EventoPlanificacion.cede], ?_, rfl, ?_⟩
    · simp [run_cons, pasoPlanificacion, hcurso, he, hk]
    · simp [terminarReplanificacion_planificacion hk]

/-- The wait of `DETENER_PLANIFICACION` ends when there is a permit. -/
theorem pasoPlanificacion_detenida (cfg : KernelConfiguracion) (hesp : s.esperando = true)
    (hsem : s.kernel.semPlanificacion ≠ 0) :
    ∃ s', pasoPlanificacion cfg s .detenida = some s' ∧ s'.esperando = false := by
  simp [pasoPlanificacion, hesp, Estado.waitPlanificacion, hsem]

theorem Cuenta.completa (h : Cuenta cfg s) :
    ∃ evs s', (∀ ev ∈ evs, ev.cede = true) ∧ run (pasoPlanificacion cfg) s evs = some s' ∧
      s'.esperando = false := by
  cases hesp : s.esperando with
  | false => exact ⟨[], s, by simp, rfl, hesp⟩
  | true =>
    -- the permit is left, or the only call that holds it gives it back first
    obtain ⟨evs, s₁, hevs, hrun, hesp₁, hsem⟩ : ∃ evs s₁, (∀ ev ∈ evs, ev.cede = true) ∧
        run (pasoPlanificacion cfg) s evs = some s₁ ∧ s₁.esperando = s.esperando ∧
        s₁.kernel.semPlanificacion ≠ 0 := by
      by_cases hsem : s.kernel.semPlanificacion = 0
      · have huno := h.uno hesp
        obtain ⟨t, ht⟩ := List.length_eq_one_iff.1 (by omega : s.enCurso.length = 1)
        exact (h.puede hesp t (by simp [ht])).cede ht
      · exact ⟨[], s, by simp, rfl, rfl, hsem⟩
    obtain ⟨s', hs', hfin⟩ := pasoPlanificacion_detenida cfg (hesp₁.trans hesp) hsem
    refine ⟨evs ++ [.detenida], s', ?_, ?_, hfin⟩
    · intro ev hev
      rcases List.mem_append.1 hev with hev | hev
      · exact hevs ev hev
      · rw [List.mem_singleton.1 hev]
        rfl
    · rw [run_append, hrun, Option.bind_some, run_cons, hs']
      rfl

theorem Cuenta.obedece (h : Cuenta cfg s) : Obedece cfg s := by
  have hsuma := h.suma
  refine ⟨?_, h.completa, fun hultimo hesp motivo => ?_, fun hultimo => ?_⟩
  · split_ifs at hsuma
    · omega
    · omega
  · rw [if_neg (by simp [hultimo, hesp])] at hsuma
    simp only [pasoPlanificacion, Estado.waitPlanificacion]
    rw [if_pos (by omega)]
    rfl
  · rw [if_pos (Or.inl hultimo)] at hsuma
    by_cases hsem : s.kernel.semPlanificacion = 0
    · exact Or.inr (List.ne_nil_of_length_pos (by omega))
    · refine Or.inl fun motivo => ?_
      simp [pasoPlanificacion, Estado.waitPlanificacion, hsem]

/-- **Planning follows the last command** in every state of a run in which the commands alternate,
and none waits for a call that waits for something else. -/
theorem planificacion_obedece (cfg : KernelConfiguracion) (evs : List EventoPlanificacion)
    (h : Meets (pasoPlanificacion cfg) (Ordenada cfg) (EstadoPlanificacion.inicial cfg) evs) :
    Along (pasoPlanificacion cfg) (Obedece cfg) (EstadoPlanificacion.inicial cfg) evs :=
  (along_of_meets (fun _ _ _ hs hc hp => pasoPlanificacion_cuenta hs hc hp)
    (cuenta_inicial cfg) h).imp fun _ hs => hs.obedece

/-- A process is dispatched, planning is stopped during the dispatch, and started again. -/
theorem planificacion_obedece_uno :
    Along (pasoPlanificacion ⟨.FIFO, [], 1⟩) (Obedece ⟨.FIFO, [], 1⟩)
      (EstadoPlanificacion.inicial ⟨.FIFO, [], 1⟩)
      [.kernel (.iniciarProceso []), .kernel .administrarProcesosNew, .iniciarPlanificacion,
        .tomar "NEW".toList, .elegir 0, .detenerPlanificacion, .terminar 0, .detenida,
        .iniciarPlanificacion] := by
  apply planificacion_obedece
  iterate 2
    rintro _ ⟨⟩
    refine ⟨trivial, ?_⟩
  rintro _ ⟨⟩
  refine ⟨by rintro ⟨⟩, ?_⟩
  rintro _ ⟨⟩
  refine ⟨by rintro ⟨⟩, ?_⟩
  rintro _ ⟨⟩
  refine ⟨trivial, ?_⟩
  rintro _ ⟨⟩
  refine ⟨⟨rfl, by rintro t (_ | ⟨_, ⟨⟩⟩); rfl⟩, ?_⟩
  iterate 2
    rintro _ ⟨⟩
    refine ⟨trivial, ?_⟩
  rintro _ ⟨⟩
  exact ⟨by rintro ⟨⟩, trivial⟩

/-- `INICIAR_PLANIFICACION` twice, and planning stays on after `DETENER_PLANIFICACION`. -/
theorem planificacion_iniciada_dos_veces :
    ∃ s s', run (pasoPlanificacion ⟨.FIFO, [], 1⟩) (EstadoPlanificacion.inicial ⟨.FIFO, [], 1⟩)
        [.iniciarPlanificacion, .iniciarPlanificacion] = some s ∧
      s.kernel.semPlanificacion = 2 ∧
      run (pasoPlanificacion ⟨.FIFO, [], 1⟩) s [.detenerPlanificacion, .detenida] = some s' ∧
      s'.esperando = false ∧
      (pasoPlanificacion ⟨.FIFO, [], 1⟩ s' (.tomar "NEW".toList)).isSome = true :=
  ⟨_, _, rfl, rfl, rfl, rfl, rfl⟩

/-- `DETENER_PLANIFICACION` while a dispatch waits for a process waits with it. -/
theorem planificacion_detenida_en_espera :
    ∃ s, run (pasoPlanificacion ⟨.FIFO, [], 1⟩) (EstadoPlanificacion.inicial ⟨.FIFO, [], 1⟩)
        [.iniciarPlanificacion, .tomar "NEW".toList, .elegir 0, .detenerPlanificacion] = some s ∧
      s.esperando = true ∧
      ∀ ev : EventoPlanificacion, ev.cede = true →
        pasoPlanificacion ⟨.FIFO, [], 1⟩ s ev = none := by
  refine ⟨_, rfl, rfl, fun ev hev => ?_⟩
  cases ev with
  | detenida => rfl
  | elegir i => cases i <;> rfl
  | terminar i => cases i <;> rfl
  | _ => cases hev

end SimuladorSO.Kernel
