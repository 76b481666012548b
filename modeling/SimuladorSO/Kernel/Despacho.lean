import SimuladorSO.Kernel.Semaforos

/-!
# The dispatcher under VRR

`replanificar` chooses the ready queue once, from what the two queues hold and from its reason; then
it waits on the semaphore of that queue, while other threads make processes ready.

* `EstadoDespacho`, `pasoDespacho`: a call of `replanificar` and the arrivals during it;
* `DespachaBien`: it does not wait while the other queue holds a process, and takes the one it
  should;
* `replanificar_vrr_iff`: exactly when it does, by the order of the arrivals.
-/

namespace SimuladorSO.Kernel

open Queues Transitions Commons

/-- The kernel, and the queue that a call of `replanificar` has chosen, until it takes a process. -/
structure EstadoDespacho where
  kernel : Estado
  eligiendo : Option Lugar

/-- A call of `replanificar`, in its two parts, and the arrivals at the ready queues. -/
inductive EventoDespacho
  | replanificar (motivo : Cadena)
  | administrarProcesosNew
  /-- A thread makes the process it has taken out of another queue ready. -/
  | iniciar (pid : ℕ) (motivo : Cadena)
  | terminarReplanificacion

/-- One step; a process that becomes ready is in none of the queues of its kind. -/
def pasoDespacho (cfg : KernelConfiguracion) (s : EstadoDespacho) :
    EventoDespacho → Option EstadoDespacho
  | .replanificar motivo =>
    if s.eligiendo.isSome then none
    else (empezarReplanificacion cfg s.kernel motivo).map fun (k, l) => ⟨k, some l⟩
  | .administrarProcesosNew =>
    (administrarProcesosNew s.kernel).map fun k => { s with kernel := k }
  | .iniciar pid motivo =>
    if pid ∈ s.kernel.cola .new ++ s.kernel.cola .ready ++ s.kernel.cola .readyM then none
    else some { s with kernel := iniciar cfg s.kernel pid motivo }
  | .terminarReplanificacion =>
    s.eligiendo.bind fun l => (terminarReplanificacion s.kernel l).map fun k => ⟨k, none⟩

/-- The semaphore of a ready queue. -/
def Estado.permisos (k : Estado) (l : Lugar) : ℕ :=
  if l = .readyM then k.semProcesosEnReadyM else k.semProcesosEnReady

/-- The other ready queue. -/
def otraCola (l : Lugar) : Lugar := if l = .readyM then .ready else .readyM

/-- The dispatcher waits only while the other queue is empty, and, when there is a permit, takes the
head of `cola_ready_m` or, if there is none, that of `cola_ready`. -/
structure DespachaBien (s : EstadoDespacho) : Prop where
  espera : ∀ l, s.eligiendo = some l → s.kernel.permisos l = 0 → s.kernel.cola (otraCola l) = []
  toma : ∀ l, s.eligiendo = some l → s.kernel.permisos l ≠ 0 →
    ∃ p k, terminarReplanificacion s.kernel l = some k ∧ k.colaExec = [p] ∧
      (s.kernel.cola .readyM ++ s.kernel.cola .ready).head? = some p

/-- The arrivals that the choice of the queue has foreseen: none at `cola_ready_m` once `cola_ready`
is chosen, none at `cola_ready` before one at `cola_ready_m` if that is chosen; and no permit is
left over where the dispatcher is going to wait. -/
def LlegadaPrevista (cfg : KernelConfiguracion) (s : EstadoDespacho) : EventoDespacho → Prop
  | .replanificar motivo =>
    s.kernel.cola (elegirCola cfg s.kernel motivo) = [] →
      s.kernel.permisos (elegirCola cfg s.kernel motivo) = 0
  | .administrarProcesosNew => s.eligiendo = some .readyM → s.kernel.cola .readyM ≠ []
  | .iniciar _ motivo =>
    if stringEqualsIgnoreCase motivo "QUANTUM".toList then
      s.eligiendo = some .readyM → s.kernel.cola .readyM ≠ []
    else s.eligiendo ≠ some .ready
  | .terminarReplanificacion => True

variable {cfg : KernelConfiguracion} {k k' : Estado} {s s' : EstadoDespacho} {motivo : Cadena}
  {p : ℕ}

/-! ### Permits -/

/-- Every ready process has a permit, and is in one of the queues once. -/
structure Permisos (k : Estado) : Prop where
  ready : (k.cola .ready).length ≤ k.semProcesosEnReady
  readyM : (k.cola .readyM).length ≤ k.semProcesosEnReadyM
  distintos : (k.cola .new ++ k.cola .ready ++ k.cola .readyM).Nodup

/-- A process is in one queue. -/
theorem Ubicados.distintos (h : Ubicados cfg ∅ k) :
    (k.cola .new ++ k.cola .ready ++ k.cola .readyM).Nodup := by
  have hdisjuntas : ∀ l m, l ≠ m → ∀ a ∈ k.cola l, ∀ b ∈ k.cola m, a ≠ b := by
    rintro l m hlm a ha b hb rfl
    exact hlm (h.colocados.eq_of_mem ha hb)
  rw [List.nodup_append, List.nodup_append]
  refine ⟨⟨h.colocados.nodup _, h.colocados.nodup _, hdisjuntas .new .ready (by decide)⟩,
    h.colocados.nodup _, fun a ha b hb => ?_⟩
  rcases List.mem_append.1 ha with ha | ha
  · exact hdisjuntas .new .readyM (by decide) a ha b hb
  · exact hdisjuntas .ready .readyM (by decide) a ha b hb

/-- No step of the kernel takes a permit and leaves its process. -/
theorem paso_permisos (h : Ubicados cfg ∅ k) (hk : Permisos k) {ev : Evento}
    (hp : paso cfg k ev = some k') : Permisos k' := by
  obtain ⟨hready, hreadyM, -⟩ := hk
  obtain ⟨k₁, hsale, hllegan⟩ := paso_colas h hp
  obtain ⟨-, hxready, hxreadyM⟩ := hllegan.exceso
  have hk₁ : (k₁.cola .ready).length ≤ k₁.semProcesosEnReady ∧
      (k₁.cola .readyM).length ≤ k₁.semProcesosEnReadyM := by
    cases hsale with
    | nadie => exact ⟨hready, hreadyM⟩
    | crea p => exact ⟨by simpa using hready, by simpa using hreadyM⟩
    | admite hcola => exact ⟨by simpa using hready, by simpa using hreadyM⟩
    | despacha hcola =>
      rw [hcola, List.length_cons] at hready
      exact ⟨by simp; omega, by simpa using hreadyM⟩
    | despachaM hcola =>
      rw [hcola, List.length_cons] at hreadyM
      exact ⟨by simpa using hready, by simp; omega⟩
    | finaliza hev hcolas hsemNew hsemReady hsemReadyM hpids hpidsM =>
      rw [hcolas, hcolas, hsemReady, hsemReadyM]
      exact ⟨List.length_erase_le.trans hready, List.length_erase_le.trans hreadyM⟩
  exact ⟨by omega, by omega, (paso_ubicados h hp).distintos⟩

/-- The permits of every state of the kernel that can be reached. -/
theorem permisos_of_reachable (h : Reachable (paso cfg) (Estado.inicial cfg) k) : Permisos k := by
  have hinv : Ubicados cfg ∅ k ∧ Permisos k :=
    h.induct (P := fun k => Ubicados cfg ∅ k ∧ Permisos k)
      ⟨ubicados_inicial cfg, le_rfl, le_rfl, (ubicados_inicial cfg).distintos⟩
      fun _ _ _ hk hp => ⟨paso_ubicados hk.1 hp, paso_permisos hk.1 hk.2 hp⟩
  exact hinv.2

/-! ### The wait and the pop -/

/-- With a permit and a process, the head of the chosen queue goes to EXEC. -/
theorem terminarReplanificacion_completa {l : Lugar} {resto : List ℕ}
    (hl : l = .ready ∨ l = .readyM) (hcola : k.cola l = p :: resto) (hsem : k.permisos l ≠ 0) :
    ∃ k', terminarReplanificacion k l = some k' ∧ k'.colaExec = [p] := by
  rcases hl with rfl | rfl
  · have hsem' : k.semProcesosEnReady ≠ 0 := hsem
    refine ⟨pasarAExec { k with
      semProcesosEnReady := k.semProcesosEnReady - 1
      cola := Function.update k.cola .ready resto
      listaPidsReady := k.listaPidsReady.tail } p, ?_, rfl⟩
    simp only [terminarReplanificacion, reduceCtorEq, if_false, hsem', Estado.desencolar, hcola,
      Option.map_some]
  · have hsem' : k.semProcesosEnReadyM ≠ 0 := hsem
    refine ⟨pasarAExec { k with
      semProcesosEnReadyM := k.semProcesosEnReadyM - 1
      cola := Function.update k.cola .readyM resto
      listaPidsReadyM := k.listaPidsReadyM.tail } p, ?_, rfl⟩
    simp only [terminarReplanificacion, if_true, hsem', if_false, Estado.desencolar, hcola,
      Option.map_some]

/-- What goes to EXEC is the head of the chosen queue. -/
theorem head_of_terminarReplanificacion {l : Lugar} (hl : l = .ready ∨ l = .readyM)
    (h : terminarReplanificacion k l = some k') (hexec : k'.colaExec = [p]) :
    (k.cola l).head? = some p := by
  obtain ⟨q, k₁, ⟨rfl, -, hd, rfl⟩ | ⟨hne, -, hd, rfl⟩⟩ := terminarReplanificacion_eq_some h
  · obtain ⟨resto, hcola, -⟩ := desencolar_eq_some hd
    have hq : q = p := by simpa [pasarAExec, Estado.cambiarEstado] using hexec
    have hcola' : k.cola .readyM = q :: resto := hcola
    rw [hcola', hq]
    rfl
  · obtain rfl : l = .ready := hl.resolve_right hne
    obtain ⟨resto, hcola, -⟩ := desencolar_eq_some hd
    have hq : q = p := by simpa [pasarAExec, Estado.cambiarEstado] using hexec
    have hcola' : k.cola .ready = q :: resto := hcola
    rw [hcola', hq]
    rfl

/-- When `cola_ready` is the right choice. -/
theorem despachaBien_ready_iff (hk : Permisos k) :
    DespachaBien ⟨k, some .ready⟩ ↔
      k.cola .readyM = [] ∧ (k.permisos .ready ≠ 0 → k.cola .ready ≠ []) := by
  constructor
  · intro h
    have htoma : k.permisos .ready ≠ 0 → ∃ p, (k.cola .ready).head? = some p ∧
        (k.cola .readyM ++ k.cola .ready).head? = some p := by
      intro hsem
      obtain ⟨p, k', ht, hexec, hhead⟩ := h.toma .ready rfl hsem
      exact ⟨p, head_of_terminarReplanificacion (Or.inl rfl) ht hexec, hhead⟩
    constructor
    · by_cases hsem : k.permisos .ready = 0
      · exact h.espera .ready rfl hsem
      · obtain ⟨p, hready, hhead⟩ := htoma hsem
        cases hM : k.cola .readyM with
        | nil => rfl
        | cons q resto =>
          -- the same process would be in both queues
          rw [hM, List.cons_append, List.head?_cons, Option.some.injEq] at hhead
          have hdistintos := (List.nodup_append.1 hk.distintos).2.2
          have hmem : p ∈ k.cola .new ++ k.cola .ready :=
            List.mem_append_right _ (List.mem_of_mem_head? hready)
          have hmemM : p ∈ k.cola .readyM := by
            rw [hM, hhead]
            exact List.mem_cons_self
          exact absurd rfl (hdistintos p hmem p hmemM)
    · intro hsem hnil
      obtain ⟨p, hready, -⟩ := htoma hsem
      rw [hnil] at hready
      cases hready
  · rintro ⟨hM, hready⟩
    refine ⟨fun l hl _ => ?_, fun l hl hsem => ?_⟩
    · cases hl
      exact hM
    · cases hl
      obtain ⟨p, resto, hcola⟩ := List.exists_cons_of_ne_nil (hready hsem)
      obtain ⟨k', ht, hexec⟩ := terminarReplanificacion_completa (Or.inl rfl) hcola hsem
      exact ⟨p, k', ht, hexec, by simp [hM, hcola]⟩

/-- When `cola_ready_m` is the right choice. -/
theorem despachaBien_readyM_iff (hk : Permisos k) :
    DespachaBien ⟨k, some .readyM⟩ ↔
      (k.permisos .readyM ≠ 0 → k.cola .readyM ≠ []) ∧
        (k.cola .readyM = [] → k.cola .ready = []) := by
  constructor
  · intro h
    have htoma : k.permisos .readyM ≠ 0 → k.cola .readyM ≠ [] := by
      intro hsem hnil
      obtain ⟨p, k', ht, hexec, -⟩ := h.toma .readyM rfl hsem
      have hhead := head_of_terminarReplanificacion (Or.inr rfl) ht hexec
      rw [hnil] at hhead
      cases hhead
    refine ⟨htoma, fun hnil => h.espera .readyM rfl ?_⟩
    by_contra hsem
    exact htoma hsem hnil
  · rintro ⟨hM, hready⟩
    refine ⟨fun l hl hsem => ?_, fun l hl hsem => ?_⟩
    · cases hl
      have hlen := hk.readyM
      have hsem' : k.semProcesosEnReadyM = 0 := hsem
      exact hready (List.eq_nil_of_length_eq_zero (by omega))
    · cases hl
      obtain ⟨p, resto, hcola⟩ := List.exists_cons_of_ne_nil (hM hsem)
      obtain ⟨k', ht, hexec⟩ := terminarReplanificacion_completa (Or.inr rfl) hcola hsem
      exact ⟨p, k', ht, hexec, by simp [hcola]⟩

/-- Where no call has chosen a queue there is nothing to ask. -/
theorem despachaBien_none (k : Estado) : DespachaBien ⟨k, none⟩ :=
  ⟨fun _ h => (by cases h), fun _ h => (by cases h)⟩

/-! ### Arrivals -/

/-- One process arrives at a ready queue, with a permit. -/
structure Llega (l : Lugar) (k k' : Estado) : Prop where
  cola : ∃ p, k'.cola l = k.cola l ++ [p]
  otra : k'.cola (otraCola l) = k.cola (otraCola l)
  permiso : k'.permisos l = k.permisos l + 1
  otroPermiso : k'.permisos (otraCola l) = k.permisos (otraCola l)

theorem otraCola_ne (l : Lugar) : otraCola l ≠ l := by
  unfold otraCola
  split_ifs with hl
  · rw [hl]
    decide
  · exact fun h => hl h.symm

/-- A process is added to a queue; the queues may have changed before, but for the ready ones. -/
theorem Llega.of_update {l : Lugar} (colas : Lugar → List ℕ)
    (hcola : k'.cola = Function.update colas l (k.cola l ++ [p]))
    (hotra : colas (otraCola l) = k.cola (otraCola l))
    (hpermiso : k'.permisos l = k.permisos l + 1)
    (hotro : k'.permisos (otraCola l) = k.permisos (otraCola l)) : Llega l k k' where
  cola := ⟨p, by rw [hcola, Function.update_self]⟩
  otra := by rw [hcola, Function.update_of_ne (otraCola_ne l), hotra]
  permiso := hpermiso
  otroPermiso := hotro

/-- Under VRR a process whose quantum ended arrives at `cola_ready`, any other at `cola_ready_m`. -/
theorem iniciar_llega (hvrr : cfg.algoritmoPlanificacion = .VRR) (k : Estado) (p : ℕ)
    (motivo : Cadena) :
    Llega (if stringEqualsIgnoreCase motivo "QUANTUM".toList then .ready else .readyM) k
      (iniciar cfg k p motivo) := by
  unfold iniciar
  cases hq : stringEqualsIgnoreCase motivo "QUANTUM".toList with
  | true =>
    simp only [true_or, if_true]
    exact .of_update (p := p) k.cola rfl rfl rfl rfl
  | false =>
    simp only [hvrr, ne_eq, not_true_eq_false, or_self, if_false, Bool.false_eq_true]
    exact .of_update (p := p) k.cola rfl rfl rfl rfl

/-- An admitted process arrives at `cola_ready`. -/
theorem administrarProcesosNew_llega (h : administrarProcesosNew k = some k') :
    Llega .ready k k' := by
  obtain ⟨q, k₁, pendientes, primero, -, -, hd, -, rfl⟩ := administrarProcesosNew_eq_some h
  obtain ⟨resto, -, rfl⟩ := desencolar_eq_some hd
  exact .of_update (p := q) (Function.update k.cola .new resto) rfl rfl rfl rfl

/-- An arrival at `cola_ready` is a mistake of the dispatcher that waits for an empty
`cola_ready_m`. -/
theorem Llega.despachaBien_ready_iff (h : Llega .ready k k') (hk : Permisos k) (hk' : Permisos k')
    {eligiendo : Option Lugar} (helige : ∀ l, eligiendo = some l → l = .ready ∨ l = .readyM)
    (hbien : DespachaBien ⟨k, eligiendo⟩) :
    DespachaBien ⟨k', eligiendo⟩ ↔ (eligiendo = some .readyM → k.cola .readyM ≠ []) := by
  obtain ⟨⟨p, hcola⟩, hotra, -, hpermiso⟩ := h
  have hcolaM : k'.cola .readyM = k.cola .readyM := hotra
  have hpermisoM : k'.permisos .readyM = k.permisos .readyM := hpermiso
  cases heligiendo : eligiendo with
  | none => exact iff_of_true (despachaBien_none k') (by simp)
  | some l =>
    subst heligiendo
    rcases helige l rfl with rfl | rfl
    · rw [Kernel.despachaBien_ready_iff hk] at hbien
      rw [Kernel.despachaBien_ready_iff hk', hcolaM, hcola]
      simp [hbien.1]
    · rw [despachaBien_readyM_iff hk] at hbien
      rw [despachaBien_readyM_iff hk', hcolaM, hpermisoM, hcola]
      simpa using fun _ => hbien.1

/-- An arrival at `cola_ready_m` is a mistake of the dispatcher that has chosen `cola_ready`. -/
theorem Llega.despachaBien_readyM_iff (h : Llega .readyM k k') (hk' : Permisos k')
    {eligiendo : Option Lugar} (helige : ∀ l, eligiendo = some l → l = .ready ∨ l = .readyM) :
    DespachaBien ⟨k', eligiendo⟩ ↔ eligiendo ≠ some .ready := by
  obtain ⟨⟨p, hcola⟩, -, -, -⟩ := h
  cases heligiendo : eligiendo with
  | none => exact iff_of_true (despachaBien_none k') (by simp)
  | some l =>
    rcases helige l heligiendo with rfl | rfl
    · rw [Kernel.despachaBien_ready_iff hk', hcola]
      simp
    · rw [Kernel.despachaBien_readyM_iff hk', hcola]
      simp

theorem empezarReplanificacion_elige {l : Lugar}
    (h : empezarReplanificacion cfg k motivo = some (k', l)) :
    l = elegirCola cfg k motivo ∧ k'.cola = k.cola ∧ k'.permisos = k.permisos := by
  unfold empezarReplanificacion at h
  dsimp only at h
  split_ifs at h <;> cases h <;> exact ⟨rfl, rfl, rfl⟩

/-- What the choice of the queue looks at. -/
theorem elegirCola_cases (hvrr : cfg.algoritmoPlanificacion = .VRR) (k : Estado)
    (motivo : Cadena) :
    (elegirCola cfg k motivo = .readyM ∧ (k.cola .readyM = [] → k.cola .ready = [])) ∨
      (elegirCola cfg k motivo = .ready ∧ k.cola .readyM = []) := by
  unfold elegirCola
  split_ifs with h
  · exact Or.inl ⟨rfl, fun hnil => (h.2.resolve_left (fun hne => hne hnil)).1⟩
  · refine Or.inr ⟨rfl, ?_⟩
    by_contra hne
    exact h ⟨hvrr, Or.inl hne⟩

/-- The choice is right when it is made, if no permit is left over. -/
theorem despachaBien_elegirCola (hvrr : cfg.algoritmoPlanificacion = .VRR) (hk : Permisos k)
    (motivo : Cadena) :
    DespachaBien ⟨k, some (elegirCola cfg k motivo)⟩ ↔
      (k.cola (elegirCola cfg k motivo) = [] → k.permisos (elegirCola cfg k motivo) = 0) := by
  rcases elegirCola_cases hvrr k motivo with ⟨hl, hvacias⟩ | ⟨hl, hM⟩
  · rw [hl, despachaBien_readyM_iff hk]
    exact ⟨fun h => not_imp_not.1 h.1, fun h => ⟨not_imp_not.2 h, hvacias⟩⟩
  · rw [hl, despachaBien_ready_iff hk]
    exact ⟨fun h => not_imp_not.1 h.2, fun h => ⟨hM, not_imp_not.2 h⟩⟩

/-! ### Every run -/

theorem Permisos.congr (h : Permisos k) (hcola : k'.cola = k.cola)
    (hready : k'.semProcesosEnReady = k.semProcesosEnReady)
    (hreadyM : k'.semProcesosEnReadyM = k.semProcesosEnReadyM) : Permisos k' := by
  refine ⟨?_, ?_, ?_⟩
  · rw [hcola, hready]
    exact h.ready
  · rw [hcola, hreadyM]
    exact h.readyM
  · rw [hcola]
    exact h.distintos

/-- A process at the end of the second queue is one more among the three. -/
theorem nodup_append_middle {new ready readyM : List ℕ} :
    (new ++ (ready ++ [p]) ++ readyM).Nodup ↔ (p :: (new ++ ready ++ readyM)).Nodup := by
  refine List.Perm.nodup_iff ?_
  simp only [List.append_assoc, List.singleton_append]
  rw [← List.append_assoc, ← List.append_assoc]
  exact List.perm_middle

theorem Permisos.iniciar (h : Permisos k)
    (hp : p ∉ k.cola .new ++ k.cola .ready ++ k.cola .readyM) (motivo : Cadena) :
    Permisos (iniciar cfg k p motivo) := by
  obtain ⟨hready, hreadyM, hdistintos⟩ := h
  obtain ⟨hnew, -, ⟨r, hr, -, hsr⟩, ⟨m, hm, -, hsm⟩⟩ := iniciar_llegadas cfg k p motivo
  refine ⟨by rw [hr, hsr, List.length_append]; omega,
    by rw [hm, hsm, List.length_append]; omega, ?_⟩
  have hnodup : (p :: (k.cola .new ++ k.cola .ready ++ k.cola .readyM)).Nodup :=
    List.nodup_cons.2 ⟨hp, hdistintos⟩
  obtain ⟨l, e, -, rfl | rfl, hcola, -⟩ := iniciar_cases cfg k p motivo
  · simp only [hcola, Function.update_self, ne_eq, reduceCtorEq, not_false_eq_true,
      Function.update_of_ne]
    exact nodup_append_middle.2 hnodup
  · simp only [hcola, Function.update_self, ne_eq, reduceCtorEq, not_false_eq_true,
      Function.update_of_ne]
    rw [← List.append_assoc]
    exact (List.perm_append_singleton p _).nodup_iff.2 hnodup

theorem Permisos.administrarProcesosNew (h : Permisos k)
    (ha : administrarProcesosNew k = some k') : Permisos k' := by
  obtain ⟨hready, hreadyM, hdistintos⟩ := h
  obtain ⟨q, k₁, pendientes, primero, -, -, hd, -, rfl⟩ := administrarProcesosNew_eq_some ha
  obtain ⟨resto, hnew, rfl⟩ := desencolar_eq_some hd
  rw [hnew] at hdistintos
  refine ⟨?_, hreadyM, nodup_append_middle.2 hdistintos⟩
  show (k.cola .ready ++ [q]).length ≤ k.semProcesosEnReady + 1
  rw [List.length_append, List.length_singleton]
  omega

theorem Permisos.terminarReplanificacion {l : Lugar} (h : Permisos k)
    (ht : terminarReplanificacion k l = some k') : Permisos k' := by
  obtain ⟨hready, hreadyM, hdistintos⟩ := h
  obtain ⟨q, k₁, ⟨-, -, hd, rfl⟩ | ⟨-, -, hd, rfl⟩⟩ := terminarReplanificacion_eq_some ht
  · obtain ⟨resto, hq, rfl⟩ := desencolar_eq_some hd
    have hq' : k.cola .readyM = q :: resto := hq
    rw [hq', List.length_cons] at hreadyM
    rw [hq'] at hdistintos
    refine ⟨hready, ?_, ?_⟩
    · show resto.length ≤ k.semProcesosEnReadyM - 1
      omega
    · show (k.cola .new ++ k.cola .ready ++ resto).Nodup
      refine hdistintos.sublist (List.Sublist.append ?_ ?_)
      · exact List.Sublist.refl _
      · exact List.sublist_cons_self q _
  · obtain ⟨resto, hq, rfl⟩ := desencolar_eq_some hd
    have hq' : k.cola .ready = q :: resto := hq
    rw [hq', List.length_cons] at hready
    rw [hq'] at hdistintos
    refine ⟨?_, hreadyM, ?_⟩
    · show resto.length ≤ k.semProcesosEnReady - 1
      omega
    · show (k.cola .new ++ resto ++ k.cola .readyM).Nodup
      refine hdistintos.sublist (List.Sublist.append (List.Sublist.append ?_ ?_) ?_)
      · exact List.Sublist.refl _
      · exact List.sublist_cons_self q _
      · exact List.Sublist.refl _

/-- What each step does, when it happens. -/
inductive AvanzaDespacho (cfg : KernelConfiguracion) (s : EstadoDespacho) :
    EventoDespacho → EstadoDespacho → Prop
  | replanificar {motivo : Cadena} {k : Estado} {l : Lugar}
      (he : empezarReplanificacion cfg s.kernel motivo = some (k, l)) :
      AvanzaDespacho cfg s (.replanificar motivo) ⟨k, some l⟩
  | administrarProcesosNew {k : Estado} (hk : administrarProcesosNew s.kernel = some k) :
      AvanzaDespacho cfg s .administrarProcesosNew { s with kernel := k }
  | iniciar {pid : ℕ} {motivo : Cadena}
      (hpid : pid ∉ s.kernel.cola .new ++ s.kernel.cola .ready ++ s.kernel.cola .readyM) :
      AvanzaDespacho cfg s (.iniciar pid motivo)
        { s with kernel := iniciar cfg s.kernel pid motivo }
  | terminarReplanificacion {k : Estado} {l : Lugar}
      (hk : terminarReplanificacion s.kernel l = some k) :
      AvanzaDespacho cfg s .terminarReplanificacion ⟨k, none⟩

theorem pasoDespacho_avanza {ev : EventoDespacho} (hp : pasoDespacho cfg s ev = some s') :
    AvanzaDespacho cfg s ev s' := by
  cases ev with
  | replanificar motivo =>
    rcases ite_eq_iff.1 hp with ⟨-, hp⟩ | ⟨-, hp⟩
    · cases hp
    · obtain ⟨⟨k, l⟩, he, rfl⟩ := Option.map_eq_some_iff.1 hp
      exact .replanificar he
  | administrarProcesosNew =>
    obtain ⟨k, hk, rfl⟩ := Option.map_eq_some_iff.1 hp
    exact .administrarProcesosNew hk
  | iniciar pid motivo =>
    rcases ite_eq_iff.1 hp with ⟨-, hp⟩ | ⟨hpid, hp⟩
    · cases hp
    · cases hp
      exact .iniciar hpid
  | terminarReplanificacion =>
    obtain ⟨l, -, hp⟩ := Option.bind_eq_some_iff.1 hp
    obtain ⟨k, hk, rfl⟩ := Option.map_eq_some_iff.1 hp
    exact .terminarReplanificacion hk

/-- A call chooses one of the two ready queues, and the permits stay right. -/
structure Despachador (s : EstadoDespacho) : Prop where
  permisos : Permisos s.kernel
  elige : ∀ l, s.eligiendo = some l → l = .ready ∨ l = .readyM

theorem pasoDespacho_despachador (h : Despachador s) {ev : EventoDespacho}
    (hp : pasoDespacho cfg s ev = some s') : Despachador s' := by
  cases pasoDespacho_avanza hp with
  | replanificar he =>
    obtain ⟨quantum, rfl, hl, -⟩ := empezarReplanificacion_eq_some he
    refine ⟨h.permisos.congr rfl rfl rfl, fun m hm => ?_⟩
    cases hm
    exact hl
  | administrarProcesosNew hk => exact ⟨h.permisos.administrarProcesosNew hk, h.elige⟩
  | iniciar hpid => exact ⟨h.permisos.iniciar hpid _, h.elige⟩
  | terminarReplanificacion hk =>
    exact ⟨h.permisos.terminarReplanificacion hk, fun _ hm => (by cases hm)⟩

/-- One step leads from a right wait to a right wait exactly when the choice has foreseen it. -/
theorem pasoDespacho_despachaBien_iff (hvrr : cfg.algoritmoPlanificacion = .VRR)
    (h : Despachador s) (hbien : DespachaBien s) {ev : EventoDespacho}
    (hp : pasoDespacho cfg s ev = some s') : DespachaBien s' ↔ LlegadaPrevista cfg s ev := by
  have h' := pasoDespacho_despachador h hp
  cases pasoDespacho_avanza hp with
  | @replanificar motivo k _ he =>
    obtain ⟨rfl, hcola, hpermisos⟩ := empezarReplanificacion_elige he
    have helegir : elegirCola cfg s.kernel motivo = elegirCola cfg k motivo := by
      unfold elegirCola
      rw [hcola]
    simp only [LlegadaPrevista, helegir, ← hcola, ← hpermisos]
    exact despachaBien_elegirCola hvrr h'.permisos motivo
  | administrarProcesosNew hk =>
    exact (administrarProcesosNew_llega hk).despachaBien_ready_iff h.permisos h'.permisos h.elige
      hbien
  | @iniciar pid motivo _ =>
    have hllega := iniciar_llega hvrr s.kernel pid motivo
    simp only [LlegadaPrevista]
    split_ifs at hllega ⊢
    · exact hllega.despachaBien_ready_iff h.permisos h'.permisos h.elige hbien
    · exact hllega.despachaBien_readyM_iff h'.permisos h.elige
  | @terminarReplanificacion k _ _ => exact iff_of_true (despachaBien_none k) trivial

/-- **The dispatcher under VRR** does not wait while the other ready queue holds a process, and
takes the process that has priority, along a run exactly when the choice of the queue has foreseen
every arrival. -/
theorem replanificar_vrr_iff (hvrr : cfg.algoritmoPlanificacion = .VRR) (hk : Permisos k)
    (evs : List EventoDespacho) :
    Along (pasoDespacho cfg) DespachaBien ⟨k, none⟩ evs ↔
      Meets (pasoDespacho cfg) (LlegadaPrevista cfg) ⟨k, none⟩ evs :=
  along_iff_meets (I := Despachador) (fun _ _ _ h hp => pasoDespacho_despachador h hp)
    (fun _ _ _ h hbien hp => pasoDespacho_despachaBien_iff hvrr h hbien hp)
    ⟨hk, fun _ h => (by cases h)⟩ (despachaBien_none k)

/-- The only process asks for an operation; `replanificar` waits for its end. -/
theorem replanificar_vrr_espera_io :
    ∃ k, run (paso ⟨.VRR, [], 1⟩) (Estado.inicial ⟨.VRR, [], 1⟩)
        [.conectarInterfaz "GEN".toList "IO_GEN_SLEEP".toList 7, .iniciarProceso [],
          .iniciarPlanificacion, .administrarProcesosNew, .replanificar "NEW".toList,
          .paquete "IO_GEN_SLEEP".toList ["GEN".toList, "10".toList]] = some k ∧
      Along (pasoDespacho ⟨.VRR, [], 1⟩) DespachaBien ⟨k, none⟩
        [.replanificar "IO_GEN_SLEEP".toList, .iniciar 1 "END_OF_IO_GEN_SLEEP".toList] := by
  have hk := @permisos_of_reachable ⟨.VRR, [], 1⟩ _
    ⟨[.conectarInterfaz "GEN".toList "IO_GEN_SLEEP".toList 7, .iniciarProceso [],
      .iniciarPlanificacion, .administrarProcesosNew, .replanificar "NEW".toList,
      .paquete "IO_GEN_SLEEP".toList ["GEN".toList, "10".toList]], rfl⟩
  refine ⟨_, rfl, (replanificar_vrr_iff rfl hk _).2 ?_⟩
  refine fun s hs => ⟨fun _ => rfl, fun s' _ => ⟨?_, trivial⟩⟩
  cases hs
  show Option.some Lugar.readyM ≠ some .ready
  decide

/-- A process ends, and then the operation of the only other one: the dispatcher waits for
`cola_ready`, and the process is in `cola_ready_m`. -/
theorem espera_con_otro_en_ready_m :
    ∃ k, run (paso ⟨.VRR, [], 2⟩) (Estado.inicial ⟨.VRR, [], 2⟩)
        [.conectarInterfaz "GEN".toList "IO_GEN_SLEEP".toList 7, .iniciarProceso [],
          .iniciarProceso [], .iniciarPlanificacion, .administrarProcesosNew,
          .replanificar "NEW".toList, .enviarACpu, .administrarProcesosNew,
          .paquete "IO_GEN_SLEEP".toList ["GEN".toList, "10".toList],
          .replanificar "IO_GEN_SLEEP".toList, .enviarACpu, .paquete "EXIT".toList []] = some k ∧
      ¬ Along (pasoDespacho ⟨.VRR, [], 2⟩) DespachaBien ⟨k, none⟩
        [.replanificar "EXIT".toList, .iniciar 1 "END_OF_IO_GEN_SLEEP".toList] := by
  refine ⟨_, rfl, fun h => ?_⟩
  have hespera := (h.last rfl).espera .ready rfl rfl
  exact absurd hespera (by decide)

end SimuladorSO.Kernel
