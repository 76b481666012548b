import SimuladorSO.Kernel.Atencion

/-!
# The nodes of `cola_exit`

A request for a resource that is not configured frees its `motivo` twice.  Between the two, the
chunk becomes the node with which `exit_prima` pushes the PCB; after the second one it is given to
the text of the new reason, so that the node holds no PCB any more.

* `Estado.enCola`: the PCBs that a queue really holds;
* `Salida`: `cola_exit` grows only, and no node of it is overwritten;
* `paso_pisados`: what a step overwrites;
* `procesos_ubicados`: no process is lost or duplicated, in exactly the runs without such a request.
-/

namespace SimuladorSO.Kernel

open Queues Transitions Commons

/-- The PCBs that are in a queue: a node that has been overwritten holds none. -/
def Estado.enCola (k : Estado) (l : Lugar) : List ℕ :=
  if l = .exit then (k.cola .exit).filter fun p => p ∉ k.pisados else k.cola l

/-- The process is the one in EXEC, at the head of `cola_exec` and in no queue; or it occurs once
among all queues, in the one that its state names. -/
def UnicoLugar (cfg : KernelConfiguracion) (k : Estado) (p : ℕ) : Prop :=
  (k.estado p = some .exec ∧ (∀ q, k.estado q = some .exec → q = p) ∧
    k.colaExec.head? = some p ∧ ∀ l, (k.enCola l).count p = 0) ∨
  ∃ e l, k.estado p = some e ∧ e ≠ .exec ∧ lugarDe cfg k.interfaces e = some l ∧
    (k.enCola l).count p = 1 ∧ ∀ m, m ≠ l → (k.enCola m).count p = 0

/-- A WAIT or a SIGNAL of a resource that is not configured. -/
def PideRecursoDesconocido (cfg : KernelConfiguracion) (motivo : Cadena) (lista : List Cadena) :
    Prop :=
  (stringEqualsIgnoreCase motivo "WAIT".toList = true ∨
    stringEqualsIgnoreCase motivo "SIGNAL".toList = true) ∧
  ∃ recurso, lista[0]? = some recurso ∧ encontrarColaRecurso cfg recurso = none

/-- `cola_exit` has lost no process, and no node of it has been overwritten. -/
structure Salida (k k' : Estado) : Prop where
  exit : ∀ p ∈ k.cola .exit, p ∈ k'.cola .exit
  pisados : k'.pisados = k.pisados

variable {cfg : KernelConfiguracion} {k k' : Estado} {p : ℕ} {l : Lugar} {lista : List Cadena}
  {motivo : Cadena}

/-! ### Steps that overwrite nothing -/

theorem Salida.refl (k : Estado) : Salida k k := ⟨fun _ h => h, rfl⟩

theorem Salida.trans {k₁ : Estado} (h : Salida k k₁) (h' : Salida k₁ k') : Salida k k' :=
  ⟨fun q hq => h'.exit q (h.exit q hq), h'.pisados.trans h.pisados⟩

/-- Another queue changes. -/
theorem Salida.of_update {c : List ℕ} (hcola : k'.cola = Function.update k.cola l c)
    (hl : l ≠ .exit) (hpisados : k'.pisados = k.pisados) : Salida k k' := by
  refine ⟨fun q hq => ?_, hpisados⟩
  rw [hcola, Function.update_of_ne hl.symm]
  exact hq

/-- A process enters `cola_exit`. -/
theorem Salida.of_push {q : ℕ} (hcola : k'.cola = Function.update k.cola .exit (k.cola .exit ++ [q]))
    (hpisados : k'.pisados = k.pisados) : Salida k k' := by
  refine ⟨fun r hr => ?_, hpisados⟩
  rw [hcola, Function.update_self]
  exact List.mem_append_left _ hr

theorem iniciar_salida (cfg : KernelConfiguracion) (k : Estado) (p : ℕ) (motivo : Cadena) :
    Salida k (iniciar cfg k p motivo) := by
  unfold iniciar
  split_ifs
  · exact .of_update (l := .ready) rfl (by decide) rfl
  · exact .of_update (l := .ready) rfl (by decide) rfl
  · exact .of_update (l := .readyM) rfl (by decide) rfl

theorem desencolar_salida {q : ℕ} (h : k.desencolar l = some (q, k')) (hl : l ≠ .exit) :
    Salida k k' := by
  obtain ⟨resto, -, rfl⟩ := desencolar_eq_some h
  exact .of_update rfl hl rfl

theorem desbloquear_salida (h : desbloquear cfg k l motivo = some k') (hl : l ≠ .exit) :
    Salida k k' := by
  obtain ⟨q, k₁, hd, rfl⟩ := desbloquear_eq_some h
  exact (desencolar_salida hd hl).trans (iniciar_salida cfg k₁ q motivo)

theorem signal_salida {recurso : Cadena} {b : Bool} (h : signal cfg k recurso p = some (k', b)) :
    Salida k k' := by
  rcases signal_cases h with ⟨-, rfl, -⟩ | ⟨i, k₁, -, -, hk₁, hquitar⟩
  · exact .refl k'
  · obtain ⟨-, rfl⟩ := quitar_eq_some hquitar
    rcases hk₁ with ⟨-, hdes⟩ | ⟨-, rfl⟩
    · have hdes' := desbloquear_salida hdes (by simp)
      exact ⟨hdes'.exit, hdes'.pisados⟩
    · exact ⟨fun _ h => h, rfl⟩

theorem wait_salida (cfg : KernelConfiguracion) (k : Estado) (recurso : Cadena) (p : ℕ) :
    Salida k (wait cfg k recurso p).1 := by
  rcases wait_cases cfg k recurso p with ⟨-, heq⟩ | ⟨i, k₁, -, rfl, ⟨-, heq⟩ | ⟨-, heq⟩⟩
  · rw [heq]
    exact .refl k
  · rw [heq]
    exact .of_update (l := .recurso i) rfl (by simp) rfl
  · rw [heq]
    exact ⟨fun _ h => h, rfl⟩

/-- The process is in `cola_exit` then. -/
theorem exitPrima_salida (h : exitPrima cfg k p = some k') :
    Salida k k' ∧ p ∈ k'.cola .exit := by
  obtain ⟨k₁, hl, rfl⟩ := exitPrima_eq_some h
  have hliberar : Salida k k₁ := liberarRecursosDesde_induct (P := Salida k)
    (fun _ _ _ _ h _ hs => h.trans (signal_salida hs)) (.refl k) hl
  refine ⟨hliberar.trans (.of_push rfl rfl), ?_⟩
  show p ∈ Function.update k₁.cola .exit (k₁.cola .exit ++ [p]) .exit
  rw [Function.update_self]
  exact List.mem_append_right _ (List.mem_singleton_self p)

theorem sacarDe_salida (h : k.sacarDe l p = some k') (hl : l ≠ .exit) : Salida k k' := by
  obtain ⟨resto, -, rfl⟩ := Option.map_eq_some_iff.1 h
  exact .of_update rfl hl rfl

theorem finalizarProceso_salida (h : finalizarProceso cfg k p = some k') : Salida k k' := by
  obtain ⟨k₁, mensajes, he, hexit⟩ := finalizarProceso_eq_some h
  have hencontrar : Salida k { k₁ with enviados := mensajes } := by
    have hadmitido : Salida k { k with semMultiprogramacion := k.semMultiprogramacion + 1 } :=
      ⟨fun _ h => h, rfl⟩
    rcases encontrarPcb_cases he with ⟨-, hs⟩ | ⟨-, hs⟩ | ⟨-, hs⟩ | ⟨-, resto, -, rfl⟩ |
      ⟨i, -, hs⟩ | ⟨e, i, k₂, -, -, -, -, -, -, hs, hq⟩
    · exact (sacarDe_salida hs (by decide)).trans ⟨fun _ h => h, rfl⟩
    · exact (hadmitido.trans (sacarDe_salida hs (by decide))).trans ⟨fun _ h => h, rfl⟩
    · exact (hadmitido.trans (sacarDe_salida hs (by decide))).trans ⟨fun _ h => h, rfl⟩
    · exact ⟨fun _ h => h, rfl⟩
    · have hs' := sacarDe_salida hs (by simp)
      exact ⟨hs'.exit, hs'.pisados⟩
    · obtain ⟨-, rfl⟩ := quitar_eq_some hq
      exact (sacarDe_salida hs (by simp)).trans ⟨fun _ h => h, rfl⟩
  exact hencontrar.trans (exitPrima_salida hexit).1

/-! ### What a request overwrites -/

/-- When the resource is missing. -/
theorem wait_snd_iff (cfg : KernelConfiguracion) (k : Estado) (recurso : Cadena) (p : ℕ) :
    (wait cfg k recurso p).2 = true ↔ encontrarColaRecurso cfg recurso = none := by
  rcases wait_cases cfg k recurso p with ⟨hi, heq⟩ | ⟨i, k₁, hi, -, ⟨-, heq⟩ | ⟨-, heq⟩⟩
  · exact iff_of_true (by rw [heq]) hi
  · exact iff_of_false (by rw [heq]; exact Bool.false_ne_true) (by rw [hi]; simp)
  · exact iff_of_false (by rw [heq]; exact Bool.false_ne_true) (by rw [hi]; simp)

theorem atenderInstruccion_noCumplio {a b : Bool}
    (h : atenderInstruccion cfg k lista p motivo = some (k', a, b)) :
    a = true ↔ PideRecursoDesconocido cfg motivo lista := by
  unfold atenderInstruccion at h
  unfold PideRecursoDesconocido
  split_ifs at h with hio hwait hsignal
  · -- an interface
    have hno : ∀ x : Cadena, ¬ "IO".toList.map Char.toLower <:+: x.map Char.toLower →
        ¬ stringEqualsIgnoreCase motivo x = true := by
      intro x hx heq
      rw [not_stringContains_of_equals heq hx] at hio
      cases hio
    have ha : a = false := by
      obtain ⟨interfaz, -, h⟩ := Option.bind_eq_some_iff.1 h
      obtain ⟨cumple, -, h⟩ := Option.bind_eq_some_iff.1 h
      split_ifs at h
      · obtain ⟨k₂, -, heq⟩ := Option.map_eq_some_iff.1 h
        cases heq
        rfl
      · cases h
        rfl
    refine iff_of_false (by rw [ha]; exact Bool.false_ne_true) fun h => ?_
    rcases h.1 with h | h
    · exact hno _ (by decide) h
    · exact hno _ (by decide) h
  · obtain ⟨recurso, hrecurso, heq⟩ := Option.map_eq_some_iff.1 h
    cases heq
    rw [wait_snd_iff]
    exact ⟨fun hi => ⟨Or.inl hwait, recurso, hrecurso, hi⟩, fun ⟨_, r, hr, hi⟩ => by
      cases hrecurso.symm.trans hr
      exact hi⟩
  · obtain ⟨recurso, hrecurso, h⟩ := Option.bind_eq_some_iff.1 h
    obtain ⟨⟨k₂, noCumplio⟩, hs, heq⟩ := Option.map_eq_some_iff.1 h
    cases heq
    rcases signal_cases hs with ⟨hi, -, rfl⟩ | ⟨i, k₁, hi, rfl, -⟩
    · exact iff_of_true rfl ⟨Or.inr hsignal, recurso, hrecurso, hi⟩
    · refine iff_of_false Bool.false_ne_true ?_
      rintro ⟨-, r, hr, hno⟩
      cases hrecurso.symm.trans hr
      rw [hi] at hno
      cases hno
  · cases h
    exact iff_of_false Bool.false_ne_true fun h => h.1.elim hwait hsignal

/-- What a step overwrites: the node of a process that asks for a resource that is not
configured. -/
theorem atenderSolicitudCpu_pisados (h : atenderSolicitudCpu cfg k lista p motivo = some k') :
    (PideRecursoDesconocido cfg motivo lista ∧ (∀ q ∈ k.cola .exit, q ∈ k'.cola .exit) ∧
        p ∈ k'.cola .exit ∧ k'.pisados = k.pisados ++ [p]) ∨
      (¬ PideRecursoDesconocido cfg motivo lista ∧ Salida k k') := by
  unfold atenderSolicitudCpu at h
  split_ifs at h with hq
  · cases h
    refine Or.inr ⟨fun hno => ?_, iniciar_salida cfg k p motivo⟩
    rcases hno.1 with hx | hx
    · rw [not_stringEquals_of_equals hx (by decide)] at hq
      cases hq
    · rw [not_stringEquals_of_equals hx (by decide)] at hq
      cases hq
  obtain ⟨⟨k₁, a, b⟩, hins, hres⟩ := Option.bind_eq_some_iff.1 h
  have ha := atenderInstruccion_noCumplio hins
  have hempieza : Salida k { k with
      reloj := k.reloj.empezar cfg k.finPorQuantum, colaExec := [p] } := ⟨fun _ h => h, rfl⟩
  dsimp only at hres
  rcases atenderInstruccion_cases hins with ⟨rfl, hexit⟩ | ⟨hexit, hcases⟩
  · obtain ⟨motivo', hmotivo⟩ := Option.isSome_iff_exists.1 hexit
    rw [hmotivo] at hres
    obtain ⟨k₂, hx, rfl⟩ := terminar_eq_some hres
    obtain ⟨hsalida, hmem⟩ := exitPrima_salida hx
    cases a with
    | true => exact Or.inl ⟨ha.1 rfl, hsalida.exit, hmem, congrArg (· ++ [p]) hsalida.pisados⟩
    | false =>
      refine Or.inr ⟨fun hno => Bool.false_ne_true (ha.2 hno), hsalida.exit, ?_⟩
      exact (List.append_nil _).trans hsalida.pisados
  · rw [hexit] at hres
    cases hres
    have hsale : ¬ PideRecursoDesconocido cfg motivo lista := by
      intro hno
      rw [ha.2 hno] at hexit
      cases hexit
    refine Or.inr ⟨hsale, hempieza.trans ?_⟩
    rcases hcases with ⟨interfaz, -, hb⟩ | ⟨recurso, rfl⟩ | ⟨recurso, hs⟩ | rfl
    · obtain ⟨i, mensajes, -, -, rfl⟩ := bloquearPorIo_eq_some hb
      exact .of_update (l := .io i) rfl (by simp) rfl
    · exact wait_salida cfg _ recurso p
    · exact signal_salida hs
    · exact .refl _

/-! ### Every step -/

/-- The request of the step is for a resource that is configured, if it is for one. -/
def ConoceElRecurso (cfg : KernelConfiguracion) (_ : Estado) : Evento → Prop
  | .paquete motivo lista => ¬ PideRecursoDesconocido cfg motivo lista
  | _ => True

/-- What a step overwrites. -/
theorem paso_pisados {ev : Evento} (h : paso cfg k ev = some k') :
    (∀ q ∈ k.cola .exit, q ∈ k'.cola .exit) ∧ (∀ q ∈ k.pisados, q ∈ k'.pisados) ∧
      (∀ q ∈ k'.pisados, q ∈ k.pisados ∨ q ∈ k'.cola .exit) ∧
      (k'.pisados = k.pisados ↔ ConoceElRecurso cfg k ev) := by
  have hsalida : ∀ {k'}, ConoceElRecurso cfg k ev → Salida k k' →
      (∀ q ∈ k.cola .exit, q ∈ k'.cola .exit) ∧ (∀ q ∈ k.pisados, q ∈ k'.pisados) ∧
        (∀ q ∈ k'.pisados, q ∈ k.pisados ∨ q ∈ k'.cola .exit) ∧
        (k'.pisados = k.pisados ↔ ConoceElRecurso cfg k ev) := by
    rintro k' hev ⟨hexit, hpisados⟩
    exact ⟨hexit, fun q hq => hpisados ▸ hq, fun q hq => Or.inl (hpisados ▸ hq),
      iff_of_true hpisados hev⟩
  cases ev with
  | iniciarProceso path =>
    cases h
    exact hsalida trivial (.of_update (l := .new) rfl (by decide) rfl)
  | finalizarProceso pid => exact hsalida trivial (finalizarProceso_salida h)
  | iniciarPlanificacion =>
    cases h
    exact hsalida trivial ⟨fun _ h => h, rfl⟩
  | detenerPlanificacion =>
    obtain ⟨-, rfl⟩ := detenerPlanificacion_eq_some h
    exact hsalida trivial ⟨fun _ h => h, rfl⟩
  | administrarProcesosNew =>
    obtain ⟨q, k₁, pendientes, primero, -, -, hd, -, rfl⟩ := administrarProcesosNew_eq_some h
    exact hsalida trivial ((desencolar_salida hd (by decide)).trans
      (.of_update (l := .ready) rfl (by decide) rfl))
  | replanificar motivo =>
    obtain ⟨quantum, l, ht⟩ := replanificar_eq_some (paso_replanificar_eq_some h).2
    obtain ⟨m, q, k₂, _, _, _, _, hm, hd, rfl⟩ := terminarReplanificacion_desencola ht
    obtain ⟨resto, -, rfl⟩ := desencolar_eq_some hd
    refine hsalida trivial (.of_update (l := m) rfl ?_ rfl)
    rcases hm with rfl | rfl <;> decide
  | enviarACpu =>
    obtain ⟨-, rfl⟩ := enviarACpu_eq_some h
    exact hsalida trivial ⟨fun _ h => h, rfl⟩
  | paquete motivo lista =>
    obtain ⟨pid, -, hr⟩ := paquete_eq_some h
    rcases atenderSolicitudCpu_pisados hr with ⟨hpide, hexit, hmem, hpisados⟩ | ⟨hno, hs⟩
    · have hpisados : k'.pisados = k.pisados ++ [pid] := hpisados
      refine ⟨hexit, fun q hq => ?_, fun q hq => ?_, iff_of_false ?_ fun h => h hpide⟩
      · rw [hpisados]
        exact List.mem_append_left _ hq
      · rw [hpisados] at hq
        rcases List.mem_append.1 hq with hq | hq
        · exact Or.inl hq
        · rw [List.mem_singleton.1 hq]
          exact Or.inr hmem
      · rw [hpisados]
        simp
    · exact hsalida hno ⟨hs.exit, hs.pisados⟩
  | finInstruccion =>
    cases h
    unfold recibirMensajeCpu
    split_ifs <;> exact hsalida trivial ⟨fun _ h => h, rfl⟩
  | quantum finPorQuantum =>
    cases h
    exact hsalida trivial ⟨fun _ h => h, rfl⟩
  | conectarInterfaz idInterfaz permitidas conexion =>
    cases h
    refine hsalida trivial ?_
    unfold conectarInterfaz
    dsimp only
    split_ifs
    · exact ⟨fun _ h => h, rfl⟩
    · exact .of_update (l := .io k.interfaces.length) rfl (by simp) rfl
  | finDeIo idInterfaz mensaje =>
    rcases finDeIo_cases h with rfl | ⟨i, fin, -, -, hd⟩
    · exact hsalida trivial (.refl k')
    · exact hsalida trivial (desbloquear_salida hd (by simp))

/-! ### No process is lost or duplicated -/

theorem Estado.enCola_of_nil (h : k.pisados = []) : k.enCola = k.cola := by
  funext l
  unfold Estado.enCola
  split_ifs with hl
  · rw [hl, h]
    simp
  · rfl

theorem Ubicados.unicoLugar (h : Ubicados cfg ∅ k) (hnadie : k.pisados = []) (h0 : 0 < p)
    (hlt : p < k.contadorPid) : UnicoLugar cfg k p := by
  obtain ⟨e, he⟩ := Option.isSome_iff_exists.1 ((h.vivo_iff p).2 ⟨h0, hlt⟩)
  have hlugar : k.lugar cfg p = lugarDe cfg k.interfaces e := by simp [Estado.lugar, he]
  have hcount : ∀ l, (k.enCola l).count p =
      if lugarDe cfg k.interfaces e = some l then 1 else 0 := by
    intro l
    rw [Estado.enCola_of_nil hnadie, h.colocados.count_eq, if_neg (Finset.notMem_empty p), hlugar]
  rcases h.lugares p (Finset.notMem_empty p) e he with rfl | hsome
  · have hhead := h.exec p (Finset.notMem_empty p) he
    refine Or.inl ⟨he, fun q hq => ?_, hhead, fun l => ?_⟩
    · rw [h.exec q (Finset.notMem_empty q) hq] at hhead
      exact Option.some.inj hhead
    · rw [hcount]
      exact if_neg (by simp [lugarDe])
  · obtain ⟨l, hl⟩ := Option.isSome_iff_exists.1 hsome
    refine Or.inr ⟨e, l, he, ?_, hl, ?_, fun m hm => ?_⟩
    · rintro rfl
      cases hl
    · rw [hcount, if_pos hl]
    · rw [hcount, hl, if_neg (by simpa using hm.symm)]

/-- A process whose node has been overwritten is in no queue. -/
theorem not_unicoLugar (h : Ubicados cfg ∅ k) (hp : p ∈ k.pisados) (hexit : p ∈ k.cola .exit) :
    ¬ UnicoLugar cfg k p := by
  obtain ⟨-, e, he, hl⟩ := h.estado_of_mem hexit
  obtain rfl : e = .exit := estado_of_lugarDe hl
  have hcero : (k.enCola .exit).count p = 0 := by
    rw [List.count_eq_zero]
    unfold Estado.enCola
    rw [if_pos rfl, List.mem_filter]
    exact fun hmem => (of_decide_eq_true hmem.2) hp
  rintro (⟨hs, -⟩ | ⟨e, l, hs, -, hl', huno, -⟩)
  · rw [he] at hs
    cases hs
  · cases he.symm.trans hs
    cases hl'
    omega

/-- **No process is lost or duplicated**, along a run exactly when no process asks for a resource
that is not configured: each created process is in one place, which its state names, and no enabled
step fails to come back. -/
theorem procesos_ubicados (cfg : KernelConfiguracion) (evs : List Evento) :
    Along (paso cfg) (fun k => (∀ p, 0 < p → p < k.contadorPid → UnicoLugar cfg k p) ∧
        ∀ ev, Atendible cfg k ev → ∃ k', paso cfg k ev = some k')
      (Estado.inicial cfg) evs ↔
    Meets (paso cfg) (ConoceElRecurso cfg) (Estado.inicial cfg) evs := by
  have hiff : ∀ {k}, Ubicados cfg ∅ k → Contados cfg k → (∀ p ∈ k.pisados, p ∈ k.cola .exit) →
      (((∀ p, 0 < p → p < k.contadorPid → UnicoLugar cfg k p) ∧
        ∀ ev, Atendible cfg k ev → ∃ k', paso cfg k ev = some k') ↔ k.pisados = []) := by
    intro k hu hc hpisados
    constructor
    · rintro ⟨hlugar, -⟩
      refine List.eq_nil_iff_forall_not_mem.2 fun p hp => ?_
      obtain ⟨-, e, he, -⟩ := hu.estado_of_mem (hpisados p hp)
      obtain ⟨h0, hlt⟩ := (hu.vivo_iff p).1 (by rw [he]; rfl)
      exact not_unicoLugar hu hp (hpisados p hp) (hlugar p h0 hlt)
    · exact fun hnadie => ⟨fun p h0 hlt => hu.unicoLugar hnadie h0 hlt,
        fun ev hev => paso_completa hu hc hev⟩
  refine along_iff_meets (I := fun k => Ubicados cfg ∅ k ∧ Contados cfg k ∧
      ∀ p ∈ k.pisados, p ∈ k.cola .exit) (fun k ev k' h hp => ?_) (fun k ev k' h hk hp => ?_)
    ⟨ubicados_inicial cfg, contados_inicial cfg, fun p hp => absurd hp List.not_mem_nil⟩
    ((hiff (ubicados_inicial cfg) (contados_inicial cfg)
      fun p hp => absurd hp List.not_mem_nil).2 rfl)
  · obtain ⟨hu, hc, hpisados⟩ := h
    obtain ⟨hexit, -, hnuevos, -⟩ := paso_pisados hp
    exact ⟨paso_ubicados hu hp, (paso_recursos hc hu hp).1, fun q hq =>
      (hnuevos q hq).elim (fun hq => hexit q (hpisados q hq)) id⟩
  · obtain ⟨hu, hc, hpisados⟩ := h
    obtain ⟨hexit, -, hnuevos, hconoce⟩ := paso_pisados hp
    have hk' := hiff (paso_ubicados hu hp) (paso_recursos hc hu hp).1 fun q hq =>
      (hnuevos q hq).elim (fun hq => hexit q (hpisados q hq)) id
    rw [hk', ← hconoce, (hiff hu hc hpisados).1 hk]

/-- The only process waits for a resource that is not configured: it has ended, and it is in no
queue. -/
theorem proceso_perdido_tras_wait :
    ∃ k, run (paso ⟨.FIFO, [("RA".toList, 1)], 1⟩) (Estado.inicial ⟨.FIFO, [("RA".toList, 1)], 1⟩)
        [.iniciarProceso [], .administrarProcesosNew, .iniciarPlanificacion,
          .replanificar "NEW".toList, .enviarACpu, .paquete "WAIT".toList ["RB".toList]] = some k ∧
      k.estado 1 = some .exit ∧ k.cola .exit = [1] ∧ (∀ l, (k.enCola l).count 1 = 0) ∧
      ¬ UnicoLugar ⟨.FIFO, [("RA".toList, 1)], 1⟩ k 1 := by
  obtain ⟨k, hrun, hestado, hexit, hpisados⟩ : ∃ k,
      run (paso ⟨.FIFO, [("RA".toList, 1)], 1⟩) (Estado.inicial ⟨.FIFO, [("RA".toList, 1)], 1⟩)
        [.iniciarProceso [], .administrarProcesosNew, .iniciarPlanificacion,
          .replanificar "NEW".toList, .enviarACpu, .paquete "WAIT".toList ["RB".toList]] = some k ∧
      k.estado 1 = some .exit ∧ k.cola .exit = [1] ∧ k.pisados = [1] := ⟨_, rfl, rfl, rfl, rfl⟩
  have hu := (contados_of_reachable ⟨_, hrun⟩).1
  have hmem : 1 ∈ k.cola .exit := by rw [hexit]; exact List.mem_singleton_self 1
  have hno := not_unicoLugar hu (p := 1) (by rw [hpisados]; exact List.mem_singleton_self 1) hmem
  refine ⟨k, hrun, hestado, hexit, fun l => List.count_eq_zero.2 fun hl => ?_, hno⟩
  unfold Estado.enCola at hl
  split_ifs at hl with hlugar
  · rw [hpisados] at hl
    exact of_decide_eq_true (List.mem_filter.1 hl).2 (List.mem_singleton_self 1)
  · exact hlugar (hu.colocados.eq_of_mem hl hmem)

end SimuladorSO.Kernel
