import SimuladorSO.Kernel.Recursos

/-!
# What the kernel serves

`paso` answers `none` both where a thread waits and where the program would crash.  `Atendible`
lists the steps that are enabled: the semaphores that the step waits for have permits and the
queues that it pops are not empty.  From a reachable state each of them comes back
(`paso_completa`), whatever resources the process holds.

* `Contados.atenderSolicitudCpu_isSome_iff`: when the handler of a packet comes back;
* `recursos_contados`: the account of the resources, and the order in which waiters are woken.
-/

namespace SimuladorSO.Kernel

open Queues Counting Transitions Commons Dictionary

/-- A request that the process `p` can make while it is in EXEC. -/
def Estado.PuedePedir (k : Estado) (p : ℕ) (motivo : Cadena) (lista : List Cadena) : Prop :=
  stringEqualsIgnoreCase motivo "QUANTUM".toList = true ∨
  stringEqualsIgnoreCase motivo "EXIT".toList = true ∨
  stringEqualsIgnoreCase motivo "OUT_OF_MEMORY".toList = true ∨
  stringEqualsIgnoreCase motivo "DENIED_ACCESS".toList = true ∨
  (stringEqualsIgnoreCase motivo "WAIT".toList = true ∧ ∃ recurso, lista[0]? = some recurso) ∨
  (stringEqualsIgnoreCase motivo "SIGNAL".toList = true ∧ ∃ recurso, lista[0]? = some recurso ∧
    k.listaRecursosRetenidos.any (RecursosRetenidos.concuerda recurso p) = true) ∨
  (stringContains motivo "IO".toList = true ∧ ∃ interfaz, lista[0]? = some interfaz ∧
    (encontrarCola k.interfaces interfaz = none ∨
      (k.semPlanificacion ≠ 0 ∧
        (get k.diccionarioInstruccionesPermitidasIo interfaz).isSome = true ∧
        (get k.diccionarioConexionesIo interfaz).isSome = true ∧
        (argumentosIo lista motivo).isSome = true)))

/-- The handler comes back: the packet has the operands that it reads, an interface that is
registered has its entries and planning is not stopped before a request is sent to it, and a
resource that is returned has a record. -/
def SyscallAtendible (cfg : KernelConfiguracion) (k : Estado) (lista : List Cadena) (p : ℕ)
    (motivo : Cadena) : Prop :=
  if stringContains motivo "IO".toList then
    ∃ interfaz, lista[0]? = some interfaz ∧
      (cumpleInterfaz k interfaz motivo = some false ∨
        cumpleInterfaz k interfaz motivo = some true ∧ k.semPlanificacion ≠ 0 ∧
          (argumentosIo lista motivo).isSome = true ∧
          (get k.diccionarioConexionesIo interfaz).isSome = true)
  else if stringEqualsIgnoreCase motivo "WAIT".toList then lista ≠ []
  else if stringEqualsIgnoreCase motivo "SIGNAL".toList then
    ∃ recurso, lista[0]? = some recurso ∧
      (encontrarColaRecurso cfg recurso = none ∨ ∃ r ∈ k.listaRecursosRetenidos,
        stringEqualsIgnoreCase r.recurso recurso = true ∧ r.pid = p)
  else True

/-- The states in which `FINALIZAR_PROCESO` finds the process.  The name of a resource is the last
word of the state, and must not be taken for one of an interface. -/
def EstadoProceso.finalizable : EstadoProceso → Bool
  | new => true
  | ready => true
  | readyM => true
  | exec => true
  | blockRecurso recurso => !recurso.contains ' ' && !stringContains recurso "IO".toList
  | _ => false

/-- The step does not have to wait, and is one that the other modules can cause. -/
def Atendible (cfg : KernelConfiguracion) (k : Estado) : Evento → Prop
  | .iniciarProceso _ => True
  | .finalizarProceso p => ∃ e, k.estado p = some e ∧ e.finalizable = true
  | .iniciarPlanificacion => True
  | .detenerPlanificacion => k.semPlanificacion ≠ 0
  | .administrarProcesosNew =>
    k.semHayProcesosEnNew ≠ 0 ∧ k.semMultiprogramacion ≠ 0 ∧
      "NEW".toList ∉ k.porReplanificar ∧ k.cola .new ≠ []
  | .replanificar motivo => k.enEjecucion = none ∧ k.semPlanificacion ≠ 0 ∧
    (stringEqualsIgnoreCase motivo "QUANTUM".toList = true → k.semReplanificacionQuantum ≠ 0) ∧
    k.cola (elegirCola cfg k motivo) ≠ [] ∧
    (if elegirCola cfg k motivo = .readyM then k.semProcesosEnReadyM ≠ 0
      else k.semProcesosEnReady ≠ 0)
  | .enviarACpu => k.semEjecutar ≠ 0 ∧ k.colaExec ≠ []
  | .paquete motivo lista => ∃ p, k.enEjecucion = some p ∧ k.PuedePedir p motivo lista
  | .finInstruccion => True
  | .quantum _ => True
  | .conectarInterfaz _ _ _ => True
  | .finDeIo idInterfaz _ =>
    ∃ i, encontrarCola k.interfaces idInterfaz = some i ∧ k.cola (.io i) ≠ []

variable {cfg : KernelConfiguracion} {k k' : Estado} {p : ℕ} {l : Lugar} {lista : List Cadena}
  {motivo : Cadena}

/-! ### Requests -/

theorem cola_of_cumpleInterfaz {interfaz : Cadena}
    (h : cumpleInterfaz k interfaz motivo = some true) :
    (encontrarCola k.interfaces interfaz).isSome = true := by
  unfold cumpleInterfaz at h
  rcases ite_eq_iff.1 h with ⟨hcola, -⟩ | ⟨-, h⟩
  · exact hcola
  · cases h

/-- When a request of an interface is sent to it. -/
theorem bloquearPorIo_isSome_iff {interfaz : Cadena}
    (hcola : (encontrarCola k.interfaces interfaz).isSome = true) :
    (∃ k', bloquearPorIo cfg k lista p motivo interfaz = some k') ↔
      k.semPlanificacion ≠ 0 ∧ (argumentosIo lista motivo).isSome = true ∧
        (get k.diccionarioConexionesIo interfaz).isSome = true := by
  obtain ⟨i, hi⟩ := Option.isSome_iff_exists.1 hcola
  constructor
  · rintro ⟨k', h⟩
    obtain ⟨j, -, h⟩ := Option.bind_eq_some_iff.1 h
    dsimp only at h
    split_ifs at h with hplan
    obtain ⟨argumentos, hargumentos, h⟩ := Option.bind_eq_some_iff.1 h
    obtain ⟨conexion, hconexion, -⟩ := Option.map_eq_some_iff.1 h
    exact ⟨hplan, Option.isSome_iff_exists.2 ⟨_, hargumentos⟩,
      Option.isSome_iff_exists.2 ⟨_, hconexion⟩⟩
  · rintro ⟨hplan, hargumentos, hconexion⟩
    obtain ⟨argumentos, hargumentos⟩ := Option.isSome_iff_exists.1 hargumentos
    obtain ⟨conexion, hconexion⟩ := Option.isSome_iff_exists.1 hconexion
    unfold bloquearPorIo
    rw [hi, Option.bind_some]
    dsimp only
    rw [if_neg (show ¬ (bloquearI (desalojarPorInstruccion cfg k) i p).semPlanificacion = 0 from
      hplan), hargumentos, Option.bind_some,
      show get (bloquearI (desalojarPorInstruccion cfg k) i p).diccionarioConexionesIo interfaz =
        some conexion from hconexion, Option.map_some]
    exact ⟨_, rfl⟩

/-- When the instruction of a packet comes back. -/
theorem Contados.atenderInstruccion_isSome_iff (h : Contados cfg k) :
    (∃ r, atenderInstruccion cfg k lista p motivo = some r) ↔
      SyscallAtendible cfg k lista p motivo := by
  unfold atenderInstruccion SyscallAtendible
  split_ifs with hio hwait hsignal
  · constructor
    · rintro ⟨r, hr⟩
      obtain ⟨interfaz, hinterfaz, hr⟩ := Option.bind_eq_some_iff.1 hr
      obtain ⟨cumple, hcumple, hr⟩ := Option.bind_eq_some_iff.1 hr
      refine ⟨interfaz, hinterfaz, ?_⟩
      cases cumple with
      | false => exact Or.inl hcumple
      | true =>
        obtain ⟨k', hk', -⟩ := Option.map_eq_some_iff.1 hr
        exact Or.inr ⟨hcumple, (bloquearPorIo_isSome_iff (cola_of_cumpleInterfaz hcumple)).1
          ⟨k', hk'⟩⟩
    · rintro ⟨interfaz, hinterfaz, hcumple | ⟨hcumple, hresto⟩⟩
      · rw [hinterfaz, Option.bind_some, hcumple]
        exact ⟨_, rfl⟩
      · obtain ⟨k', hk'⟩ :=
          (bloquearPorIo_isSome_iff (p := p) (cola_of_cumpleInterfaz hcumple)).2 hresto
        rw [hinterfaz, Option.bind_some, hcumple, Option.bind_some, if_pos rfl, hk']
        exact ⟨_, rfl⟩
  · cases lista with
    | nil => simp
    | cons recurso lista => simp
  · simp only [Option.bind_eq_some_iff, Option.map_eq_some_iff]
    constructor
    · rintro ⟨r, recurso, hrecurso, s, hs, -⟩
      exact ⟨recurso, hrecurso, h.signal_isSome_iff.1 ⟨s, hs⟩⟩
    · rintro ⟨recurso, hrecurso, hcond⟩
      obtain ⟨s, hs⟩ := h.signal_isSome_iff.2 hcond
      exact ⟨_, recurso, hrecurso, s, hs, rfl⟩
  · exact iff_of_true ⟨_, rfl⟩ trivial

/-- When the handler of a packet that is not the end of the quantum comes back. -/
theorem Contados.atenderSolicitudCpu_isSome_iff (h : Contados cfg k)
    (hp : ∀ j, p ∉ k.cola (.recurso j))
    (hq : stringEqualsIgnoreCase motivo "QUANTUM".toList = false) :
    (∃ k', Kernel.atenderSolicitudCpu cfg k lista p motivo = some k') ↔
      SyscallAtendible cfg k lista p motivo := by
  obtain ⟨k₀, hk₀⟩ : ∃ k₀ : Estado, k₀ =
    { k with reloj := k.reloj.empezar cfg k.finPorQuantum, colaExec := [p] } := ⟨_, rfl⟩
  have h₀ : Contados cfg k₀ := hk₀ ▸ h.congr ⟨rfl, rfl, fun _ => rfl⟩
  have hatendible₀ : SyscallAtendible cfg k₀ lista p motivo ↔
      SyscallAtendible cfg k lista p motivo := by rw [hk₀]; rfl
  simp only [Kernel.atenderSolicitudCpu, hq, Bool.false_eq_true, if_false]
  rw [← hk₀, ← hatendible₀, ← h₀.atenderInstruccion_isSome_iff]
  constructor
  · rintro ⟨k', hk'⟩
    obtain ⟨r, hr, -⟩ := Option.bind_eq_some_iff.1 hk'
    exact ⟨r, hr⟩
  · rintro ⟨⟨k₁, a, b⟩, hr⟩
    rw [hr, Option.bind_some]
    dsimp only
    rcases atenderInstruccion_cases hr with ⟨rfl, hexit⟩ | ⟨hexit, -⟩
    · obtain ⟨motivo', hmotivo⟩ := Option.isSome_iff_exists.1 hexit
      rw [hmotivo]
      exact terminar_completa h₀ (by rw [hk₀]; exact hp) a motivo'
    · rw [hexit]
      exact ⟨_, rfl⟩

/-- The handler of a request that the process can make comes back. -/
theorem Estado.PuedePedir.atendible (hpide : k.PuedePedir p motivo lista)
    (hq : stringEqualsIgnoreCase motivo "QUANTUM".toList = false) :
    SyscallAtendible cfg k lista p motivo := by
  have hfin : ∀ {fin : Cadena}, stringEqualsIgnoreCase motivo fin = true →
      (¬ "IO".toList.map Char.toLower <:+: fin.map Char.toLower) →
      stringEqualsIgnoreCase fin "WAIT".toList = false →
      stringEqualsIgnoreCase fin "SIGNAL".toList = false →
      SyscallAtendible cfg k lista p motivo := by
    intro fin hfin hio hwait hsignal
    simp only [SyscallAtendible, not_stringContains_of_equals hfin hio,
      not_stringEquals_of_equals hfin hwait, not_stringEquals_of_equals hfin hsignal,
      Bool.false_eq_true, if_false]
  rcases hpide with h | h | h | h | ⟨hwait, recurso, hr⟩ | ⟨hsignal, recurso, hr, hany⟩ |
    ⟨hio, interfaz, hi, hcumple⟩
  · rw [hq] at h
    cases h
  · exact hfin h (by decide) (by decide) (by decide)
  · exact hfin h (by decide) (by decide) (by decide)
  · exact hfin h (by decide) (by decide) (by decide)
  · rw [SyscallAtendible, if_neg, if_pos hwait]
    · rintro rfl
      cases hr
    · rw [not_stringContains_of_equals hwait (by decide)]
      exact Bool.false_ne_true
  · rw [SyscallAtendible, if_neg, if_neg, if_pos hsignal]
    · obtain ⟨r, hmem, hcon⟩ := List.any_eq_true.1 hany
      exact ⟨recurso, hr, Or.inr ⟨r, hmem, concuerda_iff.1 hcon⟩⟩
    · rw [not_stringEquals_of_equals hsignal (by decide)]
      exact Bool.false_ne_true
    · rw [not_stringContains_of_equals hsignal (by decide)]
      exact Bool.false_ne_true
  · rw [SyscallAtendible, if_pos hio]
    refine ⟨interfaz, hi, ?_⟩
    unfold cumpleInterfaz
    rcases hcumple with hnone | ⟨hplan, hperm, hcon, hargs⟩
    · simp [hnone]
    · obtain ⟨permitidas, hperm⟩ := Option.isSome_iff_exists.1 hperm
      rw [hperm, Option.map_some]
      split_ifs with hcola
      · cases stringContains permitidas motivo with
        | false => exact Or.inl rfl
        | true => exact Or.inr ⟨rfl, hplan, hargs, hcon⟩
      · exact Or.inl rfl

theorem atenderSolicitudCpu_completa (h : Contados cfg k)
    (hp : ∀ j, p ∉ k.cola (.recurso j)) (hpide : k.PuedePedir p motivo lista) :
    ∃ k', atenderSolicitudCpu cfg k lista p motivo = some k' := by
  cases hq : stringEqualsIgnoreCase motivo "QUANTUM".toList with
  | true => exact ⟨_, by rw [atenderSolicitudCpu, if_pos hq]⟩
  | false => exact (h.atenderSolicitudCpu_isSome_iff hp hq).2 (hpide.atendible hq)

/-! ### The end of a process by the user -/

theorem ultimaPalabra_append {texto : Cadena} (h : ' ' ∉ texto) (antes : Cadena) :
    ultimaPalabra (antes ++ ' ' :: texto) = texto := by
  unfold ultimaPalabra
  rw [List.reverse_append, List.reverse_cons, List.append_assoc, List.takeWhile_append_of_pos]
  · simp
  · intro c hc
    have hne : c ≠ ' ' := by
      rintro rfl
      exact h (List.mem_reverse.1 hc)
    simpa using hne

/-- A text that contains `IO`, but no `I` in its first part, contains it in its second part. -/
theorem io_of_append {antes texto : Cadena}
    (h : stringContains (antes ++ texto) "IO".toList = true) (hantes : 'I' ∉ antes) :
    stringContains texto "IO".toList = true := by
  induction antes with
  | nil => exact h
  | cons c antes ih =>
    rw [List.mem_cons, not_or] at hantes
    refine ih ?_ hantes.2
    unfold stringContains at h ⊢
    rw [List.cons_append, decide_eq_true_iff, List.infix_cons_iff] at h
    rcases h with h | h
    · exact absurd (List.cons_prefix_cons.1 h).1 hantes.1
    · exact decide_eq_true h

/-- What `encontrar_pcb` reads from the state of a process that waits for a resource. -/
theorem blockRecurso_texto {recurso : Cadena}
    (h : (EstadoProceso.blockRecurso recurso).finalizable = true) :
    ultimaPalabra (EstadoProceso.blockRecurso recurso).texto = recurso ∧
      stringContains (EstadoProceso.blockRecurso recurso).texto "IO".toList = false := by
  simp only [EstadoProceso.finalizable, Bool.and_eq_true, Bool.not_eq_true'] at h
  constructor
  · have htexto : (EstadoProceso.blockRecurso recurso).texto =
        "BLOCK - RECURSO:".toList ++ ' ' :: recurso := rfl
    rw [htexto]
    exact ultimaPalabra_append (by simpa using h.1) _
  · rw [← Bool.not_eq_true]
    intro hio
    have hrecurso : stringContains recurso "IO".toList = true := io_of_append hio (by decide)
    rw [hrecurso] at h
    cases h.2

theorem sacarDe_completa (hp : p ∈ k.cola l) : ∃ k', k.sacarDe l p = some k' := by
  unfold Estado.sacarDe
  rw [pcbEnCola_eq, if_pos hp]
  exact ⟨_, rfl⟩

theorem encontrarPcb_completa (hu : Ubicados cfg ∅ k) (h : Contados cfg k) {e : EstadoProceso}
    (he : k.estado p = some e) (hfin : e.finalizable = true) :
    ∃ k', encontrarPcb cfg k p = some k' := by
  -- the process is in the queue that its state names
  have hcola : ∀ l, lugarDe cfg k.interfaces e = some l → p ∈ k.cola l :=
    fun l hl => hu.mem_cola he hl
  have hadmitido : ∀ l, lugarDe cfg k.interfaces e = some l →
      ∃ k', Estado.sacarDe { k with semMultiprogramacion := k.semMultiprogramacion + 1 } l p =
        some k' := fun l hl => sacarDe_completa (hcola l hl)
  unfold encontrarPcb
  dsimp only
  rw [he]
  cases e with
  | new => exact sacarDe_completa (hcola .new rfl)
  | ready => exact hadmitido .ready rfl
  | readyM => exact hadmitido .readyM rfl
  | exec =>
    have hmem : p ∈ k.colaExec := List.mem_of_mem_head? (hu.exec p (Finset.notMem_empty p) he)
    dsimp only
    rw [pcbEnCola_eq, if_pos hmem]
    exact ⟨_, rfl⟩
  | blockRecurso recurso =>
    obtain ⟨hultima, hio⟩ := blockRecurso_texto hfin
    have hlugar : (lugarDe cfg k.interfaces (.blockRecurso recurso)).isSome = true := by
      rcases hu.lugares p (Finset.notMem_empty p) _ he with h | h
      · cases h
      · exact h
    obtain ⟨i, hi⟩ := Option.isSome_iff_exists.1 (by simpa [lugarDe] using hlugar)
    have hp := hcola (.recurso i) (by simp [lugarDe, hi])
    obtain ⟨k₁, hk₁⟩ := sacarDe_completa hp
    obtain ⟨-, rfl⟩ := sacarDe_eq_some (hu.colocados.nodup _) hk₁
    obtain ⟨r, hr, hrp, hri⟩ := h.esperan i p hp
    have hany : k.listaRecursosRetenidos.any (RecursosRetenidos.concuerda recurso p) = true :=
      List.any_eq_true.2 ⟨r, hr, concuerda_iff.2 ⟨equals_of_encontrarColaRecurso hri hi, hrp⟩⟩
    simp only [hio, hultima, hi, hk₁, Bool.false_eq_true, if_false, Option.bind_some,
      quitarDeListaRecursosRetenidos, hany, if_true]
    exact ⟨_, rfl⟩
  | block => cases hfin
  | blockIo interfaz => cases hfin
  | exit => cases hfin

theorem finalizarProceso_completa (hu : Ubicados cfg ∅ k) (h : Contados cfg k) {e : EstadoProceso}
    (he : k.estado p = some e) (hfin : e.finalizable = true) :
    ∃ k', finalizarProceso cfg k p = some k' := by
  obtain ⟨k₁, hk₁⟩ := encontrarPcb_completa hu h he hfin
  have h₁ := (h.encontrarPcb hu hk₁).1
  have hp : ∀ j, p ∉ k₁.cola (.recurso j) := fun j =>
    (hu.encontrarPcb hk₁).notMem_cola (Finset.mem_insert_self p ∅) _
  unfold finalizarProceso
  rw [hk₁, Option.bind_some]
  dsimp only
  split_ifs
  · exact exitPrima_completa (k := pedidoDeDesalojo k₁ "FINALIZAR_PROCESO".toList p)
      (h₁.congr ⟨rfl, rfl, fun _ => rfl⟩) hp
  · exact exitPrima_completa h₁ hp

/-! ### Every enabled step -/

theorem desencolar_completa (h : k.cola l ≠ []) : ∃ q k', k.desencolar l = some (q, k') := by
  unfold Estado.desencolar
  cases hq : k.cola l with
  | nil => exact absurd hq h
  | cons q resto => exact ⟨q, _, rfl⟩

theorem replanificar_completa {motivo : Cadena} (h : Atendible cfg k (.replanificar motivo)) :
    ∃ k', replanificar cfg k motivo = some k' := by
  obtain ⟨-, hplan, hquantum, hcola, hsem⟩ := h
  obtain ⟨quantum, hempieza⟩ : ∃ quantum, empezarReplanificacion cfg k motivo =
      some ({ k with
        semPlanificacion := k.semPlanificacion - 1
        semReplanificacionQuantum := quantum }, elegirCola cfg k motivo) := by
    unfold empezarReplanificacion
    rw [if_neg hplan]
    dsimp only
    split_ifs with hq hz
    · exact absurd hz (hquantum hq)
    · exact ⟨_, rfl⟩
    · exact ⟨_, rfl⟩
  unfold replanificar
  rw [hempieza, Option.bind_some]
  unfold terminarReplanificacion
  dsimp only
  have hl : elegirCola cfg k motivo = .readyM ∨ elegirCola cfg k motivo = .ready := by
    unfold elegirCola
    split_ifs
    · exact Or.inl rfl
    · exact Or.inr rfl
  rcases hl with hl | hl
  · rw [hl] at hcola hsem ⊢
    rw [if_pos rfl] at hsem ⊢
    rw [if_neg hsem]
    obtain ⟨q, k₁, hd⟩ := desencolar_completa (l := .readyM) (k := { k with
      semPlanificacion := k.semPlanificacion - 1
      semReplanificacionQuantum := quantum
      semProcesosEnReadyM := k.semProcesosEnReadyM - 1 }) hcola
    rw [hd]
    exact ⟨_, rfl⟩
  · rw [hl] at hcola hsem ⊢
    rw [if_neg (by decide)] at hsem ⊢
    rw [if_neg hsem]
    obtain ⟨q, k₁, hd⟩ := desencolar_completa (l := .ready) (k := { k with
      semPlanificacion := k.semPlanificacion - 1
      semReplanificacionQuantum := quantum
      semProcesosEnReady := k.semProcesosEnReady - 1 }) hcola
    rw [hd]
    exact ⟨_, rfl⟩

/-- An enabled step comes back. -/
theorem paso_completa (hu : Ubicados cfg ∅ k) (h : Contados cfg k) {ev : Evento}
    (hev : Atendible cfg k ev) : ∃ k', paso cfg k ev = some k' := by
  cases ev with
  | iniciarProceso path => exact ⟨_, rfl⟩
  | finalizarProceso p =>
    obtain ⟨e, he, hfin⟩ := hev
    exact finalizarProceso_completa hu h he hfin
  | iniciarPlanificacion => exact ⟨_, rfl⟩
  | detenerPlanificacion => exact ⟨_, if_neg hev⟩
  | administrarProcesosNew =>
    obtain ⟨hnew, hmulti, hllamada, hcola⟩ := hev
    obtain ⟨q, k₁, hd⟩ := desencolar_completa (l := .new) (k := { k with
      semHayProcesosEnNew := k.semHayProcesosEnNew - 1
      semMultiprogramacion := k.semMultiprogramacion - 1 }) hcola
    have hlibre : k.porReplanificar.contains "NEW".toList = false := by
      rw [Bool.eq_false_iff, ne_eq, List.contains_iff_mem]
      exact hllamada
    simp only [paso, administrarProcesosNew, hnew, hmulti, hlibre, Bool.false_eq_true, or_self,
      if_false, hd, Option.map_some]
    exact ⟨_, rfl⟩
  | replanificar motivo =>
    obtain ⟨k₁, hk₁⟩ := replanificar_completa (k := { k with
      porReplanificar := k.porReplanificar.erase motivo }) hev
    refine ⟨k₁, ?_⟩
    simp only [paso, hev.1]
    exact hk₁
  | enviarACpu =>
    obtain ⟨hsem, hcola⟩ := hev
    obtain ⟨q, resto, hq⟩ := List.exists_cons_of_ne_nil hcola
    simp only [paso, enviarACpu, hsem, if_false, hq, List.head?_cons, Option.map_some]
    exact ⟨_, rfl⟩
  | paquete motivo lista =>
    obtain ⟨p, hp, hpide⟩ := hev
    have hexec := hu.enEjecucion_iff.1 hp
    have hcolas : ∀ j, p ∉ k.cola (.recurso j) := fun j =>
      (hu.apartar hexec).notMem_cola (Finset.mem_insert_self p ∅) _
    have hhead := hu.exec p (Finset.notMem_empty p) hexec
    obtain ⟨k₁, hk₁⟩ := atenderSolicitudCpu_completa (k := { k with motivo := motivo })
      (h.congr ⟨rfl, rfl, fun _ => rfl⟩) hcolas hpide
    refine ⟨k₁, ?_⟩
    simp only [paso, hp, Option.bind_some, recibirPaqueteCpu, hhead, if_true]
    exact hk₁
  | finInstruccion => exact ⟨_, rfl⟩
  | quantum finPorQuantum => exact ⟨_, rfl⟩
  | conectarInterfaz idInterfaz permitidas conexion => exact ⟨_, rfl⟩
  | finDeIo idInterfaz mensaje =>
    obtain ⟨i, hi, hcola⟩ := hev
    obtain ⟨q, k₁, hd⟩ := desencolar_completa hcola
    simp only [paso, finDeIo]
    split
    · exact ⟨_, rfl⟩
    · simp only [hi, Option.bind_some, desbloquear, hd, Option.map_some]
      exact ⟨_, rfl⟩

/-! ### The account of the resources -/

/-- The number of records for a resource, by its name. -/
def Estado.registros (k : Estado) (nombre : Cadena) : ℕ :=
  k.listaRecursosRetenidos.countP fun r => stringEqualsIgnoreCase r.recurso nombre

/-- Among names that differ but for case, a name finds the resource that has it. -/
theorem encontrarColaRecurso_eq_some_iff {r : Cadena × ℤ} {i : ℕ}
    (hnombres : cfg.recursos.Pairwise fun r s => stringEqualsIgnoreCase r.1 s.1 = false)
    (hr : cfg.recursos[i]? = some r) (nombre : Cadena) :
    encontrarColaRecurso cfg nombre = some i ↔ stringEqualsIgnoreCase nombre r.1 = true := by
  obtain ⟨hlt, hget⟩ := List.getElem?_eq_some_iff.1 hr
  unfold encontrarColaRecurso
  rw [List.findIdx?_eq_some_iff_getElem]
  constructor
  · rintro ⟨hlt', hi, -⟩
    rw [hget] at hi
    exact stringEqualsIgnoreCase_symm hi
  · intro h
    refine ⟨hlt, by rw [hget]; exact stringEqualsIgnoreCase_symm h, fun j hj => ?_⟩
    have hne := List.pairwise_iff_getElem.1 hnombres j i (by omega) hlt hj
    rw [hget] at hne
    rw [stringEqualsIgnoreCase_congr h, hne]
    simp

/-- The resource, its records and its waiters agree. -/
def CuentaDeRecurso (k : Estado) (i : ℕ) (nombre : Cadena) (instancias : ℤ) : Prop :=
  k.instanciasRecurso i = instancias - k.registros nombre ∧
    ((k.cola (.recurso i)).length : ℤ) = max 0 (-k.instanciasRecurso i) ∧
    (k.registros nombre : ℤ) - (k.cola (.recurso i)).length ≤ instancias ∧
    (0 < k.instanciasRecurso i → k.cola (.recurso i) = [])

theorem Contados.cuentaDeRecurso {r : Cadena × ℤ} {i : ℕ} (h : Contados cfg k)
    (hinit : ∀ r ∈ cfg.recursos, 0 ≤ r.2)
    (hnombres : cfg.recursos.Pairwise fun r s => stringEqualsIgnoreCase r.1 s.1 = false)
    (hr : cfg.recursos[i]? = some r) : CuentaDeRecurso k i r.1 r.2 := by
  have hnum : k.retenidos cfg i = k.registros r.1 := by
    refine List.countP_congr fun x _ => ?_
    rw [RecursosRetenidos.esDe, beq_iff_eq]
    exact encontrarColaRecurso_eq_some_iff hnombres hr x.recurso
  have hinst : instanciasIniciales cfg i = r.2 := by simp [instanciasIniciales, hr]
  have h0 : 0 ≤ r.2 := hinit r (List.mem_of_getElem? hr)
  have hi := h.contados i
  rw [hnum, hinst] at hi
  refine ⟨hi.value, hi.waiters_eq_max h0, hi.granted_le h0, fun hpos => ?_⟩
  exact List.eq_nil_of_length_eq_zero (hi.waiters_eq_zero h0 hpos)

/-- The requests of the resources: `WAIT`, `SIGNAL` with a record, the end of the running process,
and `FINALIZAR_PROCESO` of one that waits for a resource. -/
def PedidoDeRecurso (k : Estado) : Evento → Prop
  | .paquete motivo lista => ∃ p, k.enEjecucion = some p ∧
    (stringEqualsIgnoreCase motivo "EXIT".toList = true ∨
      (stringEqualsIgnoreCase motivo "WAIT".toList = true ∧
        ∃ recurso, lista[0]? = some recurso) ∨
      (stringEqualsIgnoreCase motivo "SIGNAL".toList = true ∧ ∃ recurso, lista[0]? = some recurso ∧
        k.listaRecursosRetenidos.any (RecursosRetenidos.concuerda recurso p) = true))
  | .finalizarProceso p => ∃ recurso, k.estado p = some (.blockRecurso recurso) ∧
    stringContains recurso "IO".toList = false
  | _ => False

theorem PedidoDeRecurso.atendible {ev : Evento} (h : PedidoDeRecurso k ev) (hu : Ubicados cfg ∅ k)
    (hespacios : ∀ r ∈ cfg.recursos, ' ' ∉ r.1) : Atendible cfg k ev := by
  cases ev with
  | paquete motivo lista =>
    obtain ⟨p, hp, hexit | hwait | hsignal⟩ := h
    · exact ⟨p, hp, Or.inr (Or.inl hexit)⟩
    · exact ⟨p, hp, Or.inr (Or.inr (Or.inr (Or.inr (Or.inl hwait))))⟩
    · exact ⟨p, hp, Or.inr (Or.inr (Or.inr (Or.inr (Or.inr (Or.inl hsignal)))))⟩
  | finalizarProceso p =>
    obtain ⟨recurso, hp, hio⟩ := h
    refine ⟨_, hp, ?_⟩
    -- the name is that of a resource, but for case
    rcases hu.lugares p (Finset.notMem_empty p) _ hp with h | h
    · cases h
    · obtain ⟨i, hi⟩ := Option.isSome_iff_exists.1 (by simpa [lugarDe] using h)
      obtain ⟨hlt, heq, -⟩ := List.findIdx?_eq_some_iff_getElem.1 hi
      have hespacio := notMem_space_of_equals (stringEqualsIgnoreCase_symm heq)
        (hespacios _ (List.getElem_mem hlt))
      simp only [EstadoProceso.finalizable, hio]
      simpa using hespacio
  | _ => cases h

/-- **The account of the resources**: at every state of every run each counter is what the
configuration gave less the records, the waiters are what the counter lacks, and the requests of
the resources come back; waiters are woken in the order in which they blocked. -/
theorem recursos_contados (cfg : KernelConfiguracion) (hinit : ∀ r ∈ cfg.recursos, 0 ≤ r.2)
    (hnombres : cfg.recursos.Pairwise fun r s => stringEqualsIgnoreCase r.1 s.1 = false)
    (hespacios : ∀ r ∈ cfg.recursos, ' ' ∉ r.1) (evs : List Evento) :
    Along (paso cfg) (fun k =>
      (∀ i r, cfg.recursos[i]? = some r → CuentaDeRecurso k i r.1 r.2) ∧
      (∀ ev, PedidoDeRecurso k ev → ∃ k', paso cfg k ev = some k') ∧
      ∀ i p q es, Along (paso cfg) (fun k => p ∈ k.cola (.recurso i)) k es →
        (Ahead (k.cola (.recurso i)) p q →
          Along (paso cfg) (fun k => Ahead (k.cola (.recurso i)) p q) k es) ∧
        (Precedes (k.cola (.recurso i)) p q → Evento.finalizarProceso q ∉ es →
          Along (paso cfg) (fun k => Precedes (k.cola (.recurso i)) p q) k es))
      (Estado.inicial cfg) evs := by
  have hinv : ∀ k ev k', Ubicados cfg ∅ k ∧ Contados cfg k → paso cfg k ev = some k' →
      Ubicados cfg ∅ k' ∧ Contados cfg k' :=
    fun k ev k' h hp => ⟨paso_ubicados h.1 hp, (paso_recursos h.2 h.1 hp).1⟩
  refine along_of_invariant hinv ?_ ⟨ubicados_inicial cfg, contados_inicial cfg⟩
  rintro k ⟨hu, hc⟩
  refine ⟨fun i r hr => hc.cuentaDeRecurso hinit hnombres hr,
    fun ev hev => paso_completa hu hc (hev.atendible hu hespacios), fun i p q es hp => ⟨?_, ?_⟩⟩
  · refine fun hpq => hp.carry (C := fun _ => True) hinv ?_ ⟨hu, hc⟩ (fun _ _ => trivial) hpq
    intro k ev k' h _ hp hp' hpq hpaso
    exact ((paso_recursos h.2 h.1 hpaso).2 i).ahead (h.1.colocados.nodup _) hpq hp hp'
  · refine fun hpq hq => hp.carry (C := fun ev => ev ≠ .finalizarProceso q) hinv ?_ ⟨hu, hc⟩
      (fun ev hev h => hq (h ▸ hev)) hpq
    intro k ev k' h hev hp hp' hpq hpaso
    exact ((paso_recursos h.2 h.1 hpaso).2 i).precedes (h.1.colocados.nodup _) hpq hp' hev

/-- A process takes the only instance of a resource and then waits for another. -/
theorem recursos_contados_una_instancia :
    ∃ k, run (paso ⟨.FIFO, [("RA".toList, 1)], 1⟩) (Estado.inicial ⟨.FIFO, [("RA".toList, 1)], 1⟩)
        [.iniciarProceso [], .administrarProcesosNew, .iniciarPlanificacion,
          .replanificar "NEW".toList, .paquete "WAIT".toList ["ra".toList],
          .paquete "WAIT".toList ["RA".toList]] = some k ∧
      k.instanciasRecurso 0 = -1 ∧ CuentaDeRecurso k 0 "RA".toList 1 := by
  refine ⟨_, rfl, rfl, ?_⟩
  have h := recursos_contados ⟨.FIFO, [("RA".toList, 1)], 1⟩ (by decide) (by decide) (by decide)
    [.iniciarProceso [], .administrarProcesosNew, .iniciarPlanificacion,
      .replanificar "NEW".toList, .paquete "WAIT".toList ["ra".toList],
      .paquete "WAIT".toList ["RA".toList]]
  exact (h.last rfl).1 0 ("RA".toList, 1) rfl

end SimuladorSO.Kernel
