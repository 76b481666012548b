import SimuladorSO.Sistema.Contextos
import SimuladorSO.Sistema.Terminacion

/-!
# Memoria and the processes of the kernel

The kernel tells memoria when a process begins and when it has ended, and goes on: memoria handles
the requests later, while the CPU and the interfaces ask it for other things.  Memoria has a page
table for exactly the processes that it has been told of and whose end it has not handled.

* `Atendidos`: how far memoria is behind the kernel, and `paso_atendidos`, that each step keeps it;
* `memoria_tiene_los_vivos`: the page tables of memoria in every state of every run.
-/

namespace SimuladorSO.Sistema

open Commons Dictionary Kernel Cpu Transitions Ciclo

/-- The processes whose end memoria has not handled. -/
def Maquina.porFinalizar (m : Maquina) : List ℕ := m.aMemoria.filterMap Kernel.Envio.finalizado?

/-- No process is created after the end of one that came later. -/
def CreaAntes (es : List Kernel.Envio) : Prop :=
  es.Pairwise fun e e' => ∀ q r, e.finalizado? = some q → e'.iniciado? = some r → q < r

/-- Memoria has handled the creation of the processes before `c`, and the end of those in
`hechos`. -/
structure Atendidos (cfg : KernelConfiguracion) (m : Maquina) (c : ℕ) (hechos : List ℕ) :
    Prop where
  enOrden : EnOrden cfg m.sistema
  positivo : 0 < c
  finalizados : m.sistema.kernel.finalizados = hechos ++ m.porFinalizar
  creados : ∀ q ∈ hechos, q < c
  creaAntes : CreaAntes m.aMemoria
  vivos : ∀ q : ℕ, Vivo m.memoria q ↔ (0 < q ∧ q < c) ∧ q ∉ hechos

variable {cfg : KernelConfiguracion} {cpu : CpuConfiguracion} {mcfg : Memoria.MemoriaConfiguracion}
  {archivos : Cadena → Cadena} {basura : ℕ → UInt32} {m m' : Maquina} {p p' : Procesos}
  {s : Estado} {c : ℕ} {hechos : List ℕ} {e : EventoProceso}

/-! ### The page tables -/

/-- The kernel begins a process with a page table, and ends it without; nothing else gives or takes
one. -/
theorem vivo_paso (h : Procesos.EnOrden cpu mcfg p) (hc : Procesos.Confinado mcfg p e)
    (hp : Procesos.paso cpu mcfg p e = some p') (q : ℕ) :
    Vivo p'.memoria q ↔ match e with
      | .iniciar _ pid => q = pid ∨ Vivo p.memoria q
      | .finalizar pid => q ≠ pid ∧ Vivo p.memoria q
      | _ => Vivo p.memoria q := by
  cases e with
  | iniciar archivo pid =>
    cases hp
    show (get (Memoria.recibirInfoKernel p.memoria _).registroTablaDePaginas q).isSome = true ↔ _
    rw [iniciarProceso_get]
    split_ifs with hq
    · exact iff_of_true rfl (Or.inl (by exact_mod_cast hq))
    · exact ⟨Or.inr, fun h => h.resolve_left (by exact_mod_cast hq)⟩
  | finalizar pid =>
    cases hp
    show (get (Memoria.recibirInfoKernel p.memoria _).registroTablaDePaginas q).isSome = true ↔ _
    rw [finalizarProceso_get]
    split_ifs with hq
    · exact iff_of_false (by simp) fun h => h.1 (by exact_mod_cast hq)
    · exact ⟨fun h => ⟨by exact_mod_cast hq, h⟩, And.right⟩
  | ejecutar pid =>
    obtain ⟨x, hx, rfl⟩ := Option.map_eq_some_iff.1 hp
    exact (ciclo_soloSuyo (h.cpuDe pid) (h.vivo hx) hc x hx).vivos q
  | escribir pid direccion tamanio mensaje =>
    obtain ⟨⟨memoria, envios⟩, hm, rfl⟩ := Option.map_eq_some_iff.1 hp
    obtain ⟨visitados, huboError, -, rfl, -⟩ := escribirMemoria_eq_some hm
    exact Iff.rfl
  | leer pid direccion tamanio =>
    obtain ⟨envios, -, rfl⟩ := Option.map_eq_some_iff.1 hp
    exact Iff.rfl

/-- The event gives or takes no page table. -/
def SinTablas : EventoProceso → Prop
  | .iniciar _ _ => False
  | .finalizar _ => False
  | _ => True

theorem vivo_sinTablas (h : Procesos.EnOrden cpu mcfg p) (he : SinTablas e)
    (hc : Procesos.Confinado mcfg p e) (hp : Procesos.paso cpu mcfg p e = some p') :
    p'.contadorPid = p.contadorPid ∧ ∀ q : ℕ, Vivo p'.memoria q ↔ Vivo p.memoria q := by
  have hvivo := vivo_paso h hc hp
  cases e with
  | iniciar archivo pid => exact he.elim
  | finalizar pid => exact he.elim
  | _ =>
    obtain ⟨x, -, rfl⟩ := Option.map_eq_some_iff.1 hp
    exact ⟨rfl, hvivo⟩

/-! ### The requests on their way -/

/-- The ends of processes that the kernel has sent go to memoria. -/
theorem finalizados_nuevos {k k' : Kernel.Estado} {es : List Kernel.Envio}
    (hes : k'.enviados = k.enviados ++ es) :
    k'.finalizados =
      k.finalizados ++ (Maquina.nuevosAMemoria k k').filterMap Kernel.Envio.finalizado? := by
  rw [Kernel.Estado.finalizados, Maquina.nuevosAMemoria, hes, List.drop_left, List.filterMap_append,
    List.filterMap_filter]
  congr 2
  funext e
  cases e <;> rfl

/-- A process that has ended was created. -/
theorem EnOrden.finalizado_lt (h : EnOrden cfg s) {q : ℕ} (hq : q ∈ s.kernel.finalizados) :
    0 < q ∧ q < s.kernel.contadorPid := by
  obtain ⟨⟨t, ht⟩, hfin⟩ := h
  rw [hfin] at hq
  have hexit := (Ubicados.exit_iff ht.ubicados).2 hq
  exact (ht.ubicados.vivo_iff q).1 (by rw [hexit]; rfl)

/-- What a step of the system sends creates the next process, or none. -/
theorem CreaAntes.paso {tamPagina : ℕ} {s' : Estado} {ev : Evento} {es : List Kernel.Envio}
    (h : CreaAntes es) (horden : EnOrden cfg s)
    (hes : ∀ q ∈ es.filterMap Kernel.Envio.finalizado?, q ∈ s.kernel.finalizados)
    (hp : Sistema.paso cfg cpu tamPagina s ev = some s') :
    CreaAntes (es ++ Maquina.nuevosAMemoria s.kernel s'.kernel) ∧
      s'.kernel.finalizados = s.kernel.finalizados ++
        (Maquina.nuevosAMemoria s.kernel s'.kernel).filterMap Kernel.Envio.finalizado? := by
  rcases paso_sinIniciar hp with ⟨path, -, hk⟩ | ⟨-, fs, hfs, hno⟩
  · have henv : s'.kernel.enviados =
        s.kernel.enviados ++ [.iniciarProceso path s.kernel.contadorPid] := by
      rw [hk]
      rfl
    refine ⟨?_, finalizados_nuevos henv⟩
    rw [Maquina.nuevosAMemoria, henv, List.drop_left]
    refine List.pairwise_append.2 ⟨h, List.pairwise_singleton _ _, ?_⟩
    intro e he e' he' q r hq hr
    rw [List.mem_singleton.1 he'] at hr
    cases hr
    exact (horden.finalizado_lt (hes q (List.mem_filterMap.2 ⟨e, he, hq⟩))).2
  · refine ⟨?_, finalizados_nuevos hfs⟩
    have hnada : ∀ e ∈ Maquina.nuevosAMemoria s.kernel s'.kernel, e.iniciado? = none := by
      rw [Maquina.nuevosAMemoria, hfs, List.drop_left]
      exact fun e he => hno e (List.mem_filter.1 he).1
    refine List.pairwise_append.2 ⟨h, ?_, ?_⟩
    · refine List.pairwise_of_forall_mem_list fun e _ e' he' q r _ hr => ?_
      rw [hnada e' he'] at hr
      cases hr
    · intro e _ e' he' q r _ hr
      rw [hnada e' he'] at hr
      cases hr

/-! ### One step -/

/-- The kernel sends requests: memoria has not handled them. -/
theorem Atendidos.sistema {ev : Evento} (h : Atendidos cfg m c hechos)
    (hC : Ordenado cpu mcfg.tamPagina m.sistema ev)
    (hp : Sistema.paso cfg cpu mcfg.tamPagina m.sistema ev = some s) :
    Atendidos cfg (m.trasPaso basura ev s) c hechos := by
  obtain ⟨_, _, _, _, hmover⟩ := Maquina.moverRegistros_eq basura m ev
  have hmemoria : (m.trasPaso basura ev s).memoria = m.memoria := by
    unfold Maquina.trasPaso
    rw [hmover]
  have hvivos := h.vivos
  rw [← hmemoria] at hvivos
  have hpend : ∀ q ∈ m.porFinalizar, q ∈ m.sistema.kernel.finalizados := fun q hq => by
    rw [h.finalizados]
    exact List.mem_append_right hechos hq
  obtain ⟨hcrea, hfin⟩ := h.creaAntes.paso h.enOrden hpend hp
  refine ⟨(paso_enOrden h.enOrden hC hp).1, h.positivo, ?_, h.creados, hcrea, hvivos⟩
  show s.kernel.finalizados = hechos ++ (m.aMemoria ++ _).filterMap _
  rw [hfin, h.finalizados, List.filterMap_append, List.append_assoc]
  rfl

/-- Memoria handles the next request of the kernel. -/
theorem Atendidos.manejarKernel {envio : Kernel.Envio} {resto : List Kernel.Envio}
    (h : Atendidos cfg m c hechos) (hsim : Simula cfg cpu mcfg basura m p) (hcp : p.contadorPid = c)
    (hK : m.aMemoria = envio :: resto) (he : eventoDe archivos envio = some e)
    (hc : Procesos.Confinado mcfg p e) (hp : Procesos.paso cpu mcfg p e = some p') :
    ∃ c' hechos', p'.contadorPid = (c' : ℕ) ∧
      Atendidos cfg { m with memoria := p'.memoria, aMemoria := resto } c' hechos' := by
  obtain ⟨c₁, hc₁, hle, hpedidos⟩ := hsim.pedidos
  obtain rfl : c₁ = c := by exact_mod_cast hc₁.symm.trans hcp
  have hfin := h.finalizados
  have hcrea := h.creaAntes
  have hvivos := vivo_paso hsim.orden hc hp
  have hantes := h.vivos
  rw [← hsim.memoria] at hantes
  rw [Maquina.porFinalizar, hK] at hfin
  rw [hK] at hpedidos
  rw [hK, CreaAntes, List.pairwise_cons] at hcrea
  cases envio with
  | iniciarProceso path q =>
    cases he
    obtain rfl : q = c₁ := by exact_mod_cast (show (q : ℤ) = p.contadorPid from hc).trans hcp
    cases hp
    refine ⟨q + 1, hechos, rfl, h.enOrden, Nat.succ_pos q, hfin,
      fun r hr => Nat.lt_succ_of_lt (h.creados r hr), hcrea.2, fun r => ?_⟩
    have hno : q ∉ hechos := fun hq => lt_irrefl q (h.creados q hq)
    refine (hvivos r).trans ?_
    dsimp only
    rw [hantes r]
    constructor
    · rintro (rfl | ⟨⟨h0, hlt⟩, hr⟩)
      · exact ⟨⟨h.positivo, Nat.lt_succ_self r⟩, hno⟩
      · exact ⟨⟨h0, Nat.lt_succ_of_lt hlt⟩, hr⟩
    · rintro ⟨⟨h0, hlt⟩, hr⟩
      rcases Nat.lt_succ_iff_lt_or_eq.1 hlt with hlt | rfl
      · exact Or.inr ⟨⟨h0, hlt⟩, hr⟩
      · exact Or.inl rfl
  | finalizarProceso q =>
    cases he
    cases hp
    have hfin : m.sistema.kernel.finalizados =
        hechos ++ q :: resto.filterMap Kernel.Envio.finalizado? := hfin
    -- its creation has been handled, since it does not come later
    have hq : q < c₁ := by
      by_contra hq
      have hlt := (h.enOrden.finalizado_lt (q := q) (by rw [hfin]; simp)).2
      have hmem : q ∈ resto.filterMap Kernel.Envio.iniciado? := by
        have hpedidos : resto.filterMap Kernel.Envio.iniciado? =
          List.range' c₁ (m.sistema.kernel.contadorPid - c₁) := hpedidos
        rw [hpedidos, List.mem_range'_1]
        omega
      obtain ⟨e', he', hiniciado⟩ := List.mem_filterMap.1 hmem
      exact lt_irrefl q (hcrea.1 e' he' q q rfl hiniciado)
    refine ⟨c₁, hechos ++ [q], hcp, h.enOrden, h.positivo, ?_, ?_, hcrea.2, fun r => ?_⟩
    · rw [List.append_assoc]
      exact hfin
    · intro r hr
      rcases List.mem_append.1 hr with hr | hr
      · exact h.creados r hr
      · rw [List.mem_singleton.1 hr]
        exact hq
    · refine (hvivos r).trans ?_
      dsimp only
      rw [hantes r, List.mem_append, List.mem_singleton, not_or]
      tauto
  | interfaz => cases he
  | interrupcion => cases he

/-- The CPU or an interface asks memoria for something, and the kernel for nothing. -/
theorem Atendidos.sinTablas (h : Atendidos cfg m c hechos) (hsim : Simula cfg cpu mcfg basura m p)
    (hsim' : Simula cfg cpu mcfg basura m' p') (hcp : p.contadorPid = c) (he : SinTablas e)
    (hc : Procesos.Confinado mcfg p e) (hp : Procesos.paso cpu mcfg p e = some p')
    (hk : m'.sistema.kernel = m.sistema.kernel) (hA : m'.aMemoria = m.aMemoria) :
    p'.contadorPid = c ∧ Atendidos cfg m' c hechos := by
  obtain ⟨hcont, hvivo⟩ := vivo_sinTablas hsim.orden he hc hp
  refine ⟨hcont.trans hcp, ⟨hsim'.turno, ?_⟩, h.positivo, ?_, h.creados, ?_, fun q => ?_⟩
  · rw [hk]
    exact h.enOrden.2
  · rw [hk, Maquina.porFinalizar, hA]
    exact h.finalizados
  · rw [hA]
    exact h.creaAntes
  · rw [← hsim'.memoria, hvivo q, hsim.memoria]
    exact h.vivos q

/-- **A step of the machine**: memoria keeps up with the kernel. -/
theorem paso_atendidos {ev : EventoMaquina} (h : Atendidos cfg m c hechos)
    (hsim : Simula cfg cpu mcfg basura m p) (hcp : p.contadorPid = c)
    (hC : Maquina.Ordenada cpu mcfg m ev)
    (hp : Maquina.paso cfg cpu mcfg archivos basura m ev = some m') :
    ∃ (p' : Procesos) (c' : ℕ) (hechos' : List ℕ), Simula cfg cpu mcfg basura m' p' ∧
      p'.contadorPid = c' ∧ Atendidos cfg m' c' hechos' := by
  obtain ⟨p', hrun, hmeets, hsim'⟩ :=
    (paso_simula cfg cpu mcfg archivos basura).step m ev m' p hsim hC hp
  have huno : ∀ {e : EventoProceso}, Maquina.cuenta archivos m ev = [e] →
      Procesos.paso cpu mcfg p e = some p' ∧ Procesos.Confinado mcfg p e := by
    intro e he
    rw [he] at hrun hmeets
    obtain ⟨u, hu, hnil⟩ := run_cons_eq_some.1 hrun
    cases hnil
    exact ⟨hu, (hmeets p' hu).1⟩
  cases ev with
  | sistema ev =>
    cases hrun
    obtain ⟨-, hp⟩ | ⟨-, hp⟩ := ite_eq_iff.1 hp
    · cases hp
    obtain ⟨s, hs, rfl⟩ := Option.map_eq_some_iff.1 hp
    exact ⟨p, c, hechos, hsim', hcp, h.sistema hC hs⟩
  | hacerInstruccion =>
    unfold Maquina.paso at hp
    cases hcpu : m.sistema.cpu with
    | ejecutando pid =>
      simp only [hcpu] at hp
      obtain ⟨x, -, rfl⟩ := Option.map_eq_some_iff.1 hp
      obtain ⟨hpaso, hc⟩ := huno (e := .ejecutar pid) (by unfold Maquina.cuenta; simp only [hcpu])
      have he : SinTablas (.ejecutar pid) := trivial
      obtain ⟨hcp', h'⟩ := h.sinTablas hsim hsim' hcp he hc hpaso rfl rfl
      exact ⟨p', c, hechos, hsim', hcp', h'⟩
    | _ =>
      simp only [hcpu] at hp
      cases hp
  | manejarKernel =>
    unfold Maquina.paso at hp
    cases hK : m.aMemoria with
    | nil =>
      simp only [hK] at hp
      cases hp
    | cons envio resto =>
      simp only [hK] at hp
      obtain ⟨pedido, hpedido, rfl⟩ := Option.map_eq_some_iff.1 hp
      obtain ⟨e, -, he, -⟩ := hsim.manejarKernel hK hpedido
      obtain ⟨hpaso, hc⟩ := huno (e := e) (by
        unfold Maquina.cuenta
        rw [hK, List.head?_cons, Option.bind_some, he]
        rfl)
      obtain ⟨c', hechos', hcp', h'⟩ := h.manejarKernel hsim hcp hK he hc hpaso
      refine ⟨p', c', hechos', hsim', hcp', ?_⟩
      rw [hsim'.memoria] at h'
      exact h'
  | escribir pid direccion tamanio mensaje =>
    obtain ⟨hpaso, hc⟩ := huno (e := .escribir pid direccion tamanio mensaje) rfl
    obtain ⟨x, -, rfl⟩ := Option.map_eq_some_iff.1 hp
    have he : SinTablas (.escribir pid direccion tamanio mensaje) := trivial
    obtain ⟨hcp', h'⟩ := h.sinTablas hsim hsim' hcp he hc hpaso rfl rfl
    exact ⟨p', c, hechos, hsim', hcp', h'⟩
  | leer pid direccion tamanio =>
    obtain ⟨hpaso, hc⟩ := huno (e := .leer pid direccion tamanio) rfl
    obtain ⟨x, -, rfl⟩ := Option.map_eq_some_iff.1 hp
    have he : SinTablas (.leer pid direccion tamanio) := trivial
    obtain ⟨hcp', h'⟩ := h.sinTablas hsim hsim' hcp he hc hpaso rfl rfl
    exact ⟨p', c, hechos, hsim', hcp', h'⟩

/-! ### Whole runs -/

theorem atendidos_inicial (cfg : KernelConfiguracion) (cpu : CpuConfiguracion)
    (espacio : ℤ → UInt8) : Atendidos cfg (.inicial cfg cpu espacio) 1 [] where
  enOrden := enOrden_inicial cfg
  positivo := Nat.one_pos
  finalizados := rfl
  creados q hq := absurd hq List.not_mem_nil
  creaAntes := List.Pairwise.nil
  vivos q := by
    refine iff_of_false (fun h => by cases h) fun h => ?_
    omega

theorem mem_porFinalizar {q : ℕ} : q ∈ m.porFinalizar ↔ .finalizarProceso q ∈ m.aMemoria := by
  rw [Maquina.porFinalizar, List.mem_filterMap]
  constructor
  · rintro ⟨e, he, hq⟩
    cases e <;> cases hq
    exact he
  · exact fun h => ⟨_, h, rfl⟩

theorem mem_iniciados {es : List Kernel.Envio} {q : ℕ} :
    q ∈ es.filterMap Kernel.Envio.iniciado? ↔ ∃ path, .iniciarProceso path q ∈ es := by
  rw [List.mem_filterMap]
  constructor
  · rintro ⟨e, he, hq⟩
    cases e <;> cases hq
    exact ⟨_, he⟩
  · exact fun ⟨path, h⟩ => ⟨_, h, rfl⟩

/-- What memoria has a page table for. -/
theorem Atendidos.vivo_iff (h : Atendidos cfg m c hechos) (hsim : Simula cfg cpu mcfg basura m p)
    (hcp : p.contadorPid = c) (q : ℕ) :
    Vivo m.memoria q ↔ (m.sistema.kernel.estado q).isSome = true ∧
      (∀ path, .iniciarProceso path q ∉ m.aMemoria) ∧
      (m.sistema.kernel.estado q = some .exit → .finalizarProceso q ∈ m.aMemoria) := by
  obtain ⟨c₁, hc₁, hle, hpedidos⟩ := hsim.pedidos
  obtain rfl : c₁ = c := by exact_mod_cast hc₁.symm.trans hcp
  obtain ⟨⟨t, ht⟩, hcola⟩ := h.enOrden
  have hexit : m.sistema.kernel.estado q = some .exit ↔ q ∈ hechos ∨ q ∈ m.porFinalizar := by
    rw [Ubicados.exit_iff ht.ubicados, ← hcola, h.finalizados, List.mem_append]
  have hiniciado : (∃ path, .iniciarProceso path q ∈ m.aMemoria) ↔
      c₁ ≤ q ∧ q < m.sistema.kernel.contadorPid := by
    rw [← mem_iniciados, hpedidos, List.mem_range'_1, Nat.add_sub_cancel' hle]
  rw [h.vivos q, ht.ubicados.vivo_iff, ← not_exists, hiniciado, hexit, ← mem_porFinalizar]
  constructor
  · rintro ⟨⟨h0, hlt⟩, hno⟩
    exact ⟨⟨h0, by omega⟩, by omega, fun hq => hq.resolve_left hno⟩
  · rintro ⟨⟨h0, hlt⟩, hya, hfin⟩
    refine ⟨⟨h0, by omega⟩, fun hq => ?_⟩
    have hnodup := ht.ubicados.colocados.nodup .exit
    rw [← hcola, h.finalizados, List.nodup_append] at hnodup
    exact hnodup.2.2 q hq q (hfin (Or.inl hq)) rfl

/-- **Memoria has the page tables of the processes that are alive.**  In every state of every run of
the machine, memoria has a page table for a process exactly if the kernel has created it, the
request to begin it does not wait any more, and the request to end it, if there is one, still does.
Once memoria has handled all the requests, these are the processes that have not ended. -/
theorem memoria_tiene_los_vivos (cfg : KernelConfiguracion) (cpu : CpuConfiguracion)
    (mcfg : Memoria.MemoriaConfiguracion) (archivos : Cadena → Cadena) (basura : ℕ → UInt32)
    (espacio : ℤ → UInt8) (evs : List EventoMaquina) (m : Maquina)
    (hm : Meets (Maquina.paso cfg cpu mcfg archivos basura) (Maquina.Ordenada cpu mcfg)
      (.inicial cfg cpu espacio) evs)
    (hrun : run (Maquina.paso cfg cpu mcfg archivos basura) (.inicial cfg cpu espacio) evs =
      some m) :
    (∀ q : ℕ, Vivo m.memoria q ↔ (m.sistema.kernel.estado q).isSome = true ∧
      (∀ path, .iniciarProceso path q ∉ m.aMemoria) ∧
      (m.sistema.kernel.estado q = some .exit → .finalizarProceso q ∈ m.aMemoria)) ∧
    (m.aMemoria = [] → ∀ q : ℕ, Vivo m.memoria q ↔
      (m.sistema.kernel.estado q).isSome = true ∧ m.sistema.kernel.estado q ≠ some .exit) := by
  have hinv : Along (Maquina.paso cfg cpu mcfg archivos basura) (fun m =>
      ∃ (p : Procesos) (c : ℕ) (hechos : List ℕ), Simula cfg cpu mcfg basura m p ∧
        p.contadorPid = c ∧ Atendidos cfg m c hechos) (.inicial cfg cpu espacio) evs := by
    refine along_of_meets ?_ ⟨_, 1, [], simula_inicial cfg cpu mcfg basura espacio, rfl,
      atendidos_inicial cfg cpu espacio⟩ hm
    rintro m ev m' ⟨p, c, hechos, hsim, hcp, h⟩ hC hp
    exact paso_atendidos h hsim hcp hC hp
  obtain ⟨p, c, hechos, hsim, hcp, h⟩ := hinv.last hrun
  refine ⟨h.vivo_iff hsim hcp, fun hvacio q => ?_⟩
  rw [h.vivo_iff hsim hcp q, hvacio]
  exact and_congr_right fun _ =>
    ⟨fun h he => absurd (h.2 he) List.not_mem_nil, fun h => ⟨fun _ => List.not_mem_nil,
      fun he => absurd he h⟩⟩

/-- One process is alive, and there is no other one. -/
theorem memoria_tiene_los_vivos_uno : Vivo enLaCpu.memoria 1 ∧ ¬ Vivo enLaCpu.memoria 2 := by
  have h := (memoria_tiene_los_vivos deAUno sinTlb Memoria.cfgCuatroMarcos
    (fun _ => "SET AX 5".toList) (fun _ => 0) (fun _ => 0) hastaLaCpu enLaCpu
    (hastaLaCpu_ordenada _) run_hastaLaCpu).2 rfl
  refine ⟨(h 1).2 ⟨rfl, fun he => ?_⟩, fun hv => ?_⟩
  · have hexec : enLaCpu.sistema.kernel.estado 1 = some .exec := rfl
    cases hexec.symm.trans he
  · cases ((h 2).1 hv).1

end SimuladorSO.Sistema
