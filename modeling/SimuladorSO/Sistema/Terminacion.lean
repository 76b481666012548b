import SimuladorSO.Sistema.Turnos

/-!
# EXIT is terminal

A process that has ended stays so, in `cola_exit` and in no other queue, and `exit_prima` does not
run for it again: in every run of the kernel and the CPU whose steps are `Ordenado`.  It fails when
an instruction whose address was denied still asks for an interface: the kernel ends the process at
the first packet and blocks it at the second.
-/

namespace SimuladorSO.Sistema

open Commons Kernel Cpu Transitions

/-- The process, which has ended at `s`, is at `t` as a process that has ended has to be. -/
structure SigueTerminado (p : ℕ) (s t : Estado) : Prop where
  estado : t.kernel.estado p = some .exit
  colas : ∀ l, l ≠ .exit → p ∉ t.kernel.cola l
  colaExit : (t.kernel.cola .exit).count p = 1
  finalizado : t.kernel.enviados.count (.finalizarProceso p) = 1
  colaExec : p ∈ t.kernel.colaExec → p ∈ s.kernel.colaExec
  paquetes : ∀ q, .paquete q ∈ t.aKernel → t.kernel.enEjecucion = some q.pid ∧ q.pid ≠ p

/-- The turns are in order, and the processes that have ended are those for which `exit_prima` has
run. -/
def EnOrden (cfg : KernelConfiguracion) (s : Estado) : Prop :=
  (∃ t, EnTurno cfg t s) ∧ s.kernel.finalizados = s.kernel.cola .exit

variable {cfg : KernelConfiguracion} {cpu : CpuConfiguracion} {tamPagina : ℕ} {s s' : Estado}
  {k : Kernel.Estado} {p : ℕ}

/-- Every packet on its way is of the process in EXEC. -/
theorem EnTurno.paquete_de_exec {t : Turno} {q : Paquete} (h : EnTurno cfg t s)
    (hq : .paquete q ∈ s.aKernel) : s.kernel.estado q.pid = some .exec := by
  have hcanales := h.canales
  cases t with
  | pidiendo r =>
    obtain ⟨⟨ps, hps, -, hpropios⟩, -⟩ := hcanales
    rw [hps] at hq
    simp only [List.mem_append, List.mem_map, MensajeCpu.paquete.injEq, exists_eq_right,
      List.mem_singleton, reduceCtorEq, or_false] at hq
    rw [(hpropios q hq).1]
    exact (h.exec r).2 rfl
  | devuelto r =>
    have hK := hcanales.1
    rw [hK, List.mem_singleton] at hq
    cases hq
    exact (h.exec r).2 rfl
  | _ =>
    have hK := hcanales.1
    rw [hK] at hq
    simp at hq

theorem enOrden_inicial (cfg : KernelConfiguracion) : EnOrden cfg (Estado.inicial cfg) :=
  ⟨⟨.nadie, enTurno_inicial cfg⟩, rfl⟩

theorem paso_enOrden {ev : Evento} (h : EnOrden cfg s) (hC : Ordenado cpu tamPagina s ev)
    (hp : paso cfg cpu tamPagina s ev = some s') : EnOrden cfg s' ∧ Avanza s s' := by
  obtain ⟨⟨t, ht⟩, hfin⟩ := h
  obtain ⟨t', ht', ha⟩ := paso_enTurno ht hC hp
  obtain ⟨ps, hexit, hfin'⟩ := ha.salidas
  exact ⟨⟨⟨t', ht'⟩, by rw [hexit, hfin', hfin]⟩, ha⟩

/-- A process that has ended before an orderly step has ended after it. -/
theorem Avanza.terminado (ha : Avanza s s') (h : EnOrden cfg s) (h' : EnOrden cfg s')
    (hp : s.kernel.estado p = some .exit) : s'.kernel.estado p = some .exit ∧
      (p ∈ s'.kernel.colaExec → p ∈ s.kernel.colaExec) := by
  obtain ⟨⟨t, ht⟩, -⟩ := h
  obtain ⟨⟨t', ht'⟩, -⟩ := h'
  have hexit : s'.kernel.estado p = some .exit := by
    obtain ⟨ps, hcola, -⟩ := ha.salidas
    apply (Ubicados.exit_iff ht'.ubicados).2
    rw [hcola]
    exact List.mem_append_left ps ((Ubicados.exit_iff ht.ubicados).1 hp)
  refine ⟨hexit, fun hq => ?_⟩
  rcases ha.colaExec p hq with hq | hexec
  · exact hq
  · rw [hexit] at hexec
    cases hexec

/-- What a process that has ended looks like when the turns are in order. -/
theorem EnOrden.sigueTerminado {s₀ : Estado} (h : EnOrden cfg s)
    (hp : s.kernel.estado p = some .exit)
    (hexec : p ∈ s.kernel.colaExec → p ∈ s₀.kernel.colaExec) : SigueTerminado p s₀ s := by
  obtain ⟨⟨t, ht⟩, hfin⟩ := h
  have hmem := (Ubicados.exit_iff ht.ubicados).1 hp
  have hcount : (s.kernel.cola .exit).count p = 1 :=
    List.count_eq_one_of_mem (ht.ubicados.colocados.nodup .exit) hmem
  refine ⟨hp, fun l hl hpl => ?_, hcount, ?_, hexec, fun q hq => ?_⟩
  · exact hl (ht.ubicados.colocados.eq_of_mem hpl hmem)
  · rw [← count_finalizados, hfin, hcount]
  · have hq := ht.paquete_de_exec hq
    refine ⟨ht.ubicados.enEjecucion_iff.2 hq, ?_⟩
    rintro rfl
    rw [hp] at hq
    cases hq

/-- **EXIT is terminal** in every run whose steps are in order: whenever a process has ended, it
has ended in every state that is reached from there. -/
theorem exit_terminal (cfg : KernelConfiguracion) (cpu : CpuConfiguracion) (tamPagina : ℕ)
    (evs : List Evento)
    (hevs : Meets (paso cfg cpu tamPagina) (Ordenado cpu tamPagina) (Estado.inicial cfg) evs) :
    Along (paso cfg cpu tamPagina) (fun s => ∀ p, s.kernel.estado p = some .exit →
        ∀ evs', Meets (paso cfg cpu tamPagina) (Ordenado cpu tamPagina) s evs' →
          Along (paso cfg cpu tamPagina) (SigueTerminado p s) s evs')
      (Estado.inicial cfg) evs := by
  have horden : Along (paso cfg cpu tamPagina) (EnOrden cfg) (Estado.inicial cfg) evs :=
    along_of_meets (fun s ev s' h hC hp => (paso_enOrden h hC hp).1) (enOrden_inicial cfg) hevs
  refine horden.imp fun s hs p hp evs' hevs' => ?_
  have hsigue : Along (paso cfg cpu tamPagina) (fun t => EnOrden cfg t ∧
      t.kernel.estado p = some .exit ∧ (p ∈ t.kernel.colaExec → p ∈ s.kernel.colaExec)) s evs' := by
    refine along_of_meets ?_ ⟨hs, hp, id⟩ hevs'
    rintro u ev v ⟨hu, hpu, hexec⟩ hC hpaso
    obtain ⟨hv, ha⟩ := paso_enOrden hu hC hpaso
    obtain ⟨hpv, hexec'⟩ := ha.terminado hu hv hpu
    exact ⟨hv, hpv, fun h => hexec (hexec' h)⟩
  exact hsigue.imp fun t ⟨ht, hpt, hexec⟩ => ht.sigueTerminado hpt hexec

/-- FIFO, no resources, two processes at a time. -/
def fifo : KernelConfiguracion := ⟨.FIFO, [], 2⟩

/-- No page has a frame. -/
def sinMarcos : Contexto where
  registros := ⟨0, 0, 0, 0, 0, 0, 0, 0, 0, 0, 0⟩
  tlb := []
  obtenerMarcoMemoria := fun _ => -1
  respuestaResize := fun _ => []

/-- Two processes are created, and the first one runs. -/
def arranque : List Evento :=
  [.kernel (.conectarInterfaz "SALIDA".toList "IO_STDOUT_WRITE".toList 7),
    .kernel (.iniciarProceso []), .kernel (.iniciarProceso []), .kernel .iniciarPlanificacion,
    .kernel .administrarProcesosNew, .empezarReplanificacion "NEW".toList,
    .terminarReplanificacion, .enviarACpu, .kernel .administrarProcesosNew,
    .manejarPuertoDispatch]

/-- The first process ends, and the second one gets its turn. -/
theorem exit_terminal_dos_procesos :
    ∃ s, run (paso fifo ⟨0, []⟩ 16) (Estado.inicial fifo) (arranque ++
        [.hacerInstruccion sinMarcos "EXIT".toList, .recibirRespuestaCpu]) = some s ∧
      s.kernel.estado 1 = some .exit ∧
      Along (paso fifo ⟨0, []⟩ 16) (SigueTerminado 1 s) s
        [.recibirRespuestaCpu, .empezarReplanificacion "EXIT".toList, .terminarReplanificacion] := by
  refine ⟨_, rfl, rfl, ?_⟩
  refine (exit_terminal fifo ⟨0, []⟩ 16 (arranque ++
    [.hacerInstruccion sinMarcos "EXIT".toList, .recibirRespuestaCpu]) ?_).last rfl 1 rfl _ ?_
  · refine meets_of_forall (fun e he s => ?_) _
    simp only [arranque, List.cons_append, List.nil_append] at he
    fin_cases he <;> first | trivial | exact fun _ _ => rfl
  · refine meets_of_forall (fun e he s => ?_) _
    fin_cases he <;> trivial

/-- Its address is denied, so the first process ends; then its request blocks it, and the interface
makes it ready again. -/
theorem exit_no_terminal_tras_denegar :
    ∃ s t, run (paso fifo ⟨0, []⟩ 16) (Estado.inicial fifo) (arranque ++
        [.hacerInstruccion sinMarcos "IO_STDOUT_WRITE SALIDA EAX EBX".toList,
          .recibirRespuestaCpu]) = some s ∧
      s.kernel.estado 1 = some .exit ∧
      run (paso fifo ⟨0, []⟩ 16) s [.recibirRespuestaCpu,
        .kernel (.finDeIo "SALIDA".toList "END_OF_IO_STDOUT_WRITE".toList)] = some t ∧
      t.kernel.estado 1 = some .ready ∧ 1 ∈ t.kernel.cola .ready :=
  ⟨_, _, rfl, rfl, rfl, rfl, by decide⟩

end SimuladorSO.Sistema
