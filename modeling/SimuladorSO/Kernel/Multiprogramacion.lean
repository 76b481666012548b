import SimuladorSO.Kernel.Semaforos

/-!
# The command `MULTIPROGRAMACION`

The command changes the degree by the difference between its argument and the global variable
`grado_multiprogramacion`, one post or one wait at a time, while the other threads go on; the
variable keeps the value of the configuration.

* `Consola`, `pasoConsola`: the kernel with the console in the middle of a command;
* `run_grado`: what a run makes of the degree;
* `multiprogramacion_iff`: exactly when the last command has set it.
-/

namespace SimuladorSO.Kernel

open Queues Transitions Commons

/-- The kernel, and what is left of the command in the console: posts of `sem_multiprogramacion` if
positive, waits if negative. -/
structure Consola where
  kernel : Estado
  restan : ℤ

/-- The console after start-up. -/
def Consola.inicial (cfg : KernelConfiguracion) : Consola := ⟨Estado.inicial cfg, 0⟩

/-- The events of the console's own thread. -/
def Evento.esDeConsola : Evento → Bool
  | .iniciarProceso _ => true
  | .finalizarProceso _ => true
  | .iniciarPlanificacion => true
  | .detenerPlanificacion => true
  | _ => false

/-- What happens to the kernel and its console. -/
inductive EventoConsola
  | kernel (ev : Evento)
  | multiprogramacion (argumento : Cadena)
  /-- One turn of a loop of `MULTIPROGRAMACION`. -/
  | turno

/-- One step.  The console takes the next command once it is done with the last. -/
def pasoConsola (cfg : KernelConfiguracion) (s : Consola) : EventoConsola → Option Consola
  | .kernel ev =>
    if ev.esDeConsola ∧ s.restan ≠ 0 then none
    else (paso cfg s.kernel ev).map fun k => { s with kernel := k }
  | .multiprogramacion argumento =>
    if s.restan = 0 then
      some { s with restan := atoi argumento - cfg.gradoMultiprogramacion }
    else none
  | .turno =>
    let k := s.kernel
    if 0 < s.restan then
      some ⟨{ k with semMultiprogramacion := k.semMultiprogramacion + 1 }, s.restan - 1⟩
    else if s.restan < 0 ∧ k.semMultiprogramacion ≠ 0 then
      some ⟨{ k with semMultiprogramacion := k.semMultiprogramacion - 1 }, s.restan + 1⟩
    else none

/-- The arguments of the commands `MULTIPROGRAMACION`, in their order. -/
def comandos (evs : List EventoConsola) : List ℤ :=
  evs.filterMap fun
    | .multiprogramacion argumento => some (atoi argumento)
    | _ => none

/-- The slots that a step gives back twice: that of a process that `FINALIZAR_PROCESO` ends and that
is not blocked. -/
def repetida (s : Consola) : EventoConsola → ℤ
  | .kernel (.finalizarProceso p) =>
    (s.kernel.estado p).elim 0 fun e => if e.bloqueado then 0 else 1
  | _ => 0

variable {cfg : KernelConfiguracion} {s s' : Consola} {evs : List EventoConsola}

/-- What a command adds to the degree: its distance from the configured one. -/
def diferencia (cfg : KernelConfiguracion) : EventoConsola → ℤ
  | .multiprogramacion argumento => atoi argumento - cfg.gradoMultiprogramacion
  | _ => 0

theorem pasoConsola_ubicados (ev : EventoConsola) (h : Ubicados cfg ∅ s.kernel)
    (hp : pasoConsola cfg s ev = some s') : Ubicados cfg ∅ s'.kernel := by
  cases ev with
  | kernel ev =>
    simp only [pasoConsola] at hp
    split_ifs at hp
    obtain ⟨k, hk, rfl⟩ := Option.map_eq_some_iff.1 hp
    exact paso_ubicados h hk
  | multiprogramacion argumento =>
    simp only [pasoConsola] at hp
    split_ifs at hp
    cases hp
    exact h
  | turno =>
    simp only [pasoConsola] at hp
    split_ifs at hp
    · cases hp
      exact h.congr rfl rfl rfl rfl rfl
    · cases hp
      exact h.congr rfl rfl rfl rfl rfl

/-- The degree that there will be once the command is done changes with the commands, and where a
slot is given back twice. -/
theorem pasoConsola_grado (ev : EventoConsola) (h : Ubicados cfg ∅ s.kernel)
    (hp : pasoConsola cfg s ev = some s') :
    (s'.kernel.grado : ℤ) + s'.restan =
      s.kernel.grado + s.restan + (diferencia cfg ev + repetida s ev) := by
  cases ev with
  | kernel ev =>
    simp only [pasoConsola] at hp
    split_ifs at hp
    obtain ⟨k, hk, rfl⟩ := Option.map_eq_some_iff.1 hp
    by_cases hfin : ∃ p, ev = .finalizarProceso p
    · obtain ⟨p, rfl⟩ := hfin
      obtain ⟨e, he, hgrado⟩ := h.finalizarProceso_grado hk
      simp only [diferencia, repetida, he, hgrado, Option.elim_some]
      split_ifs <;> push_cast <;> ring
    · have hno : ∀ p, ev ≠ .finalizarProceso p := fun p heq => hfin ⟨p, heq⟩
      have hrep : repetida s (.kernel ev) = 0 := by
        unfold repetida
        split
        · rename_i p heq
          exact absurd (EventoConsola.kernel.inj heq) (hno p)
        · rfl
      rw [paso_grado h hk hno, hrep]
      simp [diferencia]
  | multiprogramacion argumento =>
    simp only [pasoConsola] at hp
    split_ifs at hp with hlibre
    cases hp
    simp [diferencia, repetida, hlibre]
  | turno =>
    simp only [pasoConsola] at hp
    split_ifs at hp with hpos hneg
    · cases hp
      show ((s.kernel.semMultiprogramacion + 1 + s.kernel.admitidos : ℕ) : ℤ) + (s.restan - 1) =
        ((s.kernel.semMultiprogramacion + s.kernel.admitidos : ℕ) : ℤ) + s.restan + (0 + 0)
      push_cast
      ring
    · cases hp
      show ((s.kernel.semMultiprogramacion - 1 + s.kernel.admitidos : ℕ) : ℤ) + (s.restan + 1) =
        ((s.kernel.semMultiprogramacion + s.kernel.admitidos : ℕ) : ℤ) + s.restan + (0 + 0)
      have hne := hneg.2
      omega

theorem sum_diferencia (cfg : KernelConfiguracion) (evs : List EventoConsola) :
    (evs.map (diferencia cfg)).sum =
      ((comandos evs).map fun n => n - (cfg.gradoMultiprogramacion : ℤ)).sum := by
  induction evs with
  | nil => rfl
  | cons ev evs ih =>
    rw [List.map_cons, List.sum_cons, ih]
    cases ev <;> simp [comandos, diferencia]

/-- What a run makes of the degree. -/
theorem run_grado (hrun : run (pasoConsola cfg) (Consola.inicial cfg) evs = some s) :
    (s.kernel.grado : ℤ) + s.restan = cfg.gradoMultiprogramacion +
      ((comandos evs).map fun n => n - (cfg.gradoMultiprogramacion : ℤ)).sum +
      total (pasoConsola cfg) repetida (Consola.inicial cfg) evs := by
  have htotal := run_total (I := fun s => Ubicados cfg ∅ s.kernel)
    (v := fun s => (s.kernel.grado : ℤ) + s.restan)
    (fun s ev s' h hp => pasoConsola_ubicados ev h hp)
    (fun s ev s' h hp => pasoConsola_grado ev h hp) (ubicados_inicial cfg) hrun
  rw [total_add, total_eq_sum _ hrun, sum_diferencia, ← add_assoc] at htotal
  rw [htotal]
  simp [Consola.inicial, Estado.grado, Estado.inicial, Estado.admitidos]

/-- **`MULTIPROGRAMACION` and the degree**: once the last command of a run is done, the degree is
its argument exactly when the distances of the arguments of the commands before it from the
configured degree, with the slots that `FINALIZAR_PROCESO` gave back twice, add up to nothing. -/
theorem multiprogramacion_iff (cfg : KernelConfiguracion) (evs : List EventoConsola) (s : Consola)
    (antes : List ℤ) (n : ℤ)
    (hrun : run (pasoConsola cfg) (Consola.inicial cfg) evs = some s)
    (hcomandos : comandos evs = antes ++ [n]) (hfin : s.restan = 0) :
    ((s.kernel.semMultiprogramacion + s.kernel.admitidos : ℕ) : ℤ) = n ↔
      (antes.map fun m => m - (cfg.gradoMultiprogramacion : ℤ)).sum +
        total (pasoConsola cfg) repetida (Consola.inicial cfg) evs = 0 := by
  have hgrado := run_grado hrun
  rw [hfin, hcomandos, List.map_append, List.sum_append, List.map_singleton,
    List.sum_singleton] at hgrado
  change (s.kernel.grado : ℤ) = n ↔ _
  constructor
  · intro h
    linarith
  · intro h
    linarith

/-- A command sets the degree to five when the two before it, to three and to one, have
cancelled. -/
theorem multiprogramacion_tercera_vez :
    ∃ s, run (pasoConsola ⟨.FIFO, [], 2⟩) (Consola.inicial ⟨.FIFO, [], 2⟩)
        [.multiprogramacion "3".toList, .turno, .multiprogramacion "1".toList, .turno,
          .multiprogramacion "5".toList, .turno, .turno, .turno] = some s ∧
      ((s.kernel.semMultiprogramacion + s.kernel.admitidos : ℕ) : ℤ) = 5 := by
  refine ⟨_, rfl, (multiprogramacion_iff ⟨.FIFO, [], 2⟩
    [.multiprogramacion "3".toList, .turno, .multiprogramacion "1".toList, .turno,
      .multiprogramacion "5".toList, .turno, .turno, .turno] _ [3, 1] 5 rfl (by decide)
    (by decide)).2 ?_⟩
  decide

/-- The same command issued twice raises the degree from one to five. -/
theorem multiprogramacion_dos_veces :
    ∃ s, run (pasoConsola ⟨.FIFO, [], 1⟩) (Consola.inicial ⟨.FIFO, [], 1⟩)
        [.multiprogramacion "3".toList, .turno, .turno, .multiprogramacion "3".toList, .turno,
          .turno] = some s ∧ s.restan = 0 ∧
      comandos [.multiprogramacion "3".toList, .turno, .turno, .multiprogramacion "3".toList,
        .turno, .turno] = [3, 3] ∧
      s.kernel.semMultiprogramacion + s.kernel.admitidos = 5 ∧
      ((s.kernel.semMultiprogramacion + s.kernel.admitidos : ℕ) : ℤ) ≠ 3 :=
  ⟨_, rfl, by decide, by decide, by decide, by decide⟩

end SimuladorSO.Kernel
