import SimuladorSO.Sistema.Estado
import SimuladorSO.Library.Transitions

/-!
# Whose turn it is

At any moment at most one thing can go on with a process: the kernel, which has to choose one; a
message on its way; or the CPU.  `Turno` says which, `Canales` what the channels and the CPU hold
then, and `EnTurno` ties it to the process in EXEC.  While the kernel already chooses the next
process, the CPU may still be busy with the eviction of the last one (`Saliendo`).

Every step keeps the turns in order as long as it is `Ordenado`: no instruction asks for something
after a denied access, and the interrupt at which the CPU evicts a process is that process's own.
-/

namespace SimuladorSO.Sistema

open Commons Kernel Cpu Transitions

/-- Where the turn is. -/
inductive Turno
  /-- The kernel has to choose a process. -/
  | nadie
  /-- The process is in EXEC, and is to be sent. -/
  | elegido (pid : ℕ)
  | enviado (pid : ℕ)
  | ejecutando (pid : ℕ)
  /-- The CPU has sent an instruction, with a packet or without. -/
  | pidiendo (pid : ℕ)
  /-- The kernel has evicted the process by its packet. -/
  | desalojado (pid : ℕ)
  /-- The kernel has answered for a process that is still in EXEC. -/
  | respondido (pid : ℕ)
  /-- The CPU has returned the process at the end of its quantum. -/
  | devuelto (pid : ℕ)
  /-- The CPU has let a process go without returning it. -/
  | perdido (pid : ℕ)

/-- The process in EXEC. -/
def Turno.exec : Turno → Option ℕ
  | nadie => none
  | elegido pid => some pid
  | enviado pid => some pid
  | ejecutando pid => some pid
  | pidiendo pid => some pid
  | desalojado _ => none
  | respondido pid => some pid
  | devuelto pid => some pid
  | perdido pid => some pid

/-- How many calls of `replanificar` can choose a process. -/
def Turno.fichas : Turno → ℕ
  | nadie => 1
  | _ => 0

/-- The permits of `sem_ejecutar`. -/
def Turno.permisos : Turno → ℕ
  | elegido _ => 1
  | _ => 0

/-- The calls of `replanificar` that can choose a process, or have chosen its queue. -/
def Estado.fichas (s : Estado) : ℕ := s.kernel.fichas + s.eligiendo.isSome.toNat

/-- The answers on their way to the interrupt port. -/
def Estado.noContinuas (s : Estado) : ℕ := s.aInterrupt.count .noContinuaEjecutando

/-- `lista_interrupt` after messages to the interrupt port. -/
def trasRecibir (interrupcion : Option (ℕ × Cadena)) (mensajes : List MensajeInterrupt) :
    Option (ℕ × Cadena) :=
  mensajes.foldl (fun i m => match m with
    | .paquete pid motivo => some (pid, motivo)
    | .noContinuaEjecutando => i) interrupcion

/-- The interrupt at which the CPU will evict its process is not the end of a quantum. -/
def Estado.ultimaSinQuantum (s : Estado) : Prop :=
  ∃ x, trasRecibir s.interrupcion s.aInterrupt = some x ∧ noEsQuantum x.2 = true

/-- The CPU is free, or it will be after the eviction of a process. -/
def Estado.Saliendo (s : Estado) : Prop :=
  (s.cpu = .libre ∧ s.noContinuas = 0) ∨
  (∃ p, s.cpu = .esperando p ∧ s.noContinuas = 1) ∨
  ∃ p, s.cpu = .desalojando p ∧ s.noContinuas = 0

/-- If the CPU is still busy with an eviction, it is one by an instruction, and nothing follows the
answer to that instruction. -/
def Estado.SinQuantum (s : Estado) : Prop :=
  s.cpu ≠ .libre → s.kernel.desalojaPorInstruccion = true ∧ s.ultimaSinQuantum ∧
    (∀ p, s.cpu = .esperando p → s.aInterrupt.getLast? = some .noContinuaEjecutando) ∧
    ∀ p, s.cpu = .desalojando p → s.aInterrupt = []

/-- What the channels and the CPU hold in each turn. -/
def Estado.Canales (s : Estado) : Turno → Prop
  | .nadie => s.aKernel = [] ∧ s.aDispatch = [] ∧ s.Saliendo ∧ s.SinQuantum
  | .elegido _ => s.aKernel = [] ∧ s.aDispatch = [] ∧ s.Saliendo ∧ s.SinQuantum
  | .enviado pid => s.aKernel = [] ∧ s.aDispatch = [.pcb pid] ∧ s.Saliendo ∧
    s.kernel.desalojaPorInstruccion = false
  | .ejecutando pid => s.aKernel = [] ∧ s.aDispatch = [] ∧ s.cpu = .ejecutando pid ∧
    s.noContinuas = 0 ∧ s.kernel.desalojaPorInstruccion = false
  | .pidiendo pid => (∃ ps, s.aKernel = ps.map .paquete ++ [.finInstruccion] ∧ ps.length ≤ 1 ∧
      Propios pid ps) ∧ s.aDispatch = [] ∧ s.cpu = .esperando pid ∧
    s.noContinuas = 0 ∧ s.kernel.desalojaPorInstruccion = false
  | .desalojado pid => s.aKernel = [.finInstruccion] ∧ s.aDispatch = [] ∧ s.cpu = .esperando pid ∧
    s.noContinuas = 0 ∧ s.kernel.desalojaPorInstruccion = true ∧ s.ultimaSinQuantum
  | .respondido pid => s.aKernel = [] ∧
    ((s.cpu = .esperando pid ∧ s.aDispatch = [.continuaEjecutando] ∧ s.noContinuas = 0) ∨
      (s.cpu = .esperando pid ∧ s.aDispatch = [] ∧ s.noContinuas = 1) ∨
      (s.cpu = .desalojando pid ∧ s.aDispatch = [] ∧ s.noContinuas = 0)) ∧
    s.kernel.desalojaPorInstruccion = false
  | .devuelto pid => s.aKernel = [.paquete ⟨pid, "QUANTUM".toList, []⟩] ∧ s.aDispatch = [] ∧
    s.cpu = .libre ∧ s.noContinuas = 0
  | .perdido _ => s.aKernel = [] ∧ s.aDispatch = [] ∧ s.cpu = .libre ∧ s.noContinuas = 0

/-- The turn is `t`, and the process in EXEC is that of the turn. -/
structure EnTurno (cfg : KernelConfiguracion) (t : Turno) (s : Estado) : Prop where
  ubicados : Ubicados cfg ∅ s.kernel
  exec : ∀ p, s.kernel.estado p = some .exec ↔ t.exec = some p
  fichas : s.fichas ≤ t.fichas
  permisos : s.kernel.semEjecutar = t.permisos
  canales : s.Canales t

/-- What one step does to the processes that have ended: others may follow, and `cola_exec` gets
only the process in EXEC. -/
structure Avanza (s s' : Estado) : Prop where
  salidas : Salidas s.kernel s'.kernel
  colaExec : ∀ p ∈ s'.kernel.colaExec, p ∈ s.kernel.colaExec ∨ s'.kernel.estado p = some .exec

/-- The conditions under which a step keeps the turns in order. -/
def Ordenado (cpu : CpuConfiguracion) (tamPagina : ℕ) (s : Estado) : Evento → Prop
  | .hacerInstruccion c instruccion =>
    ∀ pid, s.cpu = .ejecutando pid → pideTrasDenegado cpu tamPagina pid c instruccion = false
  | .manejarPedidoInterrupcion =>
    ∀ pid q motivo, s.cpu = .desalojando pid → s.interrupcion = some (q, motivo) →
      q = pid ∧ (stringEqualsIgnoreCase motivo "QUANTUM".toList = true → s.aDispatch = [])
  | _ => True

variable {cfg : KernelConfiguracion} {cpu : CpuConfiguracion} {tamPagina : ℕ} {s s' : Estado}
  {t : Turno} {k' : Kernel.Estado} {p : ℕ}

/-! ### Steps that leave the turn where it is -/

theorem Avanza.of_ajeno (h : Ajeno s.kernel s'.kernel) : Avanza s s' :=
  ⟨h.salidas, fun q hq => Or.inl (h.colaExec q hq)⟩

/-- The channels and the CPU hold what they did. -/
theorem Estado.Canales.congr (h : s.Canales t) (hcpu : s'.cpu = s.cpu)
    (hint : s'.interrupcion = s.interrupcion) (haKernel : s'.aKernel = s.aKernel)
    (haDispatch : s'.aDispatch = s.aDispatch) (haInterrupt : s'.aInterrupt = s.aInterrupt)
    (hdes : s'.kernel.desalojaPorInstruccion = s.kernel.desalojaPorInstruccion) :
    s'.Canales t := by
  cases t <;>
    simpa only [Estado.Canales, Estado.SinQuantum, Estado.Saliendo, Estado.noContinuas,
      Estado.ultimaSinQuantum, hcpu, hint, haKernel, haDispatch, haInterrupt, hdes] using h

/-- The kernel does something that is not of the turn. -/
theorem EnTurno.ajeno (h : EnTurno cfg t s) (ha : Ajeno s.kernel k') (hu : Ubicados cfg ∅ k') :
    EnTurno cfg t { s with kernel := k' } where
  ubicados := hu
  exec q := (ha.exec q).trans (h.exec q)
  fichas := by
    have hfichas := h.fichas
    rw [Estado.fichas, ← ha.fichas] at hfichas
    exact hfichas
  permisos := ha.semEjecutar.trans h.permisos
  canales := h.canales.congr rfl rfl rfl rfl rfl ha.desaloja

theorem paso_ajeno {k : Kernel.Estado} {ev : Kernel.Evento} (h : Ubicados cfg ∅ k)
    (hev : esPropio ev = true) (hp : Kernel.paso cfg k ev = some k') : Ajeno k k' := by
  cases ev with
  | iniciarProceso path =>
    cases hp
    exact h.iniciarProceso_ajeno path
  | iniciarPlanificacion =>
    cases hp
    exact ⟨fun _ => Iff.rfl, rfl, rfl, rfl, fun _ h => h, rfl, rfl, rfl⟩
  | detenerPlanificacion =>
    simp only [Kernel.paso] at hp
    split_ifs at hp
    cases hp
    exact ⟨fun _ => Iff.rfl, rfl, rfl, rfl, fun _ h => h, rfl, rfl, rfl⟩
  | administrarProcesosNew => exact h.administrarProcesosNew_ajeno hp
  | conectarInterfaz idInterfaz permitidas conexion =>
    cases hp
    exact conectarInterfaz_ajeno k idInterfaz permitidas conexion
  | finDeIo idInterfaz mensaje => exact h.finDeIo_ajeno hp
  | _ => cases hev

/-! ### Choosing and sending a process -/

theorem EnTurno.empezarReplanificacion {motivo : Cadena} (h : EnTurno cfg t s)
    (hp : empezarReplanificacion cfg s motivo = some s') : EnTurno cfg t s' ∧ Avanza s s' := by
  unfold Sistema.empezarReplanificacion at hp
  split_ifs at hp with hmem
  obtain ⟨⟨k, l⟩, he, rfl⟩ := Option.map_eq_some_iff.1 hp
  have hfichas := fichas_empezarReplanificacion hmem.1 he
  obtain ⟨quantum, rfl, -⟩ := empezarReplanificacion_eq_some he
  refine ⟨⟨h.ubicados.congr rfl rfl rfl rfl rfl, h.exec, ?_, h.permisos,
    h.canales.congr rfl rfl rfl rfl rfl rfl⟩, ⟨[], ?_, ?_⟩, fun q hq => Or.inl hq⟩
  · have hle := h.fichas
    rw [Estado.fichas, hmem.2] at hle
    show _ + 1 ≤ t.fichas
    rw [hfichas]
    exact hle
  · exact (List.append_nil _).symm
  · exact (List.append_nil _).symm

/-- What the end of a call of `replanificar` does, when it comes back. -/
theorem terminarReplanificacion_eq_some (hp : terminarReplanificacion s = some s') :
    ∃ l motivo k fin reloj, s.eligiendo = some (l, motivo) ∧
      Kernel.terminarReplanificacion s.kernel l = some k ∧
      s' = { s with
        kernel := { k with finPorQuantum := fin }
        eligiendo := none
        reloj := reloj } := by
  obtain ⟨⟨l, motivo⟩, hel, hp⟩ := Option.bind_eq_some_iff.1 hp
  obtain ⟨k, hk, hs'⟩ := Option.map_eq_some_iff.1 hp
  split_ifs at hs'
  · exact ⟨l, motivo, k, _, _, hel, hk, hs'.symm⟩
  · exact ⟨l, motivo, k, k.finPorQuantum, s.reloj, hel, hk, hs'.symm⟩

theorem EnTurno.terminarReplanificacion (h : EnTurno cfg t s)
    (hp : terminarReplanificacion s = some s') :
    ∃ t', EnTurno cfg t' s' ∧ Avanza s s' := by
  obtain ⟨l, motivo, k, fin, reloj, hel, hk, rfl⟩ := terminarReplanificacion_eq_some hp
  have hle := h.fichas
  rw [Estado.fichas, hel, Option.isSome_some, Bool.toNat_true] at hle
  -- a queue is chosen in one turn only
  cases t with
  | nadie =>
    have hn : ∀ q, s.kernel.estado q ≠ some .exec := by
      intro q hq
      cases (h.exec q).1 hq
    obtain ⟨q, hexec, hcolaExec, hexit, hfin, hfichas, hsem, hdes⟩ :=
      h.ubicados.terminarReplanificacion_frame hn hk
    have hu := h.ubicados.terminarReplanificacion hn hk
    refine ⟨.elegido q, ⟨hu.congr rfl rfl rfl rfl rfl, fun r => ?_, ?_, ?_,
      h.canales.congr rfl rfl rfl rfl rfl hdes⟩, ⟨[], ?_, ?_⟩, fun r hr => Or.inr ?_⟩
    · exact (hexec r).trans Option.some_inj.symm
    · show k.fichas + 0 ≤ 0
      rw [hfichas]
      exact Nat.le_of_lt_succ hle
    · show k.semEjecutar = 1
      rw [hsem, h.permisos]
      rfl
    · exact hexit.trans (List.append_nil _).symm
    · exact hfin.trans (List.append_nil _).symm
    · have hr : r ∈ k.colaExec := hr
      rw [hcolaExec, List.mem_singleton] at hr
      exact (hexec r).2 hr.symm
  | _ => exact absurd hle (Nat.not_succ_le_zero _)

theorem EnTurno.enviarACpu (h : EnTurno cfg t s) (hp : enviarACpu cfg s = some s') :
    ∃ t', EnTurno cfg t' s' ∧ Avanza s s' := by
  unfold Sistema.enviarACpu at hp
  rcases ite_eq_iff.1 hp with ⟨-, hp⟩ | ⟨-, hp⟩
  swap
  · cases hp
  obtain ⟨⟨k, pid⟩, hk, rfl⟩ := Option.map_eq_some_iff.1 hp
  unfold Kernel.enviarACpu at hk
  split_ifs at hk with hsem
  obtain ⟨q, hq, heq⟩ := Option.map_eq_some_iff.1 hk
  cases heq
  have hpermisos := h.permisos
  cases t with
  | elegido r =>
    have hexec : s.kernel.estado r = some .exec := (h.exec r).2 rfl
    have hhead := h.ubicados.exec r (Finset.notMem_empty r) hexec
    obtain rfl : pid = r := by
      rw [hq] at hhead
      exact Option.some.inj hhead
    obtain ⟨hK, hD, hsale, -⟩ := h.canales
    refine ⟨.enviado pid, ⟨h.ubicados.congr rfl rfl rfl rfl rfl, h.exec, h.fichas, ?_,
      ⟨hK, ?_, hsale, rfl⟩⟩, ⟨[], ?_, ?_⟩, fun r hr => Or.inl hr⟩
    · show s.kernel.semEjecutar - 1 = 0
      rw [hpermisos]
      rfl
    · show s.aDispatch ++ [_] = _
      rw [hD]
      rfl
    · exact (List.append_nil _).symm
    · exact (List.append_nil _).symm
  | _ => exact absurd hpermisos hsem

/-! ### The quantum clock -/

/-- Nothing but the clock and the channels has changed. -/
theorem Avanza.of_kernel (hcola : s'.kernel.cola = s.kernel.cola)
    (henv : s'.kernel.enviados = s.kernel.enviados)
    (hexec : s'.kernel.colaExec = s.kernel.colaExec) : Avanza s s' :=
  ⟨⟨[], by rw [hcola, List.append_nil], by simp [Estado.finalizados, henv]⟩,
    fun q hq => Or.inl (hexec ▸ hq)⟩

/-- The CPU gets an interrupt for the quantum only while a process runs. -/
theorem Estado.Canales.interrupcion {motivo : Cadena} (h : s.Canales t)
    (hdes : s.kernel.desalojaPorInstruccion = false) (hcpu : s'.cpu = s.cpu)
    (haKernel : s'.aKernel = s.aKernel) (haDispatch : s'.aDispatch = s.aDispatch)
    (haInterrupt : s'.aInterrupt = s.aInterrupt ++ [.paquete p motivo])
    (hdes' : s'.kernel.desalojaPorInstruccion = s.kernel.desalojaPorInstruccion) :
    s'.Canales t := by
  have hnc : s'.noContinuas = s.noContinuas := by
    simp [Estado.noContinuas, haInterrupt]
  have hsale : s'.Saliendo ↔ s.Saliendo := by
    simp only [Estado.Saliendo, hcpu, hnc]
  have hlibre : s.SinQuantum → s'.SinQuantum := by
    intro hsin hne
    rw [hcpu] at hne
    rw [(hsin hne).1] at hdes
    cases hdes
  cases t with
  | nadie => exact ⟨haKernel ▸ h.1, haDispatch ▸ h.2.1, hsale.2 h.2.2.1, hlibre h.2.2.2⟩
  | elegido q => exact ⟨haKernel ▸ h.1, haDispatch ▸ h.2.1, hsale.2 h.2.2.1, hlibre h.2.2.2⟩
  | enviado q =>
    exact ⟨haKernel ▸ h.1, haDispatch ▸ h.2.1, hsale.2 h.2.2.1, hdes'.trans h.2.2.2⟩
  | desalojado q =>
    rw [h.2.2.2.2.1] at hdes
    cases hdes
  | _ => simpa only [Estado.Canales, hcpu, haKernel, haDispatch, hnc, hdes'] using h

theorem EnTurno.venceQuantum (h : EnTurno cfg t s) (hp : venceQuantum s = some s') :
    EnTurno cfg t s' ∧ Avanza s s' := by
  unfold Sistema.venceQuantum at hp
  split at hp
  · rename_i pid hreloj
    split_ifs at hp with hdes
    · cases hp
      exact ⟨⟨h.ubicados, h.exec, h.fichas, h.permisos, h.canales.congr rfl rfl rfl rfl rfl rfl⟩,
        .of_kernel rfl rfl rfl⟩
    · cases hp
      exact ⟨⟨h.ubicados.congr rfl rfl rfl rfl rfl, h.exec, h.fichas, h.permisos,
        h.canales.interrupcion (Bool.eq_false_iff.2 hdes) rfl rfl rfl rfl rfl⟩,
        .of_kernel rfl rfl rfl⟩
  · cases hp

theorem EnTurno.terminaEspera (h : EnTurno cfg t s) (hp : terminaEspera s = some s') :
    EnTurno cfg t s' ∧ Avanza s s' := by
  unfold Sistema.terminaEspera at hp
  split at hp
  · dsimp only at hp
    split_ifs at hp
    · cases hp
      exact ⟨⟨h.ubicados.congr rfl rfl rfl rfl rfl, h.exec, h.fichas, h.permisos,
        h.canales.congr rfl rfl rfl rfl rfl rfl⟩, .of_kernel rfl rfl rfl⟩
    · cases hp
      refine ⟨⟨h.ubicados.congr rfl rfl rfl rfl rfl, h.exec, ?_, h.permisos,
        h.canales.congr rfl rfl rfl rfl rfl rfl⟩, .of_kernel rfl rfl rfl⟩
      -- the call waits for a permit that only the return of the process gives
      have hle := h.fichas
      have hquantum : List.countP noEsQuantum ["QUANTUM".toList] = 0 := by decide
      simp only [Estado.fichas, Kernel.Estado.fichas, List.countP_append, hquantum] at hle ⊢
      exact hle
  · cases hp

/-! ### The CPU -/

/-- The CPU acts alone: the kernel is as it was. -/
theorem EnTurno.of_cpu {t' : Turno} (h : EnTurno cfg t s) (hk : s'.kernel = s.kernel)
    (hel : s'.eligiendo = s.eligiendo) (hexec : t'.exec = t.exec) (hfichas : t'.fichas = t.fichas)
    (hpermisos : t'.permisos = t.permisos) (hcanales : s'.Canales t') :
    EnTurno cfg t' s' ∧ Avanza s s' := by
  refine ⟨⟨hk ▸ h.ubicados, fun q => ?_, ?_, ?_, hcanales⟩, .of_kernel ?_ ?_ ?_⟩
  · rw [hk, hexec]
    exact h.exec q
  · rw [Estado.fichas, hk, hel, hfichas]
    exact h.fichas
  · rw [hk, hpermisos]
    exact h.permisos
  all_goals rw [hk]

theorem Estado.Saliendo.noContinuas_of_libre (h : s.Saliendo) (hcpu : s.cpu = .libre) :
    s.noContinuas = 0 := by
  rcases h with ⟨-, hn⟩ | ⟨p, hp, -⟩ | ⟨p, -, hn⟩
  · exact hn
  · rw [hcpu] at hp
    cases hp
  · exact hn

theorem Estado.Saliendo.not_ejecutando (h : s.Saliendo) : s.cpu ≠ .ejecutando p := by
  intro hcpu
  rcases h with ⟨hp, -⟩ | ⟨q, hp, -⟩ | ⟨q, hp, -⟩
  · rw [hcpu] at hp
    cases hp
  · rw [hcpu] at hp
    cases hp
  · rw [hcpu] at hp
    cases hp

theorem EnTurno.manejarPuertoDispatch (h : EnTurno cfg t s)
    (hp : manejarPuertoDispatch s = some s') : ∃ t', EnTurno cfg t' s' ∧ Avanza s s' := by
  have hcanales := h.canales
  unfold Sistema.manejarPuertoDispatch at hp
  split at hp
  · -- a process is taken
    rename_i pid resto hD hcpu
    cases hp
    cases t with
    | enviado q =>
      obtain ⟨hK, hD', hsale, hdes⟩ := hcanales
      rw [hD] at hD'
      cases hD'
      exact ⟨.ejecutando pid, h.of_cpu rfl rfl rfl rfl rfl
        ⟨hK, rfl, rfl, hsale.noContinuas_of_libre hcpu, hdes⟩⟩
    | respondido q =>
      obtain ⟨-, ⟨-, hD', -⟩ | ⟨-, hD', -⟩ | ⟨-, hD', -⟩, -⟩ := hcanales <;>
        · rw [hD] at hD'
          cases hD'
    | _ =>
      have hD' := hcanales.2.1
      rw [hD] at hD'
      cases hD'
  · -- the process goes on
    rename_i resto pid hD hcpu
    cases hp
    cases t with
    | respondido q =>
      obtain ⟨hK, ⟨hcpu', hD', hn⟩ | ⟨-, hD', -⟩ | ⟨-, hD', -⟩, hdes⟩ := hcanales
      · rw [hD] at hD'
        cases hD'
        rw [hcpu] at hcpu'
        cases hcpu'
        exact ⟨.ejecutando pid, h.of_cpu rfl rfl rfl rfl rfl ⟨hK, rfl, rfl, hn, hdes⟩⟩
      · rw [hD] at hD'
        cases hD'
      · rw [hD] at hD'
        cases hD'
    | _ =>
      have hD' := hcanales.2.1
      rw [hD] at hD'
      cases hD'
  · cases hp

theorem EnTurno.hacerInstruccion {c : Contexto} {instruccion : Cadena} (h : EnTurno cfg t s)
    (hC : ∀ pid, s.cpu = .ejecutando pid →
      pideTrasDenegado cpu tamPagina pid c instruccion = false)
    (hp : hacerInstruccion cpu tamPagina s c instruccion = some s') :
    ∃ t', EnTurno cfg t' s' ∧ Avanza s s' := by
  have hcanales := h.canales
  unfold Sistema.hacerInstruccion at hp
  split at hp
  · rename_i pid hcpu
    obtain ⟨paquetes, hpaq, rfl⟩ := Option.map_eq_some_iff.1 hp
    obtain ⟨hpropios, hvarios⟩ := hacerInstruccion_paquetes hpaq
    rw [hC pid hcpu] at hvarios
    have hlen : paquetes.length ≤ 1 := Nat.not_lt.1 fun hlt => Bool.false_ne_true (hvarios.1 hlt)
    cases t with
    | ejecutando q =>
      obtain ⟨hK, hD, hcpu', hn, hdes⟩ := hcanales
      rw [hcpu] at hcpu'
      cases hcpu'
      refine ⟨.pidiendo pid, h.of_cpu rfl rfl rfl rfl rfl
        ⟨⟨paquetes, ?_, hlen, hpropios⟩, hD, rfl, hn, hdes⟩⟩
      show s.aKernel ++ _ = _
      rw [hK, List.nil_append]
    | nadie => exact absurd hcpu hcanales.2.2.1.not_ejecutando
    | elegido q => exact absurd hcpu hcanales.2.2.1.not_ejecutando
    | enviado q => exact absurd hcpu hcanales.2.2.1.not_ejecutando
    | respondido q =>
      obtain ⟨-, ⟨hcpu', -⟩ | ⟨hcpu', -⟩ | ⟨hcpu', -⟩, -⟩ := hcanales <;>
        · rw [hcpu] at hcpu'
          cases hcpu'
    | _ =>
      have hcpu' := hcanales.2.2.1
      rw [hcpu] at hcpu'
      cases hcpu'
  · cases hp

/-- A packet of the interrupt port replaces the one before it. -/
theorem Estado.Canales.recibirInterrupcion {motivo : Cadena} {resto : List MensajeInterrupt}
    (h : s.Canales t) (hI : s.aInterrupt = .paquete p motivo :: resto) :
    Estado.Canales { s with interrupcion := some (p, motivo), aInterrupt := resto } t := by
  have hn : Estado.noContinuas
      { s with interrupcion := some (p, motivo), aInterrupt := resto } = s.noContinuas := by
    simp [Estado.noContinuas, hI]
  have hultima : Estado.ultimaSinQuantum
      { s with interrupcion := some (p, motivo), aInterrupt := resto } ↔ s.ultimaSinQuantum := by
    simp [Estado.ultimaSinQuantum, hI, trasRecibir]
  have hsale : Estado.Saliendo
      { s with interrupcion := some (p, motivo), aInterrupt := resto } ↔ s.Saliendo := by
    simp only [Estado.Saliendo, hn]
  have hsin : s.SinQuantum → Estado.SinQuantum
      { s with interrupcion := some (p, motivo), aInterrupt := resto } := by
    intro hsin hne
    obtain ⟨hdes, hult, hfin, hvacio⟩ := hsin hne
    refine ⟨hdes, hultima.2 hult, fun q hq => ?_, fun q hq => ?_⟩
    · have hlast := hfin q hq
      rw [hI, List.getLast?_cons] at hlast
      show resto.getLast? = _
      cases hr : resto.getLast? with
      | none =>
        rw [hr] at hlast
        cases hlast
      | some m =>
        rw [hr] at hlast
        exact hlast
    · have hnil := hvacio q hq
      rw [hI] at hnil
      cases hnil
  cases t with
  | nadie => exact ⟨h.1, h.2.1, hsale.2 h.2.2.1, hsin h.2.2.2⟩
  | elegido q => exact ⟨h.1, h.2.1, hsale.2 h.2.2.1, hsin h.2.2.2⟩
  | enviado q => exact ⟨h.1, h.2.1, hsale.2 h.2.2.1, h.2.2.2⟩
  | _ => simpa only [Estado.Canales, hn, hultima] using h

/-- An answer of the interrupt port, with the CPU waiting. -/
theorem Estado.Saliendo.recibirRespuesta {resto : List MensajeInterrupt} (h : s.Saliendo)
    (hI : s.aInterrupt = .noContinuaEjecutando :: resto) (hcpu : s.cpu = .esperando p) :
    resto.count .noContinuaEjecutando = 0 ∧
      Estado.Saliendo { s with cpu := .desalojando p, aInterrupt := resto } := by
  have hn : s.noContinuas = resto.count .noContinuaEjecutando + 1 := by
    simp [Estado.noContinuas, hI]
  rcases h with ⟨hlibre, -⟩ | ⟨q, -, huno⟩ | ⟨q, hdes, -⟩
  · rw [hcpu] at hlibre
    cases hlibre
  · have hcero : resto.count .noContinuaEjecutando = 0 := by omega
    exact ⟨hcero, Or.inr (Or.inr ⟨p, rfl, hcero⟩)⟩
  · rw [hcpu] at hdes
    cases hdes

/-- Nothing follows the answer, so that it leaves the port empty. -/
theorem Estado.SinQuantum.recibirRespuesta {resto : List MensajeInterrupt} (h : s.SinQuantum)
    (hI : s.aInterrupt = .noContinuaEjecutando :: resto) (hcpu : s.cpu = .esperando p)
    (hn : resto.count .noContinuaEjecutando = 0) :
    Estado.SinQuantum { s with cpu := .desalojando p, aInterrupt := resto } := by
  obtain ⟨hdes, ⟨x, hx, hxq⟩, hfin, -⟩ := h (by simp [hcpu])
  have hnil : resto = [] := by
    have hlast := hfin p hcpu
    rw [hI, List.getLast?_cons] at hlast
    cases hr : resto.getLast? with
    | none => exact List.getLast?_eq_none_iff.1 hr
    | some m =>
      rw [hr] at hlast
      have hm : m = .noContinuaEjecutando := Option.some.inj hlast
      exact absurd (hm ▸ List.mem_of_getLast? hr) (List.count_eq_zero.1 hn)
  refine fun _ => ⟨hdes, ⟨x, ?_, hxq⟩, fun q hq => ?_, fun _ _ => hnil⟩
  · rw [hI] at hx
    exact hx
  · cases hq

theorem EnTurno.manejarPuertoInterrupt (h : EnTurno cfg t s)
    (hp : manejarPuertoInterrupt s = some s') : ∃ t', EnTurno cfg t' s' ∧ Avanza s s' := by
  have hcanales := h.canales
  unfold Sistema.manejarPuertoInterrupt at hp
  split at hp
  · rename_i pid motivo resto _ hI
    cases hp
    exact ⟨t, h.of_cpu rfl rfl rfl rfl rfl (hcanales.recibirInterrupcion hI)⟩
  · rename_i resto pid hI hcpu
    cases hp
    have hn : s.noContinuas = resto.count .noContinuaEjecutando + 1 := by
      simp [Estado.noContinuas, hI]
    cases t with
    | nadie =>
      obtain ⟨hK, hD, hsale, hsin⟩ := hcanales
      obtain ⟨hcero, hsale'⟩ := hsale.recibirRespuesta hI hcpu
      exact ⟨.nadie, h.of_cpu rfl rfl rfl rfl rfl
        ⟨hK, hD, hsale', hsin.recibirRespuesta hI hcpu hcero⟩⟩
    | elegido q =>
      obtain ⟨hK, hD, hsale, hsin⟩ := hcanales
      obtain ⟨hcero, hsale'⟩ := hsale.recibirRespuesta hI hcpu
      exact ⟨.elegido q, h.of_cpu rfl rfl rfl rfl rfl
        ⟨hK, hD, hsale', hsin.recibirRespuesta hI hcpu hcero⟩⟩
    | enviado q =>
      obtain ⟨hK, hD, hsale, hdes⟩ := hcanales
      exact ⟨.enviado q, h.of_cpu rfl rfl rfl rfl rfl
        ⟨hK, hD, (hsale.recibirRespuesta hI hcpu).2, hdes⟩⟩
    | respondido q =>
      obtain ⟨hK, ⟨-, -, hn'⟩ | ⟨hcpu', hD, hn'⟩ | ⟨hcpu', -, -⟩, hdes⟩ := hcanales
      · omega
      · rw [hcpu] at hcpu'
        cases hcpu'
        refine ⟨.respondido pid, h.of_cpu rfl rfl rfl rfl rfl
          ⟨hK, Or.inr (Or.inr ⟨rfl, hD, ?_⟩), hdes⟩⟩
        show resto.count .noContinuaEjecutando = 0
        omega
      · rw [hcpu] at hcpu'
        cases hcpu'
    | ejecutando q =>
      obtain ⟨-, -, hcpu', -⟩ := hcanales
      rw [hcpu] at hcpu'
      cases hcpu'
    | pidiendo q =>
      obtain ⟨-, -, -, hn', -⟩ := hcanales
      omega
    | desalojado q =>
      obtain ⟨-, -, -, hn', -⟩ := hcanales
      omega
    | devuelto q =>
      obtain ⟨-, -, -, hn'⟩ := hcanales
      omega
    | perdido q =>
      obtain ⟨-, -, -, hn'⟩ := hcanales
      omega
  · cases hp

/-- The CPU lets the process go without returning it to the kernel. -/
theorem manejarPedidoInterrupcion_eq_some (hp : manejarPedidoInterrupcion s = some s')
    (hC : ∀ pid q motivo, s.cpu = .desalojando pid → s.interrupcion = some (q, motivo) →
      q = pid ∧ (stringEqualsIgnoreCase motivo "QUANTUM".toList = true → s.aDispatch = [])) :
    ∃ pid motivo, s.cpu = .desalojando pid ∧ s.interrupcion = some (pid, motivo) ∧
      ((noEsQuantum motivo = true ∧ s' = { s with cpu := .libre, interrupcion := none }) ∨
        (noEsQuantum motivo = false ∧ s.aDispatch = [] ∧ s' = { s with
          cpu := .libre
          interrupcion := none
          aKernel := s.aKernel ++ [.paquete ⟨pid, "QUANTUM".toList, []⟩] })) := by
  unfold Sistema.manejarPedidoInterrupcion at hp
  split at hp
  · rename_i pid q motivo hcpu hint
    obtain ⟨rfl, hD⟩ := hC pid q motivo hcpu hint
    rw [if_pos rfl] at hp
    refine ⟨q, motivo, hcpu, hint, ?_⟩
    cases hq : stringEqualsIgnoreCase motivo "QUANTUM".toList with
    | false =>
      rw [hq, if_neg Bool.false_ne_true, List.append_nil] at hp
      cases hp
      exact Or.inl ⟨by rw [noEsQuantum, hq]; rfl, rfl⟩
    | true =>
      rw [hq, if_pos rfl] at hp
      cases hp
      exact Or.inr ⟨by rw [noEsQuantum, hq]; rfl, hD hq, rfl⟩
  · cases hp

/-- A CPU that is done with its eviction is free. -/
theorem Estado.Saliendo.libre (h : s.Saliendo) (hcpu : s.cpu = .desalojando p) :
    Estado.Saliendo { s with cpu := .libre, interrupcion := none } := by
  rcases h with ⟨hp, -⟩ | ⟨q, hp, -⟩ | ⟨q, -, hn⟩
  · rw [hcpu] at hp
    cases hp
  · rw [hcpu] at hp
    cases hp
  · exact Or.inl ⟨rfl, hn⟩

/-- The kernel chooses another process, so the interrupt was not for the quantum. -/
theorem Estado.SinQuantum.interrupcion {motivo : Cadena} (h : s.SinQuantum)
    (hcpu : s.cpu = .desalojando p) (hint : s.interrupcion = some (p, motivo)) :
    noEsQuantum motivo = true := by
  obtain ⟨-, ⟨x, hx, hxq⟩, -, hvacio⟩ := h (by simp [hcpu])
  rw [hvacio p hcpu, hint] at hx
  cases hx
  exact hxq

theorem EnTurno.manejarPedidoInterrupcion (h : EnTurno cfg t s)
    (hC : ∀ pid q motivo, s.cpu = .desalojando pid → s.interrupcion = some (q, motivo) →
      q = pid ∧ (stringEqualsIgnoreCase motivo "QUANTUM".toList = true → s.aDispatch = []))
    (hp : manejarPedidoInterrupcion s = some s') :
    ∃ t', EnTurno cfg t' s' ∧ Avanza s s' := by
  have hcanales := h.canales
  obtain ⟨pid, motivo, hcpu, hint, hcases⟩ := manejarPedidoInterrupcion_eq_some hp hC
  have hotro : ∀ {f : FaseCpu}, s.cpu = f → f ≠ .desalojando pid → False :=
    fun hf hne => hne (hf.symm.trans hcpu)
  cases t with
  | nadie =>
    obtain ⟨hK, hD, hsale, hsin⟩ := hcanales
    have hno := hsin.interrupcion hcpu hint
    rcases hcases with ⟨-, rfl⟩ | ⟨hsi, -⟩
    · exact ⟨.nadie, h.of_cpu rfl rfl rfl rfl rfl
        ⟨hK, hD, hsale.libre hcpu, fun hne => absurd rfl hne⟩⟩
    · rw [hno] at hsi
      cases hsi
  | elegido q =>
    obtain ⟨hK, hD, hsale, hsin⟩ := hcanales
    have hno := hsin.interrupcion hcpu hint
    rcases hcases with ⟨-, rfl⟩ | ⟨hsi, -⟩
    · exact ⟨.elegido q, h.of_cpu rfl rfl rfl rfl rfl
        ⟨hK, hD, hsale.libre hcpu, fun hne => absurd rfl hne⟩⟩
    · rw [hno] at hsi
      cases hsi
  | enviado q =>
    obtain ⟨hK, hD, hsale, hdes⟩ := hcanales
    rcases hcases with ⟨-, rfl⟩ | ⟨-, hD', -⟩
    · exact ⟨.enviado q, h.of_cpu rfl rfl rfl rfl rfl ⟨hK, hD, hsale.libre hcpu, hdes⟩⟩
    · rw [hD] at hD'
      cases hD'
  | respondido q =>
    obtain ⟨hK, ⟨hcpu', -⟩ | ⟨hcpu', -⟩ | ⟨hcpu', hD, hn⟩, hdes⟩ := hcanales
    · exact (hotro hcpu' (by simp)).elim
    · exact (hotro hcpu' (by simp)).elim
    · rw [hcpu] at hcpu'
      cases hcpu'
      rcases hcases with ⟨-, rfl⟩ | ⟨-, -, rfl⟩
      · exact ⟨.perdido pid, h.of_cpu rfl rfl rfl rfl rfl ⟨hK, hD, rfl, hn⟩⟩
      · refine ⟨.devuelto pid, h.of_cpu rfl rfl rfl rfl rfl ⟨?_, hD, rfl, hn⟩⟩
        show s.aKernel ++ _ = _
        rw [hK, List.nil_append]
  | ejecutando q => exact (hotro hcanales.2.2.1 (by simp)).elim
  | pidiendo q => exact (hotro hcanales.2.2.1 (by simp)).elim
  | desalojado q => exact (hotro hcanales.2.2.1 (by simp)).elim
  | devuelto q => exact (hotro hcanales.2.2.1 (by simp)).elim
  | perdido q => exact (hotro hcanales.2.2.1 (by simp)).elim

/-! ### The kernel handles a message of the CPU -/

theorem Avanza.of_desalojado (h : Desalojado p s.kernel s'.kernel) : Avanza s s' :=
  ⟨h.salidas, fun q hq => Or.inl (h.colaExec q hq)⟩

/-- A packet with a request of the process in EXEC. -/
theorem EnTurno.recibirPedido {q : Paquete} {k : Kernel.Estado}
    (h : EnTurno cfg (.pidiendo p) s) (hq : q.pid = p ∧ noEsQuantum q.motivo = true)
    (hk : recibirPaqueteCpu cfg s.kernel q.pid q.motivo q.lista = some k) :
    ∃ t', EnTurno cfg t' { s with
        kernel := k
        aKernel := [.finInstruccion]
        aInterrupt := s.aInterrupt ++ (k.interrupciones.drop s.kernel.interrupciones.length).map
          fun (pid, motivo) => .paquete pid motivo } ∧
      (Ajeno s.kernel k ∨ Desalojado p s.kernel k) := by
  obtain ⟨rfl, hm⟩ := hq
  have hexec : s.kernel.estado q.pid = some .exec := (h.exec q.pid).2 rfl
  unfold recibirPaqueteCpu at hk
  rcases ite_eq_iff.1 hk with ⟨-, hk⟩ | ⟨-, hk⟩
  swap
  · cases hk
  have h₀ : Ubicados cfg ∅ { s.kernel with motivo := q.motivo } :=
    h.ubicados.congr rfl rfl rfl rfl rfl
  have hajeno : Ajeno s.kernel { s.kernel with motivo := q.motivo } :=
    ⟨fun _ => Iff.rfl, rfl, rfl, rfl, fun _ h => h, rfl, rfl, rfl⟩
  have hu := h₀.atenderSolicitudCpu hexec hk
  obtain ⟨-, hD, hcpu, hn, hdes⟩ := h.canales
  rcases h₀.atenderSolicitudCpu_desalojos hexec hm hk with ha | hd
  · -- the process goes on
    have ha := hajeno.trans ha
    refine ⟨.pidiendo q.pid, ⟨hu, fun r => (ha.exec r).trans (h.exec r), ?_,
      ha.semEjecutar.trans h.permisos, ⟨⟨[], rfl, by simp, Propios.nil _⟩, hD, hcpu, ?_,
        ha.desaloja.trans hdes⟩⟩, Or.inl ha⟩
    · have hle := h.fichas
      rw [Estado.fichas, ← ha.fichas] at hle
      exact hle
    · rw [ha.interrupciones, List.drop_length]
      simpa [Estado.noContinuas] using hn
  · -- the process is evicted
    have hd := Desalojado.of_ajeno hajeno hd
    obtain ⟨motivo, hmotivo, hint⟩ := hd.interrupciones
    rw [hint, List.drop_left]
    refine ⟨.desalojado q.pid, ⟨hu, fun r => ?_, ?_, hd.semEjecutar.trans h.permisos,
      ⟨rfl, hD, hcpu, ?_, hd.desaloja, ⟨(q.pid, motivo), ?_, hmotivo⟩⟩⟩, Or.inr hd⟩
    · rw [hd.exec r, h.exec r]
      refine iff_of_false ?_ (by simp [Turno.exec])
      rintro ⟨heq, hne⟩
      exact hne (Option.some.inj heq).symm
    · have hle := h.fichas
      rw [Estado.fichas, ← hd.fichas] at hle
      exact hle
    · simpa [Estado.noContinuas] using hn
    · simp [trasRecibir]

/-- The packet of a process whose quantum ended. -/
theorem EnTurno.recibirQuantum {k : Kernel.Estado} (h : EnTurno cfg (.devuelto p) s)
    (hk : recibirPaqueteCpu cfg s.kernel p "QUANTUM".toList [] = some k) :
    EnTurno cfg .nadie { s with
        kernel := k
        aKernel := []
        aInterrupt := s.aInterrupt ++ (k.interrupciones.drop s.kernel.interrupciones.length).map
          fun (pid, motivo) => .paquete pid motivo } ∧
      k.cola .exit = s.kernel.cola .exit ∧ k.enviados = s.kernel.enviados ∧
      k.colaExec = s.kernel.colaExec := by
  have hexec : s.kernel.estado p = some .exec := (h.exec p).2 rfl
  unfold recibirPaqueteCpu at hk
  rcases ite_eq_iff.1 hk with ⟨-, hk⟩ | ⟨-, hk⟩
  swap
  · cases hk
  unfold atenderSolicitudCpu at hk
  rw [if_pos (stringEqualsIgnoreCase_self _)] at hk
  obtain ⟨k₀, hk₀⟩ : ∃ k₀ : Kernel.Estado, k₀ = { s.kernel with motivo := "QUANTUM".toList } :=
    ⟨_, rfl⟩
  rw [← hk₀] at hk
  have h₀ : Ubicados cfg (insert p ∅) k₀ := by
    rw [hk₀]
    exact (h.ubicados.apartar hexec).congr rfl rfl rfl rfl rfl
  obtain ⟨hexit, henv, hsem, hdes, hfichas⟩ := iniciar_frame cfg k₀ p "QUANTUM".toList
  have hejec := h₀.iniciar_exec "QUANTUM".toList
  have hu := h₀.iniciar (Finset.notMem_empty p) "QUANTUM".toList
  have hcolaExec : (iniciar cfg k₀ p "QUANTUM".toList).colaExec = k₀.colaExec :=
    iniciar_colaExec k₀ _
  rw [Option.some.inj hk] at hexit henv hsem hfichas hejec hu hcolaExec
  obtain ⟨-, hD, hcpu, hn⟩ := h.canales
  have hquantum : (!noEsQuantum "QUANTUM".toList).toNat = 1 := by decide
  rw [hquantum] at hfichas
  subst hk₀
  refine ⟨⟨hu, fun r => ?_, ?_, hsem.trans h.permisos, ⟨rfl, hD, Or.inl ⟨hcpu, ?_⟩,
    fun hne => absurd hcpu hne⟩⟩, hexit, henv, hcolaExec⟩
  · rw [hejec r]
    refine iff_of_false ?_ (by simp [Turno.exec])
    rintro ⟨heq, hne⟩
    exact hne (Option.some.inj ((h.exec r).1 heq)).symm
  · have hle : s.kernel.fichas + s.eligiendo.isSome.toNat ≤ 0 := h.fichas
    show k.fichas + s.eligiendo.isSome.toNat ≤ 1
    rw [hfichas]
    show s.kernel.fichas + 1 + _ ≤ 1
    omega
  · have hint : k.interrupciones = s.kernel.interrupciones := by
      rw [Kernel.Estado.interrupciones, henv]
      rfl
    rw [hint, List.drop_length]
    simpa [Estado.noContinuas] using hn

/-- The end of the instruction of a process that was evicted. -/
theorem recibirMensajeCpu_of_desaloja {k : Kernel.Estado} (hdes : k.desalojaPorInstruccion = true) :
    recibirMensajeCpu k =
      ({ k with porReplanificar := k.porReplanificar ++ [k.motivo] }, .noContinua) := by
  unfold recibirMensajeCpu
  rw [if_neg (by simp [hdes]), if_pos hdes]

/-- The end of the instruction of a process that is still in EXEC. -/
theorem Ubicados.recibirMensajeCpu_ajeno {k : Kernel.Estado} (h : Ubicados cfg ∅ k)
    (hdes : k.desalojaPorInstruccion = false) :
    Ubicados cfg ∅ (recibirMensajeCpu k).1 ∧ Ajeno k (recibirMensajeCpu k).1 := by
  unfold recibirMensajeCpu
  split_ifs with h1 h2
  · exact ⟨h.congr rfl rfl rfl rfl rfl,
      ⟨fun _ => Iff.rfl, rfl, rfl, rfl, fun _ h => h, rfl, rfl, rfl⟩⟩
  · rw [h2] at hdes
    cases hdes
  · exact ⟨h.congr rfl rfl rfl rfl rfl,
      ⟨fun _ => Iff.rfl, rfl, rfl, rfl, fun _ h => h, rfl, rfl, rfl⟩⟩
  · exact ⟨h, .refl k⟩

/-- The kernel takes a packet: the request of the process, or its quantum. -/
theorem EnTurno.recibirPaqueteCpu {q : Paquete} {resto : List MensajeCpu} (h : EnTurno cfg t s)
    (hK : s.aKernel = .paquete q :: resto) (hp : recibirRespuestaCpu cfg s = some s') :
    ∃ t', EnTurno cfg t' s' ∧ Avanza s s' := by
  have hcanales := h.canales
  unfold Sistema.recibirRespuestaCpu at hp
  simp only [hK] at hp
  obtain ⟨k, hk, rfl⟩ := Option.map_eq_some_iff.1 hp
  cases t with
  | pidiendo p =>
    obtain ⟨⟨ps, hps, hlen, hpropios⟩, -⟩ := hcanales
    rw [hK] at hps
    rcases ps with _ | ⟨x, _ | ⟨y, ps⟩⟩
    · cases hps
    · cases hps
      obtain ⟨hpid, hm⟩ := hpropios q (List.mem_singleton_self q)
      obtain ⟨t', ht', ha | hd⟩ := h.recibirPedido ⟨hpid, by rw [noEsQuantum, hm]; rfl⟩ hk
      · exact ⟨t', ht', .of_ajeno ha⟩
      · exact ⟨t', ht', .of_desalojado hd⟩
    · simp at hlen
  | devuelto p =>
    have hK' := hcanales.1
    rw [hK] at hK'
    cases hK'
    obtain ⟨ht', hexit, henv, hcolaExec⟩ := h.recibirQuantum hk
    refine ⟨.nadie, ht', ⟨[], ?_, ?_⟩, fun r hr => Or.inl (hcolaExec ▸ hr)⟩
    · exact hexit.trans (List.append_nil _).symm
    · rw [List.append_nil, Kernel.Estado.finalizados, henv]
      rfl
  | _ =>
    have hK' := hcanales.1
    rw [hK] at hK'
    cases hK'

/-- The kernel takes the end of an instruction, and answers. -/
theorem EnTurno.recibirFinInstruccion {resto : List MensajeCpu} (h : EnTurno cfg t s)
    (hK : s.aKernel = .finInstruccion :: resto) (hp : recibirRespuestaCpu cfg s = some s') :
    ∃ t', EnTurno cfg t' s' ∧ Avanza s s' := by
  have hcanales := h.canales
  unfold Sistema.recibirRespuestaCpu at hp
  simp only [hK] at hp
  cases t with
  | pidiendo p =>
    obtain ⟨⟨ps, hps, hlen, -⟩, hD, hcpu, hn, hdes⟩ := hcanales
    rw [hK] at hps
    rcases ps with _ | ⟨x, _ | ⟨y, ps⟩⟩
    · cases hps
      obtain ⟨hu, ha⟩ := Ubicados.recibirMensajeCpu_ajeno h.ubicados hdes
      have h' := h.ajeno ha hu
      split at hp
      · cases hp
        refine ⟨.respondido p, ⟨hu, h'.exec, h'.fichas, h'.permisos,
          ⟨rfl, Or.inl ⟨hcpu, ?_, hn⟩, ha.desaloja.trans hdes⟩⟩, .of_ajeno ha⟩
        show s.aDispatch ++ _ = _
        rw [hD, List.nil_append]
      · cases hp
        refine ⟨.respondido p, ⟨hu, h'.exec, h'.fichas, h'.permisos,
          ⟨rfl, Or.inr (Or.inl ⟨hcpu, hD, ?_⟩), ha.desaloja.trans hdes⟩⟩, .of_ajeno ha⟩
        simpa [Estado.noContinuas] using hn
    · cases hps
    · simp at hlen
  | desalojado p =>
    obtain ⟨hK', hD, hcpu, hn, hdes, x, hx, hxq⟩ := hcanales
    rw [hK] at hK'
    cases hK'
    rw [recibirMensajeCpu_of_desaloja hdes] at hp
    cases hp
    refine ⟨.nadie, ⟨h.ubicados.congr rfl rfl rfl rfl rfl, h.exec, ?_, h.permisos,
      ⟨rfl, hD, Or.inr (Or.inl ⟨p, hcpu, ?_⟩), fun _ => ⟨hdes, ⟨x, ?_, hxq⟩, ?_, ?_⟩⟩⟩,
      .of_kernel rfl rfl rfl⟩
    · have hle : s.kernel.porReplanificar.countP noEsQuantum +
        s.kernel.semReplanificacionQuantum + s.kernel.esPrimerProceso.toNat +
          s.eligiendo.isSome.toNat ≤ 0 := h.fichas
      have huno : List.countP noEsQuantum [s.kernel.motivo] ≤ 1 := List.countP_le_length
      show (s.kernel.porReplanificar ++ [s.kernel.motivo]).countP noEsQuantum +
        s.kernel.semReplanificacionQuantum + s.kernel.esPrimerProceso.toNat +
          s.eligiendo.isSome.toNat ≤ 1
      rw [List.countP_append]
      omega
    · simpa [Estado.noContinuas] using hn
    · show trasRecibir s.interrupcion (s.aInterrupt ++ [_]) = some x
      rw [trasRecibir, List.foldl_append]
      exact hx
    · exact fun _ _ => List.getLast?_concat
    · intro q hq
      have hq : s.cpu = .desalojando q := hq
      rw [hcpu] at hq
      cases hq
  | _ =>
    have hK' := hcanales.1
    rw [hK] at hK'
    cases hK'

theorem EnTurno.recibirRespuestaCpu (h : EnTurno cfg t s)
    (hp : recibirRespuestaCpu cfg s = some s') : ∃ t', EnTurno cfg t' s' ∧ Avanza s s' := by
  cases hK : s.aKernel with
  | nil =>
    rw [Sistema.recibirRespuestaCpu, hK] at hp
    cases hp
  | cons mensaje resto =>
    cases mensaje with
    | paquete q => exact h.recibirPaqueteCpu hK hp
    | finInstruccion => exact h.recibirFinInstruccion hK hp

/-! ### Every step -/

/-- At start-up the first admission will choose a process. -/
theorem enTurno_inicial (cfg : KernelConfiguracion) :
    EnTurno cfg .nadie (Estado.inicial cfg) where
  ubicados := ubicados_inicial cfg
  exec p := iff_of_false (by cases p <;> exact fun h => by cases h) (by simp [Turno.exec])
  fichas := le_refl 1
  permisos := rfl
  canales := ⟨rfl, rfl, Or.inl ⟨rfl, rfl⟩, fun h => absurd rfl h⟩

/-- An orderly step passes the turn on. -/
theorem paso_enTurno {ev : Evento} (h : EnTurno cfg t s) (hC : Ordenado cpu tamPagina s ev)
    (hp : paso cfg cpu tamPagina s ev = some s') : ∃ t', EnTurno cfg t' s' ∧ Avanza s s' := by
  cases ev with
  | kernel ev =>
    obtain ⟨⟨hev, -⟩, hp⟩ | ⟨-, hp⟩ := ite_eq_iff.1 hp
    · obtain ⟨k, hk, rfl⟩ := Option.map_eq_some_iff.1 hp
      have ha := paso_ajeno h.ubicados hev hk
      exact ⟨t, h.ajeno ha (paso_ubicados h.ubicados hk), .of_ajeno ha⟩
    · cases hp
  | empezarReplanificacion motivo => exact ⟨t, h.empezarReplanificacion hp⟩
  | terminarReplanificacion => exact h.terminarReplanificacion hp
  | enviarACpu => exact h.enviarACpu hp
  | venceQuantum => exact ⟨t, h.venceQuantum hp⟩
  | terminaEspera => exact ⟨t, h.terminaEspera hp⟩
  | recibirRespuestaCpu => exact h.recibirRespuestaCpu hp
  | manejarPuertoDispatch => exact h.manejarPuertoDispatch hp
  | manejarPuertoInterrupt => exact h.manejarPuertoInterrupt hp
  | hacerInstruccion c instruccion => exact h.hacerInstruccion hC hp
  | manejarPedidoInterrupcion => exact h.manejarPedidoInterrupcion hC hp

end SimuladorSO.Sistema
