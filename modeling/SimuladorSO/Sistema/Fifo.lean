import SimuladorSO.Kernel.Atencion
import SimuladorSO.Kernel.Fifo
import SimuladorSO.Kernel.Semaforos
import SimuladorSO.Sistema.Turnos

/-!
# Who goes on under FIFO

Without a quantum clock exactly one thing can go on at any moment: a call of `replanificar`, a
permit of `sem_ejecutar`, a message of the dispatch port, the end of an instruction on its way to
the kernel, or the CPU.  Each step hands this on (`testigos`), and an interrupt is on its way to the CPU
exactly while it gives a process up (`Avisos`).

* `PasoFifo`: what a step does, with what is known of the state before it;
* `EnFifo`, `paso_enFifo`: the invariant, which every step keeps.
-/

namespace SimuladorSO.Sistema

open Commons Kernel Cpu Transitions

/-- The message is the end of an instruction. -/
def MensajeCpu.esFin : MensajeCpu → Bool
  | paquete _ => false
  | finInstruccion => true

/-- The CPU executes instructions. -/
def FaseCpu.ejecuta : FaseCpu → Bool
  | libre => false
  | ejecutando _ => true
  | esperando _ => false
  | desalojando _ => false

/-- How many things can go on. -/
def Estado.testigos (s : Estado) : ℕ :=
  s.fichas + s.kernel.semEjecutar + s.aDispatch.length + s.aKernel.countP MensajeCpu.esFin +
    s.cpu.ejecuta.toNat

/-- No interrupt is on its way. -/
def Estado.Callada (s : Estado) : Prop := s.interrupcion = none ∧ s.aInterrupt = []

/-- The interrupt that evicts the process is on its way or has come, and `resto` follows it. -/
def Estado.Avisada (s : Estado) (p : ℕ) (resto : List MensajeInterrupt) : Prop :=
  ∃ motivo, noEsQuantum motivo = true ∧
    (s.interrupcion = none ∧ s.aInterrupt = .paquete p motivo :: resto ∨
      s.interrupcion = some (p, motivo) ∧ s.aInterrupt = resto)

/-- The interrupts while the CPU waits for the answer to an instruction of the process: the kernel
has not evicted it, or has done so, or has answered too. -/
def Estado.AvisosEnEspera (s : Estado) (p : ℕ) : Prop :=
  (s.Callada ∧ s.kernel.desalojaPorInstruccion = false) ∨
  (s.Avisada p [] ∧ s.kernel.desalojaPorInstruccion = true) ∨
  s.Avisada p [.noContinuaEjecutando]

/-- The interrupts on their way, by what the CPU does. -/
def Estado.Avisos (s : Estado) : Prop :=
  match s.cpu with
  | .libre => s.Callada
  | .ejecutando _ => s.Callada
  | .esperando p => s.AvisosEnEspera p
  | .desalojando p => s.Avisada p []

/-- What an event does, where no quantum ends. -/
inductive PasoFifo (cfg : KernelConfiguracion) (s : Estado) : Evento → Estado → Prop
  | propio {ev : Kernel.Evento} {k : Kernel.Estado} (hev : esPropio ev = true)
      (hk : Kernel.paso cfg s.kernel ev = some k) (hajeno : Ajeno s.kernel k) :
      PasoFifo cfg s (.kernel ev) { s with kernel := k }
  | empieza {motivo : Cadena} {k : Kernel.Estado} {l : Lugar}
      (hmem : motivo ∈ s.kernel.porReplanificar) (hel : s.eligiendo = none)
      (hk : Kernel.empezarReplanificacion cfg s.kernel motivo = some (k, l)) :
      PasoFifo cfg s (.empezarReplanificacion motivo) { s with
        kernel := { k with porReplanificar := k.porReplanificar.erase motivo }
        eligiendo := some (l, motivo) }
  | termina {motivo : Cadena} {k : Kernel.Estado} {l : Lugar} (hel : s.eligiendo = some (l, motivo))
      (hk : Kernel.terminarReplanificacion s.kernel l = some k) :
      PasoFifo cfg s .terminarReplanificacion { s with kernel := k, eligiendo := none }
  | envia {p : ℕ} (hsem : s.kernel.semEjecutar ≠ 0) (hexec : s.kernel.colaExec.head? = some p)
      (hcpu : ∀ q, s.cpu = .esperando q → s.noContinuas = 1) :
      PasoFifo cfg s .enviarACpu { s with
        kernel := { s.kernel with
          semEjecutar := s.kernel.semEjecutar - 1
          desalojaPorInstruccion := false }
        aDispatch := s.aDispatch ++ [.pcb p] }
  | atiende {q : Paquete} {resto : List MensajeCpu} {k : Kernel.Estado}
      (hK : s.aKernel = .paquete q :: resto) (hcpu : s.cpu = .esperando q.pid)
      (hn : s.noContinuas = 0) (hdes : s.kernel.desalojaPorInstruccion = false)
      (hm : noEsQuantum q.motivo = true) (hexec : s.kernel.estado q.pid = some .exec)
      (hk : recibirPaqueteCpu cfg s.kernel q.pid q.motivo q.lista = some k)
      (hres : Ajeno s.kernel k ∨ Desalojado q.pid s.kernel k) :
      PasoFifo cfg s .recibirRespuestaCpu { s with
        kernel := k
        aKernel := resto
        aInterrupt := s.aInterrupt ++ (k.interrupciones.drop s.kernel.interrupciones.length).map
          fun (pid, motivo) => .paquete pid motivo }
  | continua {resto : List MensajeCpu} (hK : s.aKernel = .finInstruccion :: resto) :
      PasoFifo cfg s .recibirRespuestaCpu { s with
        aKernel := resto
        aDispatch := s.aDispatch ++ [.continuaEjecutando] }
  | noContinua {p : ℕ} {resto : List MensajeCpu} (hK : s.aKernel = .finInstruccion :: resto)
      (hcpu : s.cpu = .esperando p) (hn : s.noContinuas = 0)
      (hdes : s.kernel.desalojaPorInstruccion = true) :
      PasoFifo cfg s .recibirRespuestaCpu { s with
        kernel := { s.kernel with
          porReplanificar := s.kernel.porReplanificar ++ [s.kernel.motivo] }
        aKernel := resto
        aInterrupt := s.aInterrupt ++ [.noContinuaEjecutando] }
  | toma {p : ℕ} {resto : List MensajeDispatch} (hD : s.aDispatch = .pcb p :: resto)
      (hcpu : s.cpu = .libre) :
      PasoFifo cfg s .manejarPuertoDispatch { s with cpu := .ejecutando p, aDispatch := resto }
  | sigue {p : ℕ} {resto : List MensajeDispatch} (hD : s.aDispatch = .continuaEjecutando :: resto)
      (hcpu : s.cpu = .esperando p) (hn : s.noContinuas = 0)
      (hdes : s.kernel.desalojaPorInstruccion = false) :
      PasoFifo cfg s .manejarPuertoDispatch { s with cpu := .ejecutando p, aDispatch := resto }
  | recibe {p : ℕ} {motivo : Cadena} {resto : List MensajeInterrupt}
      (hI : s.aInterrupt = .paquete p motivo :: resto) :
      PasoFifo cfg s .manejarPuertoInterrupt { s with
        interrupcion := some (p, motivo)
        aInterrupt := resto }
  | para {p : ℕ} {resto : List MensajeInterrupt}
      (hI : s.aInterrupt = .noContinuaEjecutando :: resto) (hcpu : s.cpu = .esperando p) :
      PasoFifo cfg s .manejarPuertoInterrupt { s with cpu := .desalojando p, aInterrupt := resto }
  | ejecuta {p : ℕ} {c : Contexto} {instruccion : Cadena} {paquetes : List Paquete}
      (hcpu : s.cpu = .ejecutando p) (hdes : s.kernel.desalojaPorInstruccion = false) :
      PasoFifo cfg s (.hacerInstruccion c instruccion) { s with
        cpu := .esperando p
        aKernel := s.aKernel ++ (paquetes.map .paquete ++ [.finInstruccion]) }
  | suelta {p : ℕ} {motivo : Cadena} (hcpu : s.cpu = .desalojando p)
      (hint : s.interrupcion = some (p, motivo)) :
      PasoFifo cfg s .manejarPedidoInterrupcion { s with cpu := .libre, interrupcion := none }

/-- Under FIFO one thing goes on at a time, and the kernel's own accounts are right. -/
structure EnFifo (cfg : KernelConfiguracion) (s : Estado) : Prop where
  turno : ∃ t, EnTurno cfg t s
  testigos : s.testigos = 1
  avisos : s.Avisos
  sinReloj : SinReloj s.kernel
  parado : s.reloj = .parado
  eligiendo : ∀ l motivo, s.eligiendo = some (l, motivo) → l = .ready ∧ noEsQuantum motivo = true
  sincronizados : Sincronizados s.kernel
  contados : Contados cfg s.kernel
  primero : s.kernel.esPrimerProceso = true → ∀ l, l ≠ .new → s.kernel.cola l = []

/-- No instruction asks for something after a denied access. -/
def SinDenegar (cpu : CpuConfiguracion) (tamPagina : ℕ) (s : Estado) : Evento → Prop
  | .hacerInstruccion c instruccion =>
    ∀ pid, s.cpu = .ejecutando pid → pideTrasDenegado cpu tamPagina pid c instruccion = false
  | _ => True

variable {cfg : KernelConfiguracion} {cpu : CpuConfiguracion} {tamPagina : ℕ} {s s' : Estado}
  {ev : Evento} {p : ℕ} {resto : List MensajeInterrupt}

/-! ### The interrupts -/

theorem Estado.Callada.noContinuas (h : s.Callada) : s.noContinuas = 0 := by
  rw [Estado.noContinuas, h.2]
  rfl

/-- A message of the interrupt port other than the packet follows it. -/
theorem Estado.Avisada.noContinuas (h : s.Avisada p resto) :
    s.noContinuas = resto.count .noContinuaEjecutando := by
  obtain ⟨motivo, -, ⟨-, hI⟩ | ⟨-, hI⟩⟩ := h
  · rw [Estado.noContinuas, hI]
    simp
  · rw [Estado.noContinuas, hI]

/-- While an answer is on its way to the interrupt port, the kernel has evicted the process. -/
theorem Estado.AvisosEnEspera.of_uno (h : s.AvisosEnEspera p) (hn : s.noContinuas = 1) :
    s.Avisada p [.noContinuaEjecutando] := by
  rcases h with ⟨hcallada, -⟩ | ⟨havisada, -⟩ | havisada
  · rw [hcallada.noContinuas] at hn
    cases hn
  · rw [havisada.noContinuas] at hn
    cases hn
  · exact havisada

/-- Before the answer, the flag of the kernel says whether it has evicted the process. -/
theorem Estado.AvisosEnEspera.of_cero (h : s.AvisosEnEspera p) (hn : s.noContinuas = 0) :
    (s.Callada ∧ s.kernel.desalojaPorInstruccion = false) ∨
      (s.Avisada p [] ∧ s.kernel.desalojaPorInstruccion = true) := by
  rcases h with h | h | havisada
  · exact Or.inl h
  · exact Or.inr h
  · rw [havisada.noContinuas] at hn
    cases hn

theorem Estado.Avisos.esperando (h : s.Avisos) (hcpu : s.cpu = .esperando p) :
    s.AvisosEnEspera p := by
  rw [Estado.Avisos, hcpu] at h
  exact h

theorem Estado.Avisos.desalojando (h : s.Avisos) (hcpu : s.cpu = .desalojando p) :
    s.Avisada p [] := by
  rw [Estado.Avisos, hcpu] at h
  exact h

/-- The interrupts and the CPU are as they were. -/
theorem Estado.Avisos.congr (h : s.Avisos) (hcpu : s'.cpu = s.cpu)
    (hint : s'.interrupcion = s.interrupcion) (hI : s'.aInterrupt = s.aInterrupt)
    (hdes : s'.kernel.desalojaPorInstruccion = s.kernel.desalojaPorInstruccion) : s'.Avisos := by
  simpa only [Estado.Avisos, Estado.AvisosEnEspera, Estado.Callada, Estado.Avisada, hcpu, hint, hI,
    hdes] using h

/-! ### What a step does -/

/-- The interrupt at which the CPU gives a process up is that process's own. -/
theorem EnFifo.suyo {q : ℕ} {motivo : Cadena} (h : EnFifo cfg s) (hcpu : s.cpu = .desalojando p)
    (hint : s.interrupcion = some (q, motivo)) : q = p ∧ noEsQuantum motivo = true := by
  obtain ⟨m, hm, ⟨hnone, -⟩ | ⟨hsome, -⟩⟩ := h.avisos.desalojando hcpu
  · rw [hint] at hnone
    cases hnone
  · rw [hint] at hsome
    cases hsome
    exact ⟨rfl, hm⟩

theorem EnFifo.ordenado (h : EnFifo cfg s) (hC : SinDenegar cpu tamPagina s ev) :
    Ordenado cpu tamPagina s ev := by
  cases ev with
  | hacerInstruccion c instruccion => exact hC
  | manejarPedidoInterrupcion =>
    intro pid q motivo hcpu hint
    obtain ⟨rfl, hm⟩ := h.suyo hcpu hint
    refine ⟨rfl, fun hq => ?_⟩
    rw [noEsQuantum, hq] at hm
    cases hm
  | _ => trivial

theorem EnFifo.enviarACpu_cases (hfifo : cfg.algoritmoPlanificacion = .FIFO) (h : EnFifo cfg s)
    (hp : enviarACpu cfg s = some s') : PasoFifo cfg s .enviarACpu s' := by
  unfold Sistema.enviarACpu at hp
  rw [if_pos h.parado, hfifo] at hp
  obtain ⟨⟨k, pid⟩, hk, rfl⟩ := Option.map_eq_some_iff.1 hp
  unfold Kernel.enviarACpu at hk
  split_ifs at hk with hsem
  obtain ⟨q, hq, heq⟩ := Option.map_eq_some_iff.1 hk
  cases heq
  have henvia : PasoFifo cfg s .enviarACpu { s with
      kernel := { s.kernel with
        semEjecutar := s.kernel.semEjecutar - 1
        desalojaPorInstruccion := false }
      aDispatch := s.aDispatch ++ [.pcb pid] } := by
    refine .envia hsem hq fun r hcpu => ?_
    obtain ⟨t, ht⟩ := h.turno
    have hpermisos := ht.permisos
    have hcanales := ht.canales
    cases t with
    | elegido x =>
      obtain ⟨-, -, ⟨hlibre, -⟩ | ⟨y, -, hn⟩ | ⟨y, hdes, -⟩, -⟩ := hcanales
      · rw [hcpu] at hlibre
        cases hlibre
      · exact hn
      · rw [hcpu] at hdes
        cases hdes
    | _ => exact absurd hpermisos hsem
  exact h.parado ▸ henvia

/-- The CPU returns nobody at the end of a quantum. -/
theorem EnFifo.not_devuelto (h : EnFifo cfg s) (ht : EnTurno cfg (.devuelto p) s) : False := by
  obtain ⟨hK, hD, hcpu, -⟩ := ht.canales
  have htestigos := h.testigos
  have hfichas : s.fichas ≤ 0 := ht.fichas
  have hpermisos : s.kernel.semEjecutar = 0 := ht.permisos
  rw [Estado.testigos, hpermisos, hD, hK, hcpu, Nat.le_zero.1 hfichas] at htestigos
  cases htestigos

/-- The CPU lets no process go that the kernel has not evicted. -/
theorem EnFifo.not_perdido (h : EnFifo cfg s) (ht : EnTurno cfg (.perdido p) s) : False := by
  obtain ⟨hK, hD, hcpu, -⟩ := ht.canales
  have htestigos := h.testigos
  have hfichas : s.fichas ≤ 0 := ht.fichas
  have hpermisos : s.kernel.semEjecutar = 0 := ht.permisos
  rw [Estado.testigos, hpermisos, hD, hK, hcpu, Nat.le_zero.1 hfichas] at htestigos
  cases htestigos

/-- The packet is that of the process for which the CPU waits. -/
theorem EnFifo.recibirPaquete_cases {q : Paquete} {mensajes : List MensajeCpu} (h : EnFifo cfg s)
    (hK : s.aKernel = .paquete q :: mensajes) (hp : recibirRespuestaCpu cfg s = some s') :
    PasoFifo cfg s .recibirRespuestaCpu s' := by
  unfold Sistema.recibirRespuestaCpu at hp
  simp only [hK] at hp
  obtain ⟨k, hk, rfl⟩ := Option.map_eq_some_iff.1 hp
  obtain ⟨t, ht⟩ := h.turno
  have hcanales := ht.canales
  cases t with
  | pidiendo r =>
    obtain ⟨⟨ps, hps, -, hpropios⟩, -, hcpu, hn, hdes⟩ := hcanales
    rw [hK] at hps
    obtain ⟨rfl, hm⟩ : q.pid = r ∧ stringEqualsIgnoreCase q.motivo "QUANTUM".toList = false := by
      cases ps with
      | nil => cases hps
      | cons x ps =>
        cases hps
        exact hpropios q List.mem_cons_self
    have hm : noEsQuantum q.motivo = true := by
      rw [noEsQuantum, hm]
      rfl
    have hexec : s.kernel.estado q.pid = some .exec := (ht.exec q.pid).2 rfl
    refine .atiende hK hcpu hn hdes hm hexec hk ?_
    have hk' := hk
    unfold recibirPaqueteCpu at hk'
    split_ifs at hk'
    have h₀ : Ubicados cfg ∅ { s.kernel with motivo := q.motivo } :=
      ht.ubicados.congr rfl rfl rfl rfl rfl
    have hajeno : Ajeno s.kernel { s.kernel with motivo := q.motivo } :=
      ⟨fun _ => Iff.rfl, rfl, rfl, rfl, fun _ h => h, rfl, rfl, rfl⟩
    rcases h₀.atenderSolicitudCpu_desalojos hexec hm hk' with ha | hd
    · exact Or.inl (hajeno.trans ha)
    · exact Or.inr (.of_ajeno hajeno hd)
  | devuelto r => exact (h.not_devuelto ht).elim
  | _ =>
    have hK' := hcanales.1
    rw [hK] at hK'
    cases hK'

theorem EnFifo.recibirFin_cases {mensajes : List MensajeCpu} (h : EnFifo cfg s)
    (hK : s.aKernel = .finInstruccion :: mensajes) (hp : recibirRespuestaCpu cfg s = some s') :
    PasoFifo cfg s .recibirRespuestaCpu s' := by
  unfold Sistema.recibirRespuestaCpu at hp
  simp only [hK] at hp
  rw [h.sinReloj.recibirMensajeCpu_eq] at hp
  cases hdes : s.kernel.desalojaPorInstruccion with
  | false =>
    rw [if_neg (by simp [hdes])] at hp
    cases hp
    exact .continua hK
  | true =>
    rw [if_pos hdes] at hp
    cases hp
    obtain ⟨t, ht⟩ := h.turno
    have hcanales := ht.canales
    cases t with
    | pidiendo r =>
      rw [hcanales.2.2.2.2] at hdes
      cases hdes
    | desalojado r => exact .noContinua hK hcanales.2.2.1 hcanales.2.2.2.1 hdes
    | _ =>
      have hK' := hcanales.1
      rw [hK] at hK'
      cases hK'

theorem EnFifo.manejarPuertoDispatch_cases (h : EnFifo cfg s)
    (hp : manejarPuertoDispatch s = some s') : PasoFifo cfg s .manejarPuertoDispatch s' := by
  unfold Sistema.manejarPuertoDispatch at hp
  split at hp
  · rename_i pid mensajes hD hcpu
    cases hp
    exact .toma hD hcpu
  · rename_i mensajes pid hD hcpu
    cases hp
    obtain ⟨t, ht⟩ := h.turno
    have hcanales := ht.canales
    cases t with
    | respondido q =>
      obtain ⟨-, ⟨-, -, hn⟩ | ⟨-, hD', -⟩ | ⟨-, hD', -⟩, hdes⟩ := hcanales
      · exact .sigue hD hcpu hn hdes
      · rw [hD] at hD'
        cases hD'
      · rw [hD] at hD'
        cases hD'
    | _ =>
      have hD' := hcanales.2.1
      rw [hD] at hD'
      cases hD'
  · cases hp

theorem EnFifo.manejarPuertoInterrupt_cases (hp : manejarPuertoInterrupt s = some s') :
    PasoFifo cfg s .manejarPuertoInterrupt s' := by
  unfold Sistema.manejarPuertoInterrupt at hp
  split at hp
  · rename_i pid motivo mensajes _ hI
    cases hp
    exact .recibe hI
  · rename_i mensajes pid hI hcpu
    cases hp
    exact .para hI hcpu
  · cases hp

theorem EnFifo.hacerInstruccion_cases {c : Contexto} {instruccion : Cadena} (h : EnFifo cfg s)
    (hp : hacerInstruccion cpu tamPagina s c instruccion = some s') :
    PasoFifo cfg s (.hacerInstruccion c instruccion) s' := by
  unfold Sistema.hacerInstruccion at hp
  split at hp
  · rename_i pid hcpu
    obtain ⟨paquetes, -, rfl⟩ := Option.map_eq_some_iff.1 hp
    refine .ejecuta hcpu ?_
    obtain ⟨t, ht⟩ := h.turno
    have hcanales := ht.canales
    cases t with
    | ejecutando q => exact hcanales.2.2.2.2
    | nadie => exact absurd hcpu hcanales.2.2.1.not_ejecutando
    | elegido q => exact absurd hcpu hcanales.2.2.1.not_ejecutando
    | enviado q => exact absurd hcpu hcanales.2.2.1.not_ejecutando
    | respondido q =>
      obtain ⟨-, ⟨hcpu', -⟩ | ⟨hcpu', -⟩ | ⟨hcpu', -⟩, -⟩ := hcanales <;>
        · rw [hcpu] at hcpu'
          cases hcpu'
    | _ =>
      have hcpu' := hcanales.2.2.1
      rw [hcpu] at hcpu'
      cases hcpu'
  · cases hp

theorem EnFifo.manejarPedidoInterrupcion_cases (h : EnFifo cfg s)
    (hp : manejarPedidoInterrupcion s = some s') :
    PasoFifo cfg s .manejarPedidoInterrupcion s' := by
  unfold Sistema.manejarPedidoInterrupcion at hp
  split at hp
  · rename_i pid q motivo hcpu hint
    obtain ⟨rfl, hm⟩ := h.suyo hcpu hint
    have hq : stringEqualsIgnoreCase motivo "QUANTUM".toList = false := by
      simpa [noEsQuantum] using hm
    rw [if_pos rfl, hq, if_neg Bool.false_ne_true, List.append_nil] at hp
    cases hp
    exact .suelta hcpu hint
  · cases hp

/-- **What a step does where no quantum ends.** -/
theorem EnFifo.paso_cases (hfifo : cfg.algoritmoPlanificacion = .FIFO)
    (h : EnFifo cfg s) (hp : paso cfg cpu tamPagina s ev = some s') : PasoFifo cfg s ev s' := by
  cases ev with
  | kernel ev =>
    obtain ⟨⟨hev, -⟩, hp⟩ | ⟨-, hp⟩ := ite_eq_iff.1 hp
    · obtain ⟨k, hk, rfl⟩ := Option.map_eq_some_iff.1 hp
      obtain ⟨t, ht⟩ := h.turno
      exact .propio hev hk (paso_ajeno ht.ubicados hev hk)
    · cases hp
  | empezarReplanificacion motivo =>
    have hp : empezarReplanificacion cfg s motivo = some s' := hp
    unfold Sistema.empezarReplanificacion at hp
    split_ifs at hp with hmem
    obtain ⟨⟨k, l⟩, hk, rfl⟩ := Option.map_eq_some_iff.1 hp
    exact .empieza hmem.1 hmem.2 hk
  | terminarReplanificacion =>
    obtain ⟨⟨l, motivo⟩, hel, hp⟩ := Option.bind_eq_some_iff.1 hp
    obtain ⟨k, hk, hs'⟩ := Option.map_eq_some_iff.1 hp
    have hq : stringEqualsIgnoreCase motivo "QUANTUM".toList = false := by
      simpa [noEsQuantum] using (h.eligiendo l motivo hel).2
    rw [hq, if_neg Bool.false_ne_true] at hs'
    cases hs'
    exact .termina hel hk
  | enviarACpu => exact h.enviarACpu_cases hfifo hp
  | venceQuantum =>
    have hp : venceQuantum s = some s' := hp
    rw [venceQuantum, h.parado] at hp
    cases hp
  | terminaEspera =>
    have hp : terminaEspera s = some s' := hp
    rw [terminaEspera, h.parado] at hp
    cases hp
  | recibirRespuestaCpu =>
    cases hK : s.aKernel with
    | nil =>
      have hp : recibirRespuestaCpu cfg s = some s' := hp
      rw [recibirRespuestaCpu, hK] at hp
      cases hp
    | cons mensaje mensajes =>
      cases mensaje with
      | paquete q => exact h.recibirPaquete_cases hK hp
      | finInstruccion => exact h.recibirFin_cases hK hp
  | manejarPuertoDispatch => exact h.manejarPuertoDispatch_cases hp
  | manejarPuertoInterrupt => exact EnFifo.manejarPuertoInterrupt_cases hp
  | hacerInstruccion c instruccion => exact h.hacerInstruccion_cases hp
  | manejarPedidoInterrupcion => exact h.manejarPedidoInterrupcion_cases hp

/-! ### What goes on -/

/-- **The token is handed on**: a step leaves one thing that can go on. -/
theorem PasoFifo.testigos (h : EnFifo cfg s) (hp : PasoFifo cfg s ev s') :
    s'.testigos = s.testigos := by
  cases hp with
  | @propio ev k hev hk hajeno =>
    show k.fichas + _ + k.semEjecutar + _ + _ + _ = _
    rw [hajeno.fichas, hajeno.semEjecutar]
    rfl
  | @empieza motivo k l hmem hel hk =>
    have hfichas := fichas_empezarReplanificacion hmem hk
    obtain ⟨quantum, rfl, -⟩ := empezarReplanificacion_eq_some hk
    have hcero : s.fichas = s.kernel.fichas + 0 := by rw [Estado.fichas, hel]; rfl
    rw [Estado.testigos, Estado.testigos, hcero, ← hfichas]
    rfl
  | @termina motivo k l hel hk =>
    obtain ⟨m, q, k₁, _, _, _, _, -, hd, rfl⟩ := terminarReplanificacion_desencola hk
    obtain ⟨cola, -, rfl⟩ := desencolar_eq_some hd
    have huno : s.fichas = s.kernel.fichas + 1 := by rw [Estado.fichas, hel]; rfl
    rw [Estado.testigos, Estado.testigos, huno, Nat.add_right_comm s.kernel.fichas 1]
    rfl
  | @envia q hsem hexec hcpu =>
    show s.fichas + (s.kernel.semEjecutar - 1) +
        (s.aDispatch ++ [MensajeDispatch.pcb q]).length +
          s.aKernel.countP MensajeCpu.esFin + s.cpu.ejecuta.toNat = s.testigos
    rw [List.length_append, List.length_singleton, Estado.testigos]
    omega
  | @atiende q mensajes k hK hcpu hn hdes hm hexec hk hres =>
    have hfichas : k.fichas = s.kernel.fichas ∧ k.semEjecutar = s.kernel.semEjecutar := by
      rcases hres with ha | hd
      · exact ⟨ha.fichas, ha.semEjecutar⟩
      · exact ⟨hd.fichas, hd.semEjecutar⟩
    show k.fichas + s.eligiendo.isSome.toNat + k.semEjecutar + s.aDispatch.length +
      mensajes.countP MensajeCpu.esFin + s.cpu.ejecuta.toNat = s.testigos
    rw [hfichas.1, hfichas.2, Estado.testigos, hK,
      List.countP_cons_of_neg (by simp [MensajeCpu.esFin])]
    rfl
  | @continua mensajes hK =>
    show s.fichas + s.kernel.semEjecutar +
        (s.aDispatch ++ [MensajeDispatch.continuaEjecutando]).length +
          mensajes.countP MensajeCpu.esFin + s.cpu.ejecuta.toNat = s.testigos
    rw [Estado.testigos, hK, List.countP_cons_of_pos rfl, List.length_append,
      List.length_singleton]
    omega
  | @noContinua q mensajes hK hcpu hn hdes =>
    show Kernel.Estado.fichas { s.kernel with
          porReplanificar := s.kernel.porReplanificar ++ [s.kernel.motivo] } +
        s.eligiendo.isSome.toNat + s.kernel.semEjecutar + s.aDispatch.length +
          mensajes.countP MensajeCpu.esFin + s.cpu.ejecuta.toNat = s.testigos
    rw [fichas_pedir, h.sinReloj.motivo, Bool.toNat_true, Estado.testigos, hK,
      List.countP_cons_of_pos rfl, Estado.fichas]
    omega
  | @toma q mensajes hD hcpu =>
    show s.fichas + s.kernel.semEjecutar + mensajes.length + s.aKernel.countP MensajeCpu.esFin +
      1 = s.testigos
    rw [Estado.testigos, hD, hcpu, List.length_cons, FaseCpu.ejecuta, Bool.toNat_false]
    omega
  | @sigue q mensajes hD hcpu hn hdes =>
    show s.fichas + s.kernel.semEjecutar + mensajes.length + s.aKernel.countP MensajeCpu.esFin +
      1 = s.testigos
    rw [Estado.testigos, hD, hcpu, List.length_cons, FaseCpu.ejecuta, Bool.toNat_false]
    omega
  | recibe hI => rfl
  | @para q mensajes hI hcpu =>
    rw [Estado.testigos, Estado.testigos, hcpu]
    rfl
  | @ejecuta q c instruccion paquetes hcpu hdes =>
    have hfin : (paquetes.map MensajeCpu.paquete ++ [MensajeCpu.finInstruccion]).countP
        MensajeCpu.esFin = 1 := by
      rw [List.countP_append, List.countP_map]
      have hcero : paquetes.countP (MensajeCpu.esFin ∘ MensajeCpu.paquete) = 0 :=
        List.countP_eq_zero.2 fun x _ => Bool.false_ne_true
      rw [hcero]
      rfl
    show s.fichas + s.kernel.semEjecutar + s.aDispatch.length +
      (s.aKernel ++ (paquetes.map MensajeCpu.paquete ++ [MensajeCpu.finInstruccion])).countP
        MensajeCpu.esFin + 0 = s.testigos
    rw [Estado.testigos, hcpu, List.countP_append, hfin, FaseCpu.ejecuta, Bool.toNat_true]
    omega
  | @suelta q motivo hcpu hint =>
    rw [Estado.testigos, Estado.testigos, hcpu]
    rfl

/-! ### The interrupts on their way -/

/-- A packet of the interrupt port replaces the one before it, of which there was none. -/
theorem Estado.Avisada.recibe {q : ℕ} {motivo : Cadena} {mensajes : List MensajeInterrupt}
    (h : s.Avisada p resto) (hI : s.aInterrupt = .paquete q motivo :: mensajes)
    (hresto : ∀ m ∈ resto, m = .noContinuaEjecutando) :
    Estado.Avisada { s with interrupcion := some (q, motivo), aInterrupt := mensajes } p resto := by
  obtain ⟨m, hm, ⟨hnone, hI'⟩ | ⟨hsome, hI'⟩⟩ := h
  · rw [hI] at hI'
    cases hI'
    exact ⟨motivo, hm, Or.inr ⟨rfl, rfl⟩⟩
  · rw [hI] at hI'
    have hfalso := hresto (.paquete q motivo) (hI' ▸ List.mem_cons_self)
    cases hfalso

/-- The answer at the interrupt port comes after the packet. -/
theorem Estado.AvisosEnEspera.para {mensajes : List MensajeInterrupt} (h : s.AvisosEnEspera p)
    (hI : s.aInterrupt = .noContinuaEjecutando :: mensajes) :
    Estado.Avisada { s with cpu := .desalojando p, aInterrupt := mensajes } p [] := by
  rcases h with ⟨⟨-, hnil⟩, -⟩ | ⟨⟨m, hm, ⟨-, hI'⟩ | ⟨-, hI'⟩⟩, -⟩ | ⟨m, hm, ⟨-, hI'⟩ | ⟨hint, hI'⟩⟩
  · rw [hI] at hnil
    cases hnil
  · rw [hI] at hI'
    cases hI'
  · rw [hI] at hI'
    cases hI'
  · rw [hI] at hI'
    cases hI'
  · rw [hI] at hI'
    cases hI'
    exact ⟨m, hm, Or.inr ⟨hint, rfl⟩⟩

theorem PasoFifo.avisos (h : EnFifo cfg s) (hp : PasoFifo cfg s ev s') : s'.Avisos := by
  have havisos := h.avisos
  cases hp with
  | propio hev hk hajeno => exact havisos.congr rfl rfl rfl hajeno.desaloja
  | empieza hmem hel hk =>
    obtain ⟨quantum, rfl, -⟩ := empezarReplanificacion_eq_some hk
    exact havisos.congr rfl rfl rfl rfl
  | termina hel hk =>
    obtain ⟨m, q, k₁, _, _, _, _, -, hd, rfl⟩ := terminarReplanificacion_desencola hk
    obtain ⟨cola, -, rfl⟩ := desencolar_eq_some hd
    exact havisos.congr rfl rfl rfl rfl
  | @envia q hsem hexec hcpu =>
    -- the flag is lowered when the interrupt and the answer are both on their way
    cases hfase : s.cpu with
    | esperando r =>
      have hresto := (havisos.esperando hfase).of_uno (hcpu r hfase)
      have hespera : Estado.AvisosEnEspera { s with
          kernel := { s.kernel with
            semEjecutar := s.kernel.semEjecutar - 1
            desalojaPorInstruccion := false }
          aDispatch := s.aDispatch ++ [.pcb q] } r := Or.inr (Or.inr hresto)
      exact hespera
    | _ =>
      rw [Estado.Avisos, hfase] at havisos
      exact havisos
  | @atiende q mensajes k hK hcpu hn hdes hm hexec hk hres =>
    have hcallada : s.Callada := by
      rcases (havisos.esperando hcpu).of_cero hn with ⟨hcallada, -⟩ | ⟨-, hdes'⟩
      · exact hcallada
      · rw [hdes] at hdes'
        cases hdes'
    rw [Estado.Avisos, hcpu]
    rcases hres with ha | hd
    · refine Or.inl ⟨⟨hcallada.1, ?_⟩, ha.desaloja.trans hdes⟩
      show s.aInterrupt ++ _ = []
      rw [ha.interrupciones, List.drop_length, hcallada.2]
      rfl
    · obtain ⟨motivo, hmotivo, hint⟩ := hd.interrupciones
      refine Or.inr (Or.inl ⟨⟨motivo, hmotivo, Or.inl ⟨hcallada.1, ?_⟩⟩, hd.desaloja⟩)
      show s.aInterrupt ++ _ = [_]
      rw [hint, List.drop_left, hcallada.2]
      rfl
  | continua hK => exact havisos.congr rfl rfl rfl rfl
  | @noContinua q mensajes hK hcpu hn hdes =>
    have havisada : s.Avisada q [] := by
      rcases (havisos.esperando hcpu).of_cero hn with ⟨-, hdes'⟩ | ⟨havisada, -⟩
      · rw [hdes] at hdes'
        cases hdes'
      · exact havisada
    obtain ⟨motivo, hmotivo, hcasos⟩ := havisada
    rw [Estado.Avisos, hcpu]
    refine Or.inr (Or.inr ⟨motivo, hmotivo, ?_⟩)
    rcases hcasos with ⟨hnone, hI⟩ | ⟨hsome, hI⟩
    · refine Or.inl ⟨hnone, ?_⟩
      show s.aInterrupt ++ _ = _
      rw [hI]
      rfl
    · refine Or.inr ⟨hsome, ?_⟩
      show s.aInterrupt ++ _ = _
      rw [hI]
      rfl
  | toma hD hcpu =>
    rw [Estado.Avisos, hcpu] at havisos
    exact havisos
  | @sigue q mensajes hD hcpu hn hdes =>
    rcases (havisos.esperando hcpu).of_cero hn with ⟨hcallada, -⟩ | ⟨-, hdes'⟩
    · exact hcallada
    · rw [hdes] at hdes'
      cases hdes'
  | @recibe q motivo mensajes hI =>
    have hcallada : ¬ s.Callada := fun hc => by
      rw [hc.2] at hI
      cases hI
    cases hfase : s.cpu with
    | libre =>
      rw [Estado.Avisos, hfase] at havisos
      exact absurd havisos hcallada
    | ejecutando r =>
      rw [Estado.Avisos, hfase] at havisos
      exact absurd havisos hcallada
    | esperando r =>
      have hespera : Estado.AvisosEnEspera
          { s with interrupcion := some (q, motivo), aInterrupt := mensajes } r := by
        rcases havisos.esperando hfase with ⟨hc, -⟩ | ⟨havisada, hdes⟩ | havisada
        · exact absurd hc hcallada
        · exact Or.inr (Or.inl ⟨havisada.recibe hI (by simp), hdes⟩)
        · exact Or.inr (Or.inr (havisada.recibe hI (by simp)))
      exact hespera
    | desalojando r => exact (havisos.desalojando hfase).recibe hI (by simp)
  | para hI hcpu => exact (havisos.esperando hcpu).para hI
  | ejecuta hcpu hdes =>
    rw [Estado.Avisos, hcpu] at havisos
    exact Or.inl ⟨havisos, hdes⟩
  | suelta hcpu hint =>
    obtain ⟨m, -, ⟨hnone, -⟩ | ⟨-, hI⟩⟩ := havisos.desalojando hcpu
    · rw [hint] at hnone
      cases hnone
    · exact ⟨rfl, hI⟩

/-! ### The kernel -/

/-- The kernel does not touch the clock, whatever it does for the console and the interfaces. -/
theorem paso_sinReloj {k k' : Kernel.Estado} {ev : Kernel.Evento}
    (hvrr : cfg.algoritmoPlanificacion ≠ .VRR) (h : SinReloj k) (hev : esPropio ev = true)
    (hp : Kernel.paso cfg k ev = some k') : SinReloj k' := by
  cases ev with
  | iniciarProceso path =>
    cases hp
    exact h.of_update (l := .new) rfl (by decide) rfl rfl rfl rfl rfl
  | iniciarPlanificacion =>
    cases hp
    exact h.congr rfl rfl rfl rfl rfl rfl
  | detenerPlanificacion =>
    obtain ⟨-, rfl⟩ := detenerPlanificacion_eq_some hp
    exact h.congr rfl rfl rfl rfl rfl rfl
  | administrarProcesosNew => exact h.administrarProcesosNew hp
  | conectarInterfaz idInterfaz permitidas conexion =>
    cases hp
    exact h.conectarInterfaz idInterfaz permitidas conexion
  | finDeIo idInterfaz mensaje => exact h.finDeIo hvrr hp
  | _ => cases hev

theorem PasoFifo.sinReloj (hvrr : cfg.algoritmoPlanificacion ≠ .VRR) (h : EnFifo cfg s)
    (hp : PasoFifo cfg s ev s') : SinReloj s'.kernel := by
  have hsin := h.sinReloj
  cases hp with
  | propio hev hk hajeno => exact paso_sinReloj hvrr hsin hev hk
  | empieza hmem hel hk => exact hsin.empezarReplanificacion hk
  | termina hel hk => exact hsin.terminarReplanificacion hk
  | envia hsem hexec hcpu => exact hsin.congr rfl rfl rfl rfl rfl rfl
  | atiende hK hcpu hn hdes hm hexec hk hres => exact hsin.recibirPaqueteCpu hvrr hm hk
  | noContinua hK hcpu hn hdes => exact hsin.pedir hsin.motivo
  | _ => exact hsin

/-- The queue of a call of `replanificar` is `cola_ready`. -/
theorem PasoFifo.eligiendo (hvrr : cfg.algoritmoPlanificacion ≠ .VRR) (h : EnFifo cfg s)
    (hp : PasoFifo cfg s ev s') :
    ∀ l motivo, s'.eligiendo = some (l, motivo) → l = .ready ∧ noEsQuantum motivo = true := by
  cases hp with
  | empieza hmem hel hk =>
    intro l motivo heq
    cases heq
    exact ⟨empezarReplanificacion_ready hvrr hk, h.sinReloj.motivos _ hmem⟩
  | termina hel hk =>
    intro l motivo heq
    cases heq
  | _ => exact h.eligiendo

theorem PasoFifo.parado (h : EnFifo cfg s) (hp : PasoFifo cfg s ev s') : s'.reloj = .parado := by
  cases hp <;> exact h.parado

/-- The kernel keeps the accounts of its queues and its resources. -/
theorem PasoFifo.cuentas (h : EnFifo cfg s) (hp : PasoFifo cfg s ev s') :
    Sincronizados s'.kernel ∧ Contados cfg s'.kernel := by
  obtain ⟨t, ht⟩ := h.turno
  have hu := ht.ubicados
  have hs := h.sincronizados
  have hc := h.contados
  have hpaso : ∀ {ev : Kernel.Evento} {k : Kernel.Estado}, Kernel.paso cfg s.kernel ev = some k →
      (∀ p, ev ≠ .finalizarProceso p) → Sincronizados k ∧ Contados cfg k :=
    fun hk hev => ⟨paso_sincronizados hu hs hk hev, (paso_recursos hc hu hk).1⟩
  cases hp with
  | @propio ev k hev hk hajeno =>
    refine hpaso hk fun p => ?_
    rintro rfl
    cases hev
  | empieza hmem hel hk =>
    obtain ⟨quantum, rfl, -⟩ := empezarReplanificacion_eq_some hk
    exact ⟨hs.llegadas ((Llegadas.refl _).congr rfl rfl rfl rfl rfl rfl),
      hc.congr ⟨rfl, rfl, fun _ => rfl⟩⟩
  | termina hel hk =>
    refine ⟨hs.terminarReplanificacion hk, ?_⟩
    obtain ⟨m, q, k₁, _, _, _, _, hm, hd, rfl⟩ := terminarReplanificacion_desencola hk
    obtain ⟨cola, -, rfl⟩ := desencolar_eq_some hd
    refine hc.congr (.of_update (l := m) rfl rfl rfl fun i => ?_)
    rcases hm with rfl | rfl <;> simp
  | envia hsem hexec hcpu =>
    exact ⟨hs.llegadas ((Llegadas.refl _).congr rfl rfl rfl rfl rfl rfl),
      hc.congr ⟨rfl, rfl, fun _ => rfl⟩⟩
  | @atiende q mensajes k hK hcpu hn hdes hm hexec hk hres =>
    have hpaquete : Kernel.paso cfg s.kernel (.paquete q.motivo q.lista) = some k := by
      show s.kernel.enEjecucion.bind _ = some k
      rw [hu.enEjecucion_iff.2 hexec]
      exact hk
    exact hpaso hpaquete (by simp)
  | noContinua hK hcpu hn hdes =>
    exact ⟨hs.llegadas ((Llegadas.refl _).congr rfl rfl rfl rfl rfl rfl),
      hc.congr ⟨rfl, rfl, fun _ => rfl⟩⟩
  | _ => exact ⟨hs, hc⟩

/-- Until the first admission nobody leaves `cola_new`. -/
theorem paso_primero {k k' : Kernel.Estado} {ev : Kernel.Evento} (hev : esPropio ev = true)
    (h : k.esPrimerProceso = true → ∀ l, l ≠ .new → k.cola l = [])
    (hp : Kernel.paso cfg k ev = some k') :
    k'.esPrimerProceso = true → ∀ l, l ≠ .new → k'.cola l = [] := by
  cases ev with
  | iniciarProceso path =>
    cases hp
    intro hprimero l hl
    show Function.update k.cola .new _ l = []
    rw [Function.update_of_ne hl]
    exact h hprimero l hl
  | iniciarPlanificacion =>
    cases hp
    exact h
  | detenerPlanificacion =>
    obtain ⟨-, rfl⟩ := detenerPlanificacion_eq_some hp
    exact h
  | administrarProcesosNew =>
    obtain ⟨q, k₁, pendientes, primero, -, -, -, ⟨-, rfl⟩, rfl⟩ := administrarProcesosNew_eq_some hp
    intro hprimero
    cases hprimero
  | conectarInterfaz idInterfaz permitidas conexion =>
    cases hp
    unfold conectarInterfaz
    dsimp only
    split_ifs
    · exact h
    · intro hprimero l hl
      show Function.update k.cola (.io k.interfaces.length) [] l = []
      rw [Function.update_apply]
      split_ifs
      · rfl
      · exact h hprimero l hl
  | finDeIo idInterfaz mensaje =>
    rcases finDeIo_cases hp with rfl | ⟨i, fin, -, -, hd⟩
    · exact h
    · obtain ⟨q, k₁, hq, rfl⟩ := desbloquear_eq_some hd
      obtain ⟨cola, hcola, rfl⟩ := desencolar_eq_some hq
      intro hprimero
      have hmismo : ∀ k : Kernel.Estado,
          (iniciar cfg k q fin).esPrimerProceso = k.esPrimerProceso := by
        intro k
        unfold iniciar
        split_ifs <;> rfl
      rw [hmismo] at hprimero
      have hnil := h hprimero (.io i) (by simp)
      rw [hcola] at hnil
      cases hnil
  | _ => cases hev

/-- Once a process is in EXEC, all calls of `replanificar` are taken up. -/
theorem EnTurno.fichas_of_exec {t : Turno} (h : EnTurno cfg t s)
    (hp : s.kernel.estado p = some .exec) : s.fichas = 0 := by
  have hexec := (h.exec p).1 hp
  have hfichas := h.fichas
  cases t with
  | nadie => cases hexec
  | _ => exact Nat.le_zero.1 hfichas

theorem fichas_of_primero {k : Kernel.Estado} (h : k.esPrimerProceso = true) : 0 < k.fichas := by
  rw [Kernel.Estado.fichas, h]
  exact Nat.succ_pos _

theorem PasoFifo.primero (h : EnFifo cfg s) (hp : PasoFifo cfg s ev s') :
    s'.kernel.esPrimerProceso = true → ∀ l, l ≠ .new → s'.kernel.cola l = [] := by
  cases hp with
  | propio hev hk hajeno => exact paso_primero hev h.primero hk
  | empieza hmem hel hk =>
    obtain ⟨quantum, rfl, -⟩ := empezarReplanificacion_eq_some hk
    exact h.primero
  | @termina motivo k l hel hk =>
    -- a call of `replanificar` has been made, so there was an admission
    obtain ⟨m, q, k₁, _, _, _, _, -, hd, rfl⟩ := terminarReplanificacion_desencola hk
    obtain ⟨cola, -, rfl⟩ := desencolar_eq_some hd
    intro hprimero
    have hfichas : 0 < s.kernel.fichas := fichas_of_primero hprimero
    have htestigos := h.testigos
    rw [Estado.testigos, Estado.fichas, hel, Option.isSome_some, Bool.toNat_true] at htestigos
    omega
  | @atiende q mensajes k hK hcpu hn hdes hm hexec hk hres =>
    intro hprimero
    obtain ⟨t, ht⟩ := h.turno
    have hcero := ht.fichas_of_exec hexec
    have hfichas : k.fichas = s.kernel.fichas := by
      rcases hres with ha | hd
      · exact ha.fichas
      · exact hd.fichas
    have hpos : 0 < k.fichas := fichas_of_primero hprimero
    rw [Estado.fichas] at hcero
    omega
  | _ => exact h.primero

/-! ### Every step -/

theorem enFifo_inicial (cfg : KernelConfiguracion) : EnFifo cfg (Estado.inicial cfg) where
  turno := ⟨.nadie, enTurno_inicial cfg⟩
  testigos := rfl
  avisos := ⟨rfl, rfl⟩
  sinReloj := sinReloj_inicial cfg
  parado := rfl
  eligiendo l motivo h := by cases h
  sincronizados := ⟨rfl, rfl, rfl, rfl, rfl⟩
  contados := contados_inicial cfg
  primero _ _ _ := rfl

/-- **Every step under FIFO** keeps the invariant. -/
theorem paso_enFifo (hfifo : cfg.algoritmoPlanificacion = .FIFO) (h : EnFifo cfg s)
    (hC : SinDenegar cpu tamPagina s ev) (hp : paso cfg cpu tamPagina s ev = some s') :
    EnFifo cfg s' := by
  have hvrr : cfg.algoritmoPlanificacion ≠ .VRR := by
    rw [hfifo]
    decide
  obtain ⟨t, ht⟩ := h.turno
  obtain ⟨t', ht', -⟩ := paso_enTurno ht (h.ordenado hC) hp
  have hcases := h.paso_cases hfifo hp
  obtain ⟨hs, hc⟩ := hcases.cuentas h
  exact ⟨⟨t', ht'⟩, (hcases.testigos h).trans h.testigos, hcases.avisos h, hcases.sinReloj hvrr h,
    hcases.parado h, hcases.eligiendo hvrr h, hs, hc, hcases.primero h⟩

end SimuladorSO.Sistema
