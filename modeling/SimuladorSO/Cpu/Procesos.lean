import SimuladorSO.Library.Noninterference
import SimuladorSO.Cpu.Confinamiento

/-!
# The processes, each with its registers

What the processes of the system do, in any order, once the scheduler is left out: memoria handles
the requests of the kernel, the CPU executes a turn of some process, and the interfaces read and
write the memory of some process.  Between two turns of a process its registers are kept for it.

* `Procesos`, `Procesos.paso`: the processes and what happens to them;
* `Procesos.Confinado`: the turns stay with their process, and the accesses of an interface start in
  a frame of it;
* `Procesos.NoDistingue`: a process sees the same in both states;
* `procesos_como_solo`, `procesos_con_los_mismos_eventos`: what a process does and sees depends on
  its own events alone.
-/

namespace SimuladorSO.Cpu

open Commons Dictionary Memoria Noninterference Tracing Transitions Ciclo

/-- Memoria and the CPU, with the registers of each process, the packets that the CPU has sent for
it, and what the interfaces have read for it. -/
structure Procesos extends Sistema where
  pendientes : List Envio
  registros : ℕ → Registros
  enviados : ℕ → List Aviso
  leidos : ℕ → List Envio

/-- What happens to a process. -/
inductive EventoProceso
  /-- The requests of the kernel. -/
  | iniciar (archivo : Cadena) (pid : ℕ)
  | finalizar (pid : ℕ)
  /-- A turn of the loop of the CPU. -/
  | ejecutar (pid : ℕ)
  /-- The requests of the interfaces. -/
  | escribir (pid : ℕ) (direccion tamanio : ℤ) (mensaje : List UInt8)
  | leer (pid : ℕ) (direccion tamanio : ℤ)

/-- The process of an event. -/
def EventoProceso.pid : EventoProceso → ℕ
  | iniciar _ pid => pid
  | finalizar pid => pid
  | ejecutar pid => pid
  | escribir pid _ _ _ => pid
  | leer pid _ _ => pid

/-- The registers of a new PCB: `generar_nuevo_proceso` does not set DI. -/
def registrosNuevos (di : UInt32) : Registros := ⟨0, 0, 0, 0, 0, 0, 0, 0, 0, 0, di⟩

namespace Procesos

variable (cpu : CpuConfiguracion) (cfg : MemoriaConfiguracion)

/-- The CPU with the registers of the process. -/
def cpuDe (s : Procesos) (pid : ℕ) : EstadoCpu :=
  ⟨s.registros pid, s.tlb, s.memoria, s.pendientes⟩

/-- The state at start-up, over the bytes that the two programs find in their memory. -/
def inicial (espacio : ℤ → UInt8) (basura : ℕ → UInt32) : Procesos where
  toSistema := .inicial cpu espacio
  pendientes := []
  registros := fun pid => registrosNuevos (basura pid)
  enviados := fun _ => []
  leidos := fun _ => []

/-- One event. -/
def paso (s : Procesos) : EventoProceso → Option Procesos
  | .iniciar archivo pid =>
    some { s with
      memoria := recibirInfoKernel s.memoria (.iniciarProceso archivo pid)
      contadorPid := pid + 1 }
  | .finalizar pid =>
    some { s with memoria := recibirInfoKernel s.memoria (.finalizarProceso pid) }
  | .ejecutar pid =>
    (ciclo cpu cfg (s.cpuDe pid) pid).value.map fun e =>
      { s with
        memoria := e.memoria
        tlb := e.tlb
        pendientes := e.pendientes
        registros := Function.update s.registros pid e.registros
        enviados := Function.update s.enviados pid
          (s.enviados pid ++ (ciclo cpu cfg (s.cpuDe pid) pid).effects) }
  | .escribir pid direccion tamanio mensaje =>
    (escribirMemoria cfg s.memoria direccion mensaje tamanio pid).map fun (m, _) =>
      { s with memoria := m }
  | .leer pid direccion tamanio =>
    (leerMemoria cfg s.memoria direccion tamanio pid).map fun envios =>
      { s with leidos := Function.update s.leidos pid (s.leidos pid ++ envios) }

/-- The kernel gives the pids in order; an instruction stays with its process; and an interface
accesses a frame of the process for which it works. -/
def Confinado (s : Procesos) : EventoProceso → Prop
  | .iniciar _ pid => (pid : ℤ) = s.contadorPid
  | .finalizar _ => True
  | .ejecutar pid => TurnoConfinado cfg (s.cpuDe pid) pid
  | .escribir pid direccion _ _ => 0 ≤ direccion ∧ SuByte cfg s.memoria pid direccion
  | .leer pid direccion _ => 0 ≤ direccion ∧ SuByte cfg s.memoria pid direccion

/-- The process does not ask for frames. -/
def SinResize (i : ℕ) (s : Procesos) : EventoProceso → Prop
  | .ejecutar pid => pid = i → ∀ instruccion,
    proxima s.memoria pid (s.registros pid).pc = some instruccion → instruccion.esResize = false
  | _ => True

/-- The process sees the same in both states: its registers, its memory, and what has been sent and
read for it. -/
structure NoDistingue (i : ℕ) (s s' : Procesos) : Prop where
  registros : s'.registros i = s.registros i
  enviados : s'.enviados i = s.enviados i
  leidos : s'.leidos i = s.leidos i
  memoria : Igual cfg i s.memoria s'.memoria

/-- What holds of the states of a run: the TLB and the connection are as they should be, and a
process with a script has a page table. -/
structure EnOrden (s : Procesos) : Prop where
  sano : Sano cpu cfg s.contadorPid (s.cpuDe 0)
  guiones : ∀ pid, (get s.memoria.diccionarioInstrucciones pid).isSome = true → Vivo s.memoria pid

/-- The states that the system can be in while every event stays with its process. -/
def Alcanzable (s : Procesos) : Prop :=
  ∃ espacio basura es, Meets (paso cpu cfg) (Confinado cfg) (inicial cpu espacio basura) es ∧
    run (paso cpu cfg) (inicial cpu espacio basura) es = some s

variable {cpu} {cfg} {s s' t : Procesos} {e : EventoProceso} {i pid : ℕ}

/-! ### What the process sees -/

theorem NoDistingue.refl (i : ℕ) (s : Procesos) : NoDistingue cfg i s s :=
  ⟨rfl, rfl, rfl, .refl i s.memoria⟩

theorem NoDistingue.symm (h : NoDistingue cfg i s s') : NoDistingue cfg i s' s :=
  ⟨h.registros.symm, h.enviados.symm, h.leidos.symm, h.memoria.symm⟩

theorem NoDistingue.trans (h : NoDistingue cfg i s s') (h' : NoDistingue cfg i s' t) :
    NoDistingue cfg i s t :=
  ⟨h'.registros.trans h.registros, h'.enviados.trans h.enviados, h'.leidos.trans h.leidos,
    h.memoria.trans h'.memoria⟩

/-- The memory alone has changed, and not for the process. -/
theorem NoDistingue.de_memoria {m : Memoria.Estado} {n : ℤ} (h : Igual cfg i s.memoria m) :
    NoDistingue cfg i s { s with memoria := m, contadorPid := n } := ⟨rfl, rfl, rfl, h⟩

theorem NoDistingue.parecido (h : NoDistingue cfg i s s') :
    Parecido cfg i (s.cpuDe i) (s'.cpuDe i) := ⟨h.registros, h.memoria⟩

/-! ### The invariant -/

theorem EnOrden.exclusivos (h : EnOrden cpu cfg s) : MarcosExclusivos cfg s.memoria :=
  h.sano.valido.exclusivos

theorem EnOrden.cpuDe (h : EnOrden cpu cfg s) (pid : ℕ) :
    Sano cpu cfg s.contadorPid (s.cpuDe pid) := h.sano.conRegistros (s.registros pid)

/-- A process that the CPU can execute has a page table. -/
theorem EnOrden.vivo (h : EnOrden cpu cfg s) {x : EstadoCpu}
    (hx : (ciclo cpu cfg (s.cpuDe pid) pid).value = some x) : Vivo s.memoria pid := by
  rw [ciclo_eq (h.cpuDe pid).pendientes] at hx
  obtain ⟨instruccion, hi, -⟩ := bind_value_eq_some hx
  obtain ⟨linea, hlinea, -⟩ := Option.bind_eq_some_iff.1
    (show proxima s.memoria pid _ = some instruccion from hi)
  obtain ⟨lista, hlista, -⟩ := Option.bind_eq_some_iff.1 hlinea
  exact h.guiones pid (by rw [hlista]; rfl)

theorem enOrden_inicial (espacio : ℤ → UInt8) (basura : ℕ → UInt32) :
    EnOrden cpu cfg (inicial cpu espacio basura) where
  sano := ⟨inicial_valido espacio, (fun e _ hv => by cases hv), rfl⟩
  guiones pid h := by cases h

/-- The bytes of the memory are of no concern to the invariant. -/
theorem EnOrden.conEspacio (h : EnOrden cpu cfg s) (espacio : ℤ → UInt8) :
    EnOrden cpu cfg { s with memoria := { s.memoria with espacioMemoria := espacio } } :=
  ⟨h.sano.conEspacio espacio, h.guiones⟩

/-- A request of the kernel, which the CPU does not notice. -/
theorem EnOrden.pedidoKernel (h : EnOrden cpu cfg s) (ev : Evento) {s' : Sistema}
    (hp : Cpu.paso cfg cpu s.toSistema ev = some s') (hev : SinTocarTlb cfg s.toSistema ev)
    (hg : ∀ pid, (get s'.memoria.diccionarioInstrucciones pid).isSome = true →
      Vivo s'.memoria pid) : EnOrden cpu cfg { s with toSistema := s' } := by
  have hvalido : Valido cfg cpu s.toSistema := h.sano.valido
  have hvalido' := paso_valido hvalido hp
  have hcoherente := (paso_coherente_iff hvalido
    (hvalido.coherente_iff_tlb.2 h.sano.coherente) hp).2 hev
  exact ⟨⟨hvalido', hvalido'.coherente_iff_tlb.1 hcoherente, h.sano.pendientes⟩, hg⟩

/-- An event that stays with its process keeps the invariant. -/
theorem EnOrden.paso (h : EnOrden cpu cfg s) (hc : Confinado cfg s e)
    (hp : paso cpu cfg s e = some t) : EnOrden cpu cfg t := by
  cases e with
  | iniciar archivo pid =>
    cases hp
    have hpid : (pid : ℤ) = s.contadorPid := hc
    have hpaso : Cpu.paso cfg cpu s.toSistema (.crear archivo) =
        some ⟨recibirInfoKernel s.memoria (.iniciarProceso archivo pid), s.tlb, pid + 1⟩ := by
      rw [hpid]
      rfl
    refine h.pedidoKernel (.crear archivo) hpaso trivial fun q hq => ?_
    show (get (recibirInfoKernel s.memoria _).registroTablaDePaginas q).isSome = true
    rw [iniciarProceso_get]
    split_ifs with hq'
    · rfl
    · have hotro : get (recibirInfoKernel s.memoria
          (.iniciarProceso archivo pid)).diccionarioInstrucciones q =
            get s.memoria.diccionarioInstrucciones q := get_put_of_ne _ _ hq'
      exact h.guiones q (by rwa [← hotro])
  | finalizar pid =>
    cases hp
    refine h.pedidoKernel (.terminar pid) rfl trivial fun q hq => ?_
    have hguion : q ≠ pid → Igual cfg q s.memoria
        (recibirInfoKernel s.memoria (.finalizarProceso pid)) :=
      recibirInfoKernel_ajeno cfg s.memoria (.finalizarProceso pid)
    by_cases hq' : q = pid
    · rw [hq'] at hq
      have hno := congrArg Option.isSome (finalizarProceso_guion s.memoria pid)
      exact absurd (hq.symm.trans hno) (by simp)
    · show (get (recibirInfoKernel s.memoria _).registroTablaDePaginas q).isSome = true
      rw [(hguion hq').tabla]
      exact h.guiones q (by rwa [← (hguion hq').guion])
  | ejecutar pid =>
    obtain ⟨x, hx, rfl⟩ := Option.map_eq_some_iff.1 hp
    have hsuyo := ciclo_soloSuyo (h.cpuDe pid) (h.vivo hx) hc x hx
    have hguiones : x.memoria.diccionarioInstrucciones = s.memoria.diccionarioInstrucciones :=
      hsuyo.guiones
    refine ⟨hsuyo.sano.conRegistros _, fun q hq => (hsuyo.vivos q).2 (h.guiones q ?_)⟩
    rw [← hguiones]
    exact hq
  | escribir pid direccion tamanio mensaje =>
    obtain ⟨⟨m, envios⟩, hm, rfl⟩ := Option.map_eq_some_iff.1 hp
    obtain ⟨visitados, huboError, -, rfl, -⟩ := escribirMemoria_eq_some hm
    exact h.conEspacio _
  | leer pid direccion tamanio =>
    obtain ⟨envios, -, rfl⟩ := Option.map_eq_some_iff.1 hp
    exact ⟨h.sano, h.guiones⟩

/-! ### The two unwinding conditions -/

/-- Nobody else sees an event. -/
theorem EnOrden.ajeno (h : EnOrden cpu cfg s) (hc : Confinado cfg s e) (hne : e.pid ≠ i)
    (hp : Procesos.paso cpu cfg s e = some t) : NoDistingue cfg i s t := by
  have hne' : (i : ℤ) ≠ e.pid := by exact_mod_cast hne.symm
  cases e with
  | iniciar archivo pid =>
    cases hp
    exact .de_memoria (recibirInfoKernel_ajeno cfg s.memoria _ hne')
  | finalizar pid =>
    cases hp
    exact .de_memoria (recibirInfoKernel_ajeno cfg s.memoria _ hne')
  | ejecutar pid =>
    obtain ⟨x, hx, rfl⟩ := Option.map_eq_some_iff.1 hp
    have hsuyo := ciclo_soloSuyo (h.cpuDe pid) (h.vivo hx) hc x hx
    exact ⟨Function.update_of_ne hne.symm _ _, Function.update_of_ne hne.symm _ _, rfl,
      hsuyo.otros i hne'⟩
  | escribir pid direccion tamanio mensaje =>
    obtain ⟨⟨m, envios⟩, hm, rfl⟩ := Option.map_eq_some_iff.1 hp
    exact .de_memoria (escribirMemoria_ajeno h.exclusivos
      (tramoPropio_inicial hc.1 hc.2 tamanio) hm hne')
  | leer pid direccion tamanio =>
    obtain ⟨envios, -, rfl⟩ := Option.map_eq_some_iff.1 hp
    exact ⟨rfl, rfl, Function.update_of_ne hne.symm _ _, .refl i s.memoria⟩

/-- The condition on an event depends on what its process sees. -/
theorem EnOrden.confinado (h : EnOrden cpu cfg s) (hR : NoDistingue cfg e.pid s s')
    (hi : (e.pid : ℤ) < s.contadorPid) (hc : Confinado cfg s e) (hsin : SinResize e.pid s e) :
    Confinado cfg s' e ∧ SinResize e.pid s' e := by
  have hbyte : ∀ a, SuByte cfg s.memoria e.pid a → SuByte cfg s'.memoria e.pid a :=
    fun a => (SuMarco.congr hR.memoria.tabla).2
  cases e with
  | iniciar archivo pid =>
    have hpid : (pid : ℤ) = s.contadorPid := hc
    exact absurd hi (by rw [← hpid]; exact lt_irrefl _)
  | finalizar pid => exact ⟨trivial, trivial⟩
  | ejecutar pid =>
    refine ⟨TurnoConfinado.congr (h.cpuDe pid) hR.parecido (hsin rfl) hc, fun _ => ?_⟩
    have hproxima : proxima s'.memoria pid (s'.registros pid).pc =
        proxima s.memoria pid (s.registros pid).pc := hR.parecido.proxima
    rw [hproxima]
    exact hsin rfl
  | escribir pid direccion tamanio mensaje => exact ⟨⟨hc.1, hbyte _ hc.2⟩, trivial⟩
  | leer pid direccion tamanio => exact ⟨⟨hc.1, hbyte _ hc.2⟩, trivial⟩

/-- What a process sees after an event of its own depends on what it saw. -/
theorem EnOrden.propio (h : EnOrden cpu cfg s) (h' : EnOrden cpu cfg s')
    (hR : NoDistingue cfg e.pid s s') (hi : (e.pid : ℤ) < s.contadorPid) (hc : Confinado cfg s e)
    (hsin : SinResize e.pid s e) (hp : Procesos.paso cpu cfg s e = some t) :
    ∃ t', Procesos.paso cpu cfg s' e = some t' ∧ NoDistingue cfg e.pid t t' := by
  cases e with
  | iniciar archivo pid =>
    have hpid : (pid : ℤ) = s.contadorPid := hc
    exact absurd hi (by rw [← hpid]; exact lt_irrefl _)
  | finalizar pid =>
    cases hp
    exact ⟨_, rfl, hR.registros, hR.enviados, hR.leidos, .finalizar pid⟩
  | ejecutar pid =>
    obtain ⟨x, hx, rfl⟩ := Option.map_eq_some_iff.1 hp
    obtain ⟨x', hx', heffects, hj⟩ := ciclo_juntos (h.cpuDe pid) (h'.cpuDe pid) hR.parecido
      (h.vivo hx) hc (hsin rfl) x hx
    refine ⟨_, Option.map_eq_some_iff.2 ⟨x', hx', rfl⟩, ?_, ?_, hR.leidos, hj.parecido.memoria⟩
    · show Function.update _ pid _ pid = Function.update _ pid _ pid
      rw [Function.update_self, Function.update_self, hj.parecido.registros]
    · have heffects' : (ciclo cpu cfg (s'.cpuDe pid) pid).effects =
          (ciclo cpu cfg (s.cpuDe pid) pid).effects := heffects
      show Function.update _ pid _ pid = Function.update _ pid _ pid
      rw [Function.update_self, Function.update_self, heffects']
      exact congrArg (· ++ _) hR.enviados
  | escribir pid direccion tamanio mensaje =>
    obtain ⟨⟨m, envios⟩, hm, rfl⟩ := Option.map_eq_some_iff.1 hp
    obtain ⟨m', hm', higual⟩ := escribirMemoria_igual hR.memoria hm
    exact ⟨_, Option.map_eq_some_iff.2 ⟨_, hm', rfl⟩, hR.registros, hR.enviados, hR.leidos, higual⟩
  | leer pid direccion tamanio =>
    obtain ⟨envios, hleer, rfl⟩ := Option.map_eq_some_iff.1 hp
    have hleer' := leerMemoria_igual h.exclusivos hR.memoria (tramoPropio_inicial hc.1 hc.2 tamanio)
    refine ⟨_, Option.map_eq_some_iff.2 ⟨envios, hleer'.trans hleer, rfl⟩, hR.registros,
      hR.enviados, ?_, hR.memoria⟩
    show Function.update _ pid _ pid = Function.update _ pid _ pid
    rw [Function.update_self, Function.update_self]
    exact congrArg (· ++ _) hR.leidos

/-! ### Whole runs -/

theorem Alcanzable.enOrden (h : Alcanzable cpu cfg s) : EnOrden cpu cfg s := by
  obtain ⟨espacio, basura, es, hm, hrun⟩ := h
  exact (along_of_meets (fun s e t h hc hp => h.paso hc hp) (enOrden_inicial espacio basura)
    hm).last hrun

/-- Pids are not given back. -/
theorem contadorPid_mono (hc : Confinado cfg s e) (hp : Procesos.paso cpu cfg s e = some t) :
    s.contadorPid ≤ t.contadorPid := by
  cases e with
  | iniciar archivo pid =>
    cases hp
    have hpid : (pid : ℤ) = s.contadorPid := hc
    show s.contadorPid ≤ (pid : ℤ) + 1
    omega
  | finalizar pid =>
    cases hp
    exact le_rfl
  | ejecutar pid =>
    obtain ⟨x, -, rfl⟩ := Option.map_eq_some_iff.1 hp
    exact le_rfl
  | escribir pid direccion tamanio mensaje =>
    obtain ⟨x, -, rfl⟩ := Option.map_eq_some_iff.1 hp
    exact le_rfl
  | leer pid direccion tamanio =>
    obtain ⟨x, -, rfl⟩ := Option.map_eq_some_iff.1 hp
    exact le_rfl

/-- The processes are separate, for one that has been created. -/
theorem separados (cpu : CpuConfiguracion) (cfg : MemoriaConfiguracion) (i : ℕ) :
    Separate (Procesos.paso cpu cfg) EventoProceso.pid
      (fun s => EnOrden cpu cfg s ∧ (i : ℤ) < s.contadorPid)
      (fun s e => Confinado cfg s e ∧ SinResize i s e) (NoDistingue cfg i) i where
  refl := .refl i
  symm _ _ h := h.symm
  trans _ _ _ h h' := h.trans h'
  inv _ _ _ h hc hp := ⟨h.1.paso hc.1 hp, h.2.trans_le (contadorPid_mono hc.1 hp)⟩
  other _ _ _ h hc hne hp := h.1.ajeno hc.1 hne hp
  cond _ _ _ h _ hR he hc := by
    subst he
    exact h.1.confinado hR h.2 hc.1 hc.2
  own _ _ _ _ h h' hR hc he hp := by
    subst he
    exact h.1.propio h'.1 hR h.2 hc.1 hc.2 hp

end Procesos

/-- **A process cannot tell that there are others.**  From two reachable states that look the same
to it, a run of all the processes and the run of its own events alone end in states that look the
same to it: its registers, its memory, the packets sent for it and what the interfaces read.  The
others may do anything that stays with them, RESIZE included; the process itself does not ask for
frames meanwhile. -/
theorem procesos_como_solo (cpu : CpuConfiguracion) (cfg : MemoriaConfiguracion)
    (s s' t : Procesos) (i : ℕ) (es : List EventoProceso) (hs : s.Alcanzable cpu cfg)
    (hs' : s'.Alcanzable cpu cfg) (hi : (i : ℤ) < s.contadorPid) (hi' : (i : ℤ) < s'.contadorPid)
    (hR : Procesos.NoDistingue cfg i s s')
    (hm : Meets (Procesos.paso cpu cfg)
      (fun s e => Procesos.Confinado cfg s e ∧ Procesos.SinResize i s e) s es)
    (hrun : run (Procesos.paso cpu cfg) s es = some t) :
    ∃ t', run (Procesos.paso cpu cfg) s' (eventsOf EventoProceso.pid i es) = some t' ∧
      Procesos.NoDistingue cfg i t t' :=
  (Procesos.separados cpu cfg i).run_purge ⟨hs.enOrden, hi⟩ ⟨hs'.enOrden, hi'⟩ hR hm hrun

/-- **Two runs with the same events of a process** end in states that look the same to it, whatever
the others do in each. -/
theorem procesos_con_los_mismos_eventos (cpu : CpuConfiguracion) (cfg : MemoriaConfiguracion)
    (s s' t t' : Procesos) (i : ℕ) (es es' : List EventoProceso) (hs : s.Alcanzable cpu cfg)
    (hs' : s'.Alcanzable cpu cfg) (hi : (i : ℤ) < s.contadorPid) (hi' : (i : ℤ) < s'.contadorPid)
    (hR : Procesos.NoDistingue cfg i s s')
    (hm : Meets (Procesos.paso cpu cfg)
      (fun s e => Procesos.Confinado cfg s e ∧ Procesos.SinResize i s e) s es)
    (hm' : Meets (Procesos.paso cpu cfg)
      (fun s e => Procesos.Confinado cfg s e ∧ Procesos.SinResize i s e) s' es')
    (hrun : run (Procesos.paso cpu cfg) s es = some t)
    (hrun' : run (Procesos.paso cpu cfg) s' es' = some t')
    (hes : eventsOf EventoProceso.pid i es = eventsOf EventoProceso.pid i es') :
    Procesos.NoDistingue cfg i t t' :=
  (Procesos.separados cpu cfg i).run_congr ⟨hs.enOrden, hi⟩ ⟨hs'.enOrden, hi'⟩ hR hm hm' hrun
    hrun' hes

/-- No TLB. -/
def sinTlb : CpuConfiguracion := ⟨0, "FIFO".toList⟩

/-- One process, over zeros, and with it another one. -/
def conUno : Procesos :=
  { Procesos.inicial sinTlb (fun _ => 0) (fun _ => 0) with
    memoria := recibirInfoKernel (generarEspacioMemoria fun _ => 0)
      (.iniciarProceso "SET AX 5".toList 1)
    contadorPid := 2 }

def conDos : Procesos :=
  { conUno with
    memoria := recibirInfoKernel conUno.memoria (.iniciarProceso "RESIZE 32".toList 2)
    contadorPid := 3 }

theorem conUno_alcanzable : conUno.Alcanzable sinTlb cfgCuatroMarcos :=
  ⟨fun _ => 0, fun _ => 0, [.iniciar "SET AX 5".toList 1], fun _ _ => ⟨rfl, trivial⟩, rfl⟩

theorem conDos_alcanzable : conDos.Alcanzable sinTlb cfgCuatroMarcos := by
  refine ⟨fun _ => 0, fun _ => 0,
    [.iniciar "SET AX 5".toList 1, .iniciar "RESIZE 32".toList 2], fun u hu => ⟨rfl, ?_⟩, rfl⟩
  cases hu
  exact fun _ _ => ⟨rfl, trivial⟩

/-- The first process counts, with the second one, that asks for frames, and without it. -/
theorem procesos_como_solo_dos :
    ∃ t t', run (Procesos.paso sinTlb cfgCuatroMarcos) conDos [.ejecutar 2, .ejecutar 1] = some t ∧
      run (Procesos.paso sinTlb cfgCuatroMarcos) conUno [.ejecutar 1] = some t' ∧
      (t.registros 1).ax = 5 ∧ Procesos.NoDistingue cfgCuatroMarcos 1 t t' := by
  obtain ⟨u, hu⟩ : ∃ u, Procesos.paso sinTlb cfgCuatroMarcos conDos (.ejecutar 2) = some u :=
    ⟨_, rfl⟩
  have hdos : proxima conDos.memoria 2 (conDos.registros 2).pc = some (.resize "32".toList) := rfl
  have huno : proxima u.memoria 1 (u.registros 1).pc =
      some (.set "AX".toList "5".toList) := by
    rw [← Option.some.inj hu]
    rfl
  obtain ⟨t, ht, hax⟩ : ∃ t, Procesos.paso sinTlb cfgCuatroMarcos u (.ejecutar 1) = some t ∧
      (t.registros 1).ax = 5 := by
    rw [← Option.some.inj hu]
    exact ⟨_, rfl, rfl⟩
  have hrun : run (Procesos.paso sinTlb cfgCuatroMarcos) conDos [.ejecutar 2, .ejecutar 1] =
      some t := run_cons_eq_some.2 ⟨u, hu, run_cons_eq_some.2 ⟨t, ht, rfl⟩⟩
  have hm : Meets (Procesos.paso sinTlb cfgCuatroMarcos)
      (fun s e => Procesos.Confinado cfgCuatroMarcos s e ∧ Procesos.SinResize 1 s e) conDos
      [.ejecutar 2, .ejecutar 1] := by
    intro v hv
    cases hu.symm.trans hv
    refine ⟨⟨fun i hi => ?_, fun h => by cases h⟩,
      fun _ _ => ⟨⟨fun i hi => ?_, fun _ i hi => ?_⟩, trivial⟩⟩
    · cases hdos.symm.trans hi
      exact fun _ _ => rfl
    · cases huno.symm.trans hi
      trivial
    · cases huno.symm.trans hi
      rfl
  obtain ⟨t', ht', hR⟩ := procesos_como_solo sinTlb cfgCuatroMarcos _ _ _ 1 _ conDos_alcanzable
    conUno_alcanzable (by decide) (by decide) ⟨rfl, rfl, rfl, rfl, rfl, fun _ _ => rfl⟩ hm hrun
  exact ⟨t, t', hrun, ht', hax, hR⟩

end SimuladorSO.Cpu
