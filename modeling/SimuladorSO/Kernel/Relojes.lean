import SimuladorSO.Kernel.Devoluciones

/-!
# The handshake with the quantum clock

Under RR and VRR the thread `habilitacion_instruccion` waits once for `termino_la_instruccion` and
once for `sem_esperar_instruccion` in each syscall.  The posts that answer it are spread over
`wait`, `signal` and the branches of `atender_solicitud_cpu`.

* `habilitacionInstruccion`: one turn of the clock;
* `Equilibra`: the handler has posted once for each wait;
* `atenderSolicitudCpu_equilibra_iff`: exactly when it has posted so.
-/

namespace SimuladorSO.Kernel

open Queues Counting Transitions Commons Dictionary

/-- One turn of `habilitacion_instruccion` while the quantum lasts: the two waits of a syscall.  It
does not come back where the clock stays stopped. -/
def habilitacionInstruccion (r : Reloj) : Option Reloj :=
  if r.terminoLaInstruccion = 0 ∨ r.esperarInstruccion = 0 then none
  else
    some { r with
      terminoLaInstruccion := r.terminoLaInstruccion - 1
      esperarInstruccion := r.esperarInstruccion - 1 }

/-- Each semaphore has been posted once, so that the turn of the clock takes what was posted and
leaves the permits that there were. -/
structure Equilibra (r r' : Reloj) : Prop where
  termino : r'.terminoLaInstruccion = r.terminoLaInstruccion + 1
  esperar : r'.esperarInstruccion = r.esperarInstruccion + 1
  turno : habilitacionInstruccion r' = some r

/-- The reasons of the packets that are syscalls. -/
def EsSyscall (motivo : Cadena) : Prop :=
  stringContains motivo "IO".toList = true ∨
    stringEqualsIgnoreCase motivo "WAIT".toList = true ∨
    stringEqualsIgnoreCase motivo "SIGNAL".toList = true ∨
    stringEqualsIgnoreCase motivo "EXIT".toList = true ∨
    stringEqualsIgnoreCase motivo "OUT_OF_MEMORY".toList = true ∨
    stringEqualsIgnoreCase motivo "DENIED_ACCESS".toList = true

/-- The syscall ends the process: its interface is missing or does not permit the instruction, its
resource is missing, or it asks for the end. -/
def Termina (cfg : KernelConfiguracion) (k : Estado) (lista : List Cadena) (motivo : Cadena) :
    Prop :=
  if stringContains motivo "IO".toList then
    ∃ interfaz, lista[0]? = some interfaz ∧ cumpleInterfaz k interfaz motivo = some false
  else if stringEqualsIgnoreCase motivo "WAIT".toList ∨
      stringEqualsIgnoreCase motivo "SIGNAL".toList then
    ∃ recurso, lista[0]? = some recurso ∧ encontrarColaRecurso cfg recurso = none
  else True

/-- A `SIGNAL` of a resource for which nobody waits: its counter is not negative. -/
def SignalLibre (cfg : KernelConfiguracion) (k : Estado) (lista : List Cadena) (motivo : Cadena) :
    Prop :=
  stringEqualsIgnoreCase motivo "SIGNAL".toList = true ∧ ∃ recurso i,
    lista[0]? = some recurso ∧ encontrarColaRecurso cfg recurso = some i ∧
      0 ≤ k.instanciasRecurso i

/-- Nobody waits for a resource of which the process has a record. -/
def NadieEspera (cfg : KernelConfiguracion) (k : Estado) (p : ℕ) : Prop :=
  ∀ r ∈ k.listaRecursosRetenidos, r.pid = p →
    ∀ i, encontrarColaRecurso cfg r.recurso = some i → 0 ≤ k.instanciasRecurso i

variable {cfg : KernelConfiguracion} {k k₁ k' : Estado} {p n : ℕ} {lista : List Cadena}
  {motivo recurso : Cadena}

/-! ### The posts -/

/-- `sem_esperar_instruccion` has been posted `n` times, and nothing else of the clock. -/
structure Avisa (n : ℕ) (k k' : Estado) : Prop where
  termino : k'.reloj.terminoLaInstruccion = k.reloj.terminoLaInstruccion
  esperar : k'.reloj.esperarInstruccion = k.reloj.esperarInstruccion + n
  desalojo : k'.reloj.desalojoQuantum = k.reloj.desalojoQuantum
  fin : k'.finPorQuantum = k.finPorQuantum

theorem Avisa.trans {m : ℕ} (h : Avisa n k k₁) (h₁ : Avisa m k₁ k') : Avisa (n + m) k k' where
  termino := h₁.termino.trans h.termino
  esperar := by rw [h₁.esperar, h.esperar, Nat.add_assoc]
  desalojo := h₁.desalojo.trans h.desalojo
  fin := h₁.fin.trans h.fin

theorem Avisa.refl (k : Estado) : Avisa 0 k k := ⟨rfl, rfl, rfl, rfl⟩

/-- What is no concern of the clock may change. -/
theorem Avisa.congr (h : Avisa n k k₁) (hreloj : k'.reloj = k₁.reloj)
    (hfin : k'.finPorQuantum = k₁.finPorQuantum) : Avisa n k k' :=
  ⟨by rw [hreloj, h.termino], by rw [hreloj, h.esperar], by rw [hreloj, h.desalojo],
    hfin.trans h.fin⟩

theorem iniciar_avisa (cfg : KernelConfiguracion) (k : Estado) (p : ℕ) (motivo : Cadena) :
    Avisa 0 k (iniciar cfg k p motivo) := by
  unfold iniciar
  split_ifs <;> exact (Avisa.refl k).congr rfl rfl

/-- A post while the quantum lasts. -/
theorem Avisa.of_seguir (hrr : cfg.algoritmoPlanificacion.contieneRR = true)
    (hfin : k.finPorQuantum = false) (hreloj : k'.reloj = k.reloj.seguir cfg k.finPorQuantum)
    (hfin' : k'.finPorQuantum = k.finPorQuantum) : Avisa 1 k k' := by
  simp only [Reloj.seguir, hrr, hfin, and_self, if_true] at hreloj
  exact ⟨by rw [hreloj], by rw [hreloj], by rw [hreloj], hfin'⟩

/-- The eviction of a process posts once. -/
theorem desalojarPorInstruccion_avisa (hrr : cfg.algoritmoPlanificacion.contieneRR = true)
    (hfin : k.finPorQuantum = false) (hreloj : k'.reloj = (desalojarPorInstruccion cfg k).reloj)
    (hfin' : k'.finPorQuantum = k.finPorQuantum) : Avisa 1 k k' := by
  simp only [desalojarPorInstruccion, Reloj.desalojar, hrr, hfin, Bool.false_eq_true, if_false,
    if_true] at hreloj
  exact ⟨by rw [hreloj], by rw [hreloj], by rw [hreloj], hfin'⟩

/-- `wait` posts once, whether the process has to wait or not. -/
theorem wait_avisa {i : ℕ} (hrr : cfg.algoritmoPlanificacion.contieneRR = true)
    (hfin : k.finPorQuantum = false) (hi : encontrarColaRecurso cfg recurso = some i) :
    (wait cfg k recurso p).2 = false ∧ Avisa 1 k (wait cfg k recurso p).1 := by
  rcases wait_cases cfg k recurso p with ⟨hnone, -⟩ | ⟨j, k₁, -, rfl, ⟨-, heq⟩ | ⟨-, heq⟩⟩
  · rw [hi] at hnone
    cases hnone
  · rw [heq]
    exact ⟨rfl, desalojarPorInstruccion_avisa hrr hfin rfl rfl⟩
  · rw [heq]
    exact ⟨rfl, .of_seguir hrr hfin rfl rfl⟩

/-- `signal` posts only where it wakes a process. -/
theorem signal_avisa {i : ℕ} {b : Bool} (hrr : cfg.algoritmoPlanificacion.contieneRR = true)
    (hfin : k.finPorQuantum = false) (hi : encontrarColaRecurso cfg recurso = some i)
    (hs : signal cfg k recurso p = some (k', b)) :
    b = false ∧ Avisa (if k.instanciasRecurso i < 0 then 1 else 0) k k' ∧
      k'.instanciasRecurso = Function.update k.instanciasRecurso i (k.instanciasRecurso i + 1) ∧
      k'.listaRecursosRetenidos =
        k.listaRecursosRetenidos.eraseP (RecursosRetenidos.concuerda recurso p) := by
  rcases signal_cases hs with ⟨hnone, -, -⟩ | ⟨j, k₁, hj, hb, hk₁, hquitar⟩
  · rw [hi] at hnone
    cases hnone
  rw [hi] at hj
  cases hj
  obtain ⟨-, rfl⟩ := quitar_eq_some hquitar
  refine ⟨hb, ?_⟩
  rcases hk₁ with ⟨hespera, hdes⟩ | ⟨hlibre, rfl⟩
  · obtain ⟨hinst, hlista, -⟩ := desbloquear_recursos hdes
    obtain ⟨q, k₂, hd, rfl⟩ := desbloquear_eq_some hdes
    obtain ⟨c, -, rfl⟩ := desencolar_eq_some hd
    rw [if_pos (by omega)]
    refine ⟨?_, hinst, by rw [hlista]⟩
    have havisa : Avisa 1 k { k with
        instanciasRecurso := Function.update k.instanciasRecurso i (k.instanciasRecurso i + 1)
        reloj := k.reloj.seguir cfg k.finPorQuantum
        cola := Function.update k.cola (.recurso i) c } := .of_seguir hrr hfin rfl rfl
    exact (havisa.trans (iniciar_avisa cfg _ q _)).congr rfl rfl
  · rw [if_neg (by omega)]
    exact ⟨(Avisa.refl k).congr rfl rfl, rfl, rfl⟩

/-! ### The end of a process -/

/-- Once a resource has been returned without waking anybody, the same resources are waited for. -/
theorem nadieEspera_congr {i : ℕ} (hi : encontrarColaRecurso cfg recurso = some i)
    (hlibre : 0 ≤ k.instanciasRecurso i)
    (hinst : k₁.instanciasRecurso =
      Function.update k.instanciasRecurso i (k.instanciasRecurso i + 1))
    (hlista : k₁.listaRecursosRetenidos =
      k.listaRecursosRetenidos.eraseP (RecursosRetenidos.concuerda recurso p)) :
    NadieEspera cfg k₁ p ↔ NadieEspera cfg k p := by
  constructor
  · intro h r hr hp j hj
    by_cases hji : j = i
    · rwa [hji]
    · have hr₁ : r ∈ k₁.listaRecursosRetenidos := by
        rw [hlista, List.mem_eraseP_of_neg]
        · exact hr
        · intro hcon
          rw [encontrarColaRecurso_congr (concuerda_iff.1 hcon).1, hi] at hj
          exact hji (Option.some.inj hj).symm
      have hle := h r hr₁ hp j hj
      rwa [hinst, Function.update_of_ne hji] at hle
  · intro h r hr hp j hj
    rw [hlista] at hr
    rw [hinst, Function.update_apply]
    split_ifs
    · omega
    · exact h r (List.mem_of_mem_eraseP hr) hp j hj

/-- The release of the resources posts once for each process that it wakes: not at all exactly when
nobody waits for them. -/
theorem liberarRecursosDesde_avisa (hrr : cfg.algoritmoPlanificacion.contieneRR = true)
    (hfin : k.finPorQuantum = false) {fuel : ℕ}
    (h : liberarRecursosDesde cfg p fuel k = some k') :
    ∃ n, Avisa n k k' ∧ (n = 0 ↔ NadieEspera cfg k p) := by
  refine liberarRecursosDesde_elim (P := fun k k' => k.finPorQuantum = false →
    ∃ n, Avisa n k k' ∧ (n = 0 ↔ NadieEspera cfg k p)) ?_ ?_ h hfin
  · intro k hnone _
    have hvacia : NadieEspera cfg k p := fun r hr hp =>
      absurd (decide_eq_true hp) (List.find?_eq_none.1 hnone r hr)
    exact ⟨0, .refl k, by simp [hvacia]⟩
  · intro k k₁ k' b r hr hs ih hfin
    cases hi : encontrarColaRecurso cfg r.recurso with
    | none =>
      rcases signal_cases hs with ⟨-, rfl, -⟩ | ⟨i, -, hj, -⟩
      · exact ih hfin
      · rw [hi] at hj
        cases hj
    | some i =>
      obtain ⟨-, havisa, hinst, hlista⟩ := signal_avisa hrr hfin hi hs
      obtain ⟨n, hn, hiff⟩ := ih (havisa.fin.trans hfin)
      refine ⟨_, havisa.trans hn, ?_⟩
      split_ifs with hespera
      · refine ⟨fun h => by omega, fun h => ?_⟩
        have hrp : r.pid = p := by simpa using List.find?_some hr
        have hle := h r (List.mem_of_find?_eq_some hr) hrp i hi
        omega
      · rw [Nat.zero_add, hiff, nadieEspera_congr hi (by omega) hinst hlista]

/-- The end of a process posts once, and once more for each process that it wakes. -/
theorem terminar_avisa (hrr : cfg.algoritmoPlanificacion.contieneRR = true)
    (hfin : k.finPorQuantum = false) (h : terminar cfg k p noCumplio motivo = some k') :
    ∃ n, Avisa (n + 1) k k' ∧ (n = 0 ↔ NadieEspera cfg k p) := by
  obtain ⟨k₁, hx, rfl⟩ := terminar_eq_some h
  obtain ⟨k₂, hl, rfl⟩ := exitPrima_eq_some hx
  have hdes : Avisa 1 k (desalojarPorInstruccion cfg k) :=
    desalojarPorInstruccion_avisa hrr hfin rfl rfl
  obtain ⟨n, hn, hiff⟩ := liberarRecursosDesde_avisa hrr (hdes.fin.trans hfin) hl
  exact ⟨n, Nat.add_comm 1 n ▸ (hdes.trans hn).congr rfl rfl, hiff⟩

/-! ### The instruction -/

theorem not_signalLibre (h : stringEqualsIgnoreCase motivo "SIGNAL".toList = false) :
    ¬ SignalLibre cfg k lista motivo := by
  rintro ⟨hs, -⟩
  rw [h] at hs
  cases hs

theorem signalLibre_iff {i : ℕ} (hs : stringEqualsIgnoreCase motivo "SIGNAL".toList = true)
    (hr : lista[0]? = some recurso) (hi : encontrarColaRecurso cfg recurso = some i) :
    SignalLibre cfg k lista motivo ↔ 0 ≤ k.instanciasRecurso i := by
  constructor
  · rintro ⟨-, recurso', j, hr', hj, hle⟩
    rw [hr] at hr'
    cases hr'
    rw [hi] at hj
    cases hj
    exact hle
  · exact fun hle => ⟨hs, recurso, i, hr, hi, hle⟩

theorem termina_io_iff (cfg : KernelConfiguracion) (k : Estado) {interfaz : Cadena}
    (hio : stringContains motivo "IO".toList = true) (hr : lista[0]? = some interfaz) :
    Termina cfg k lista motivo ↔ cumpleInterfaz k interfaz motivo = some false := by
  rw [Termina, if_pos hio]
  constructor
  · rintro ⟨interfaz', hr', hcumple⟩
    rw [hr] at hr'
    cases hr'
    exact hcumple
  · exact fun hcumple => ⟨interfaz, hr, hcumple⟩

theorem termina_recurso_iff (cfg : KernelConfiguracion) (k : Estado)
    (hio : ¬ stringContains motivo "IO".toList = true)
    (h : stringEqualsIgnoreCase motivo "WAIT".toList = true ∨
      stringEqualsIgnoreCase motivo "SIGNAL".toList = true) (hr : lista[0]? = some recurso) :
    Termina cfg k lista motivo ↔ encontrarColaRecurso cfg recurso = none := by
  rw [Termina, if_neg hio, if_pos h]
  constructor
  · rintro ⟨recurso', hr', hnone⟩
    rw [hr] at hr'
    cases hr'
    exact hnone
  · exact fun hnone => ⟨recurso, hr, hnone⟩

/-- What the instruction of a syscall leaves: nothing done and a process that ends, or the post of
the syscall, which is missing only after a `SIGNAL` that wakes nobody. -/
inductive Avisado (cfg : KernelConfiguracion) (k : Estado) (lista : List Cadena)
    (motivo : Cadena) : Estado × Bool × Bool → Prop
  | termina (a b : Bool) (htermina : Termina cfg k lista motivo)
      (hsignal : ¬ SignalLibre cfg k lista motivo)
      (hexit : (motivoDeExit a b motivo).isSome = true) : Avisado cfg k lista motivo (k, a, b)
  | sigue (k₁ : Estado) (n : ℕ) (htermina : ¬ Termina cfg k lista motivo)
      (hexit : motivoDeExit false false motivo = none) (havisa : Avisa n k k₁)
      (hsignal : n = 1 ↔ ¬ SignalLibre cfg k lista motivo) :
      Avisado cfg k lista motivo (k₁, false, false)

/-- A request of an interface, which blocks the process or ends it. -/
theorem atenderIo_avisado {r : Estado × Bool × Bool}
    (hrr : cfg.algoritmoPlanificacion.contieneRR = true) (hfin : k.finPorQuantum = false)
    (hio : stringContains motivo "IO".toList = true)
    (h : atenderInstruccion cfg k lista p motivo = some r) : Avisado cfg k lista motivo r := by
  rw [atenderInstruccion, if_pos hio] at h
  obtain ⟨interfaz, hinterfaz, h⟩ := Option.bind_eq_some_iff.1 h
  obtain ⟨cumple, hcumple, h⟩ := Option.bind_eq_some_iff.1 h
  have htermina := termina_io_iff cfg k hio hinterfaz
  have hsignal : ¬ SignalLibre cfg k lista motivo := by
    apply not_signalLibre
    cases heq : stringEqualsIgnoreCase motivo "SIGNAL".toList with
    | false => rfl
    | true => rw [not_stringContains_of_equals heq (by decide)] at hio; cases hio
  rw [hcumple] at htermina
  cases cumple with
  | true =>
    obtain ⟨k₁, hb, rfl⟩ := Option.map_eq_some_iff.1 h
    obtain ⟨i, mensajes, -, -, rfl⟩ := bloquearPorIo_eq_some hb
    refine .sigue _ 1 (by simp [htermina]) (motivoDeExit_of_io hio)
      (desalojarPorInstruccion_avisa hrr hfin rfl rfl) ?_
    exact ⟨fun _ => hsignal, fun _ => rfl⟩
  | false =>
    cases h
    exact .termina _ _ (htermina.2 rfl) hsignal rfl

/-- `WAIT`, which takes an instance, waits for one, or ends the process. -/
theorem atenderWait_avisado {r : Estado × Bool × Bool}
    (hrr : cfg.algoritmoPlanificacion.contieneRR = true) (hfin : k.finPorQuantum = false)
    (hio : ¬ stringContains motivo "IO".toList = true)
    (hwait : stringEqualsIgnoreCase motivo "WAIT".toList = true)
    (h : atenderInstruccion cfg k lista p motivo = some r) : Avisado cfg k lista motivo r := by
  rw [atenderInstruccion, if_neg hio, if_pos hwait] at h
  obtain ⟨recurso, hrecurso, rfl⟩ := Option.map_eq_some_iff.1 h
  have htermina := termina_recurso_iff cfg k hio (Or.inl hwait) hrecurso
  have hsignal : ¬ SignalLibre cfg k lista motivo :=
    not_signalLibre (not_stringEquals_of_equals hwait (by decide))
  cases hi : encontrarColaRecurso cfg recurso with
  | none =>
    have hw : wait cfg k recurso p = (k, true) := by simp only [wait, hi]
    rw [hw]
    exact .termina _ _ (htermina.2 hi) hsignal rfl
  | some i =>
    obtain ⟨hfalse, havisa⟩ := wait_avisa (p := p) hrr hfin hi
    rw [hfalse]
    refine .sigue _ 1 (by simp [htermina, hi]) (motivoDeExit_eq_none ?_ ?_ ?_) havisa
      ⟨fun _ => hsignal, fun _ => rfl⟩ <;>
      exact not_stringEquals_of_equals hwait (by decide)

/-- `SIGNAL`, which returns an instance or ends the process. -/
theorem atenderSignal_avisado {r : Estado × Bool × Bool}
    (hrr : cfg.algoritmoPlanificacion.contieneRR = true) (hfin : k.finPorQuantum = false)
    (hio : ¬ stringContains motivo "IO".toList = true)
    (hwait : ¬ stringEqualsIgnoreCase motivo "WAIT".toList = true)
    (hsig : stringEqualsIgnoreCase motivo "SIGNAL".toList = true)
    (h : atenderInstruccion cfg k lista p motivo = some r) : Avisado cfg k lista motivo r := by
  rw [atenderInstruccion, if_neg hio, if_neg hwait, if_pos hsig] at h
  obtain ⟨recurso, hrecurso, h⟩ := Option.bind_eq_some_iff.1 h
  obtain ⟨⟨k₁, noCumplio⟩, hs, rfl⟩ := Option.map_eq_some_iff.1 h
  have htermina := termina_recurso_iff cfg k hio (Or.inr hsig) hrecurso
  cases hi : encontrarColaRecurso cfg recurso with
  | none =>
    rcases signal_cases hs with ⟨-, rfl, rfl⟩ | ⟨i, -, hj, -⟩
    · refine .termina _ _ (htermina.2 hi) ?_ rfl
      rintro ⟨-, recurso', i, hrecurso', hj, -⟩
      rw [hrecurso] at hrecurso'
      cases hrecurso'
      rw [hi] at hj
      cases hj
    · rw [hi] at hj
      cases hj
  | some i =>
    obtain ⟨rfl, havisa, -, -⟩ := signal_avisa hrr hfin hi hs
    refine .sigue _ _ (by simp [htermina, hi]) (motivoDeExit_eq_none ?_ ?_ ?_) havisa ?_
    · exact not_stringEquals_of_equals hsig (by decide)
    · exact not_stringEquals_of_equals hsig (by decide)
    · exact not_stringEquals_of_equals hsig (by decide)
    · rw [signalLibre_iff hsig hrecurso hi, not_le]
      split_ifs with hlt
      · exact ⟨fun _ => hlt, fun _ => rfl⟩
      · exact ⟨fun h => (by cases h), fun h => absurd h hlt⟩

theorem motivoDeExit_isSome {a b : Bool}
    (h : stringEqualsIgnoreCase motivo "EXIT".toList = true ∨
      stringEqualsIgnoreCase motivo "OUT_OF_MEMORY".toList = true ∨
      stringEqualsIgnoreCase motivo "DENIED_ACCESS".toList = true) :
    (motivoDeExit a b motivo).isSome = true := by
  unfold motivoDeExit
  split_ifs with h1 h2 h3
  · rfl
  · rfl
  · rfl
  · rcases h with h | h | h
    · exact absurd (Or.inr (Or.inr h)) h3
    · exact absurd (Or.inl h) h3
    · exact absurd (Or.inr (Or.inl h)) h3

/-- The instruction of a syscall. -/
theorem EsSyscall.avisado {r : Estado × Bool × Bool} (hsys : EsSyscall motivo)
    (hrr : cfg.algoritmoPlanificacion.contieneRR = true) (hfin : k.finPorQuantum = false)
    (h : atenderInstruccion cfg k lista p motivo = some r) : Avisado cfg k lista motivo r := by
  by_cases hio : stringContains motivo "IO".toList = true
  · exact atenderIo_avisado hrr hfin hio h
  by_cases hwait : stringEqualsIgnoreCase motivo "WAIT".toList = true
  · exact atenderWait_avisado hrr hfin hio hwait h
  by_cases hsig : stringEqualsIgnoreCase motivo "SIGNAL".toList = true
  · exact atenderSignal_avisado hrr hfin hio hwait hsig h
  -- the three that ask for the end
  rw [atenderInstruccion, if_neg hio, if_neg hwait, if_neg hsig] at h
  cases h
  refine .termina _ _ ?_ (fun hs => hsig hs.1) (motivoDeExit_isSome ?_)
  · rw [Termina, if_neg hio, if_neg (not_or.2 ⟨hwait, hsig⟩)]
    trivial
  · rcases hsys with hs | hs | hs | hs
    · exact absurd hs hio
    · exact absurd hs hwait
    · exact absurd hs hsig
    · exact hs

/-! ### The handler -/

theorem EsSyscall.not_quantum (hsys : EsSyscall motivo) :
    stringEqualsIgnoreCase motivo "QUANTUM".toList = false := by
  rcases hsys with hs | hs | hs | hs | hs | hs
  · cases heq : stringEqualsIgnoreCase motivo "QUANTUM".toList with
    | false => rfl
    | true => rw [not_stringContains_of_equals heq (by decide)] at hs; cases hs
  all_goals exact not_stringEquals_of_equals hs (by decide)

/-- What the handler of a syscall has posted once it comes back. -/
theorem EsSyscall.equilibra_iff (hsys : EsSyscall motivo)
    (hrr : cfg.algoritmoPlanificacion.contieneRR = true) (hfin : k.finPorQuantum = false)
    (h : atenderSolicitudCpu cfg k lista p motivo = some k') :
    Equilibra k.reloj k'.reloj ↔
      ¬ SignalLibre cfg k lista motivo ∧ (Termina cfg k lista motivo → NadieEspera cfg k p) := by
  simp only [atenderSolicitudCpu, hsys.not_quantum, Bool.false_eq_true, if_false] at h
  obtain ⟨k₀, hk₀⟩ : ∃ k₀ : Estado, k₀ =
    { k with reloj := k.reloj.empezar cfg k.finPorQuantum, colaExec := [p] } := ⟨_, rfl⟩
  rw [← hk₀] at h
  have hfin₀ : k₀.finPorQuantum = false := by rw [hk₀]; exact hfin
  have htermina₀ : Termina cfg k₀ lista motivo ↔ Termina cfg k lista motivo := by rw [hk₀]; rfl
  have hsignal₀ : SignalLibre cfg k₀ lista motivo ↔ SignalLibre cfg k lista motivo := by
    rw [hk₀]; rfl
  have hespera₀ : NadieEspera cfg k₀ p ↔ NadieEspera cfg k p := by rw [hk₀]; rfl
  -- `termino_la_instruccion` is posted at the start: the balance is that of the other semaphore
  have hcuenta : ∀ {n : ℕ}, Avisa n k₀ k' → (Equilibra k.reloj k'.reloj ↔ n = 1) := by
    rintro n ⟨htermino, hesperar, hdesalojo, -⟩
    simp only [hk₀, Reloj.empezar, hrr, hfin, and_self, if_true] at htermino hesperar hdesalojo
    refine ⟨fun heq => by have hesp := heq.esperar; omega, ?_⟩
    rintro rfl
    refine ⟨htermino, hesperar, ?_⟩
    rw [habilitacionInstruccion, if_neg (by omega)]
    simp [htermino, hesperar, hdesalojo]
  rw [← htermina₀, ← hsignal₀, ← hespera₀]
  obtain ⟨r, hins, hres⟩ := Option.bind_eq_some_iff.1 h
  cases hsys.avisado hrr hfin₀ hins with
  | termina a b htermina hsignal hexit =>
    obtain ⟨motivo', hr⟩ := Option.isSome_iff_exists.1 hexit
    dsimp only at hres
    rw [hr] at hres
    obtain ⟨n, hn, hiff⟩ := terminar_avisa hrr hfin₀ hres
    rw [hcuenta hn, Nat.add_eq_right, hiff]
    exact ⟨fun h => ⟨hsignal, fun _ => h⟩, fun h => h.2 htermina⟩
  | sigue k₁ n htermina hexit havisa hsignal =>
    dsimp only at hres
    rw [hexit] at hres
    cases hres
    rw [hcuenta havisa, hsignal]
    exact ⟨fun h => ⟨h, fun ht => absurd ht htermina⟩, fun h => h.1⟩

/-- **The handshake with the quantum clock**: while the quantum lasts, the handler of a syscall of a
process that waits for no resource comes back and posts once for each wait of the clock exactly when
it is not a `SIGNAL` that wakes nobody, for which the clock is left stopped, and, where it ends the
process, nobody waits for what the process holds: each process that is woken leaves a permit that
nobody takes. -/
theorem atenderSolicitudCpu_equilibra_iff (cfg : KernelConfiguracion) (k : Estado)
    (lista : List Cadena) (p : ℕ) (motivo : Cadena)
    (hrr : cfg.algoritmoPlanificacion.contieneRR = true) (hfin : k.finPorQuantum = false)
    (hsys : EsSyscall motivo) (hc : Contados cfg k) (hp : ∀ i, p ∉ k.cola (.recurso i)) :
    (∃ k', atenderSolicitudCpu cfg k lista p motivo = some k' ∧ Equilibra k.reloj k'.reloj) ↔
      SyscallAtendible cfg k lista p motivo ∧ ¬ SignalLibre cfg k lista motivo ∧
        (Termina cfg k lista motivo → NadieEspera cfg k p) := by
  constructor
  · rintro ⟨k', h, heq⟩
    exact ⟨(hc.atenderSolicitudCpu_isSome_iff hp hsys.not_quantum).1 ⟨k', h⟩,
      (hsys.equilibra_iff hrr hfin h).1 heq⟩
  · rintro ⟨hatendible, hcond⟩
    obtain ⟨k', h⟩ := (hc.atenderSolicitudCpu_isSome_iff hp hsys.not_quantum).2 hatendible
    exact ⟨k', h, (hsys.equilibra_iff hrr hfin h).2 hcond⟩

/-- A `WAIT` that is granted under RR. -/
theorem atenderSolicitudCpu_equilibra_wait :
    ∃ k k', run (paso ⟨.RR, [("RA".toList, 1)], 1⟩) (Estado.inicial ⟨.RR, [("RA".toList, 1)], 1⟩)
        [.iniciarProceso [], .administrarProcesosNew, .iniciarPlanificacion,
          .replanificar "NEW".toList] = some k ∧
      atenderSolicitudCpu ⟨.RR, [("RA".toList, 1)], 1⟩ k ["RA".toList] 1 "WAIT".toList = some k' ∧
      Equilibra k.reloj k'.reloj := by
  obtain ⟨k, hrun, hfin, hest, hlista⟩ : ∃ k, run (paso ⟨.RR, [("RA".toList, 1)], 1⟩)
      (Estado.inicial ⟨.RR, [("RA".toList, 1)], 1⟩)
      [.iniciarProceso [], .administrarProcesosNew, .iniciarPlanificacion,
        .replanificar "NEW".toList] = some k ∧ k.finPorQuantum = false ∧
      k.estado 1 = some .exec ∧ k.listaRecursosRetenidos = [] := ⟨_, rfl, rfl, rfl, rfl⟩
  obtain ⟨hu, hc⟩ := contados_of_reachable ⟨_, hrun⟩
  have hatendible : SyscallAtendible ⟨.RR, [("RA".toList, 1)], 1⟩ k ["RA".toList] 1
      "WAIT".toList := by
    rw [SyscallAtendible, if_neg (by decide), if_pos (by decide)]
    exact List.cons_ne_nil _ _
  obtain ⟨k', h, heq⟩ := (atenderSolicitudCpu_equilibra_iff ⟨.RR, [("RA".toList, 1)], 1⟩ k
    ["RA".toList] 1 "WAIT".toList rfl hfin (Or.inr (Or.inl (by decide))) hc
    fun i => (hu.apartar hest).notMem_cola (Finset.mem_insert_self 1 ∅) _).2
      ⟨hatendible, not_signalLibre (by decide), fun _ r hr => by simp [hlista] at hr⟩
  exact ⟨k, k', hrun, h, heq⟩

/-- Under RR, a `SIGNAL` that wakes nobody leaves the clock stopped, and an `EXIT` that wakes a
process leaves a permit too many. -/
theorem atenderSolicitudCpu_desequilibra :
    (∃ k k', run (paso ⟨.RR, [("RA".toList, 1)], 1⟩) (Estado.inicial ⟨.RR, [("RA".toList, 1)], 1⟩)
        [.iniciarProceso [], .administrarProcesosNew, .iniciarPlanificacion,
          .replanificar "NEW".toList, .paquete "WAIT".toList ["RA".toList]] = some k ∧
      k.finPorQuantum = false ∧
      atenderSolicitudCpu ⟨.RR, [("RA".toList, 1)], 1⟩ k ["RA".toList] 1 "SIGNAL".toList =
        some k' ∧
      k'.reloj.terminoLaInstruccion = k.reloj.terminoLaInstruccion + 1 ∧
      k'.reloj.esperarInstruccion = k.reloj.esperarInstruccion ∧
      ¬ Equilibra k.reloj k'.reloj) ∧
    ∃ k k', run (paso ⟨.RR, [("RA".toList, 1)], 2⟩) (Estado.inicial ⟨.RR, [("RA".toList, 1)], 2⟩)
        [.iniciarProceso [], .iniciarProceso [], .iniciarPlanificacion, .administrarProcesosNew,
          .replanificar "NEW".toList, .enviarACpu, .administrarProcesosNew,
          .paquete "WAIT".toList ["RA".toList], .paquete "QUANTUM".toList [],
          .replanificar "QUANTUM".toList, .enviarACpu, .paquete "WAIT".toList ["RA".toList],
          .finInstruccion, .replanificar "WAIT".toList, .enviarACpu] = some k ∧
      k.finPorQuantum = false ∧
      atenderSolicitudCpu ⟨.RR, [("RA".toList, 1)], 2⟩ k [] 1 "EXIT".toList = some k' ∧
      k'.reloj.terminoLaInstruccion = k.reloj.terminoLaInstruccion + 1 ∧
      k'.reloj.esperarInstruccion = k.reloj.esperarInstruccion + 2 ∧
      ¬ Equilibra k.reloj k'.reloj := by
  refine ⟨⟨_, _, rfl, rfl, rfl, rfl, rfl, fun h => ?_⟩,
    ⟨_, _, rfl, rfl, rfl, rfl, rfl, fun h => ?_⟩⟩
  · exact absurd h.esperar (by decide)
  · exact absurd h.esperar (by decide)

end SimuladorSO.Kernel
