import SimuladorSO.Kernel.Pasos
import SimuladorSO.Library.Counting

/-!
# The resources

Each resource is a counting semaphore whose takers are recorded in `lista_recursos_retenidos`, with
a first-in first-out queue of waiters.

* `Contados`: for every resource, the counter, the records and the queue agree, and every waiter
  has a record;
* `signal_completa`, `liberarRecursos_completa`: what returns a recorded instance comes back;
* `recursos_contados`: over every run, with the order in which the waiters are woken.
-/

namespace SimuladorSO.Kernel

open Queues Counting Transitions Commons

/-- The instances that the configuration gives to a resource. -/
def instanciasIniciales (cfg : KernelConfiguracion) (i : ℕ) : ℤ := (cfg.recursos[i]?).elim 0 Prod.snd

/-- The record is for the resource with this index. -/
def RecursosRetenidos.esDe (cfg : KernelConfiguracion) (i : ℕ) (r : RecursosRetenidos) : Bool :=
  encontrarColaRecurso cfg r.recurso == some i

/-- The number of records for a resource. -/
def Estado.retenidos (cfg : KernelConfiguracion) (k : Estado) (i : ℕ) : ℕ :=
  k.listaRecursosRetenidos.countP (RecursosRetenidos.esDe cfg i)

/-- Counters, records and queues of the resources agree. -/
structure Contados (cfg : KernelConfiguracion) (k : Estado) : Prop where
  contados : ∀ i, Counted (instanciasIniciales cfg i) (k.instanciasRecurso i) (k.retenidos cfg i)
    (k.cola (.recurso i)).length
  existen : ∀ r ∈ k.listaRecursosRetenidos, (encontrarColaRecurso cfg r.recurso).isSome = true
  esperan : ∀ i, ∀ p ∈ k.cola (.recurso i), ∃ r ∈ k.listaRecursosRetenidos,
    r.pid = p ∧ encontrarColaRecurso cfg r.recurso = some i

/-- The resources have not changed. -/
structure MismosRecursos (k k' : Estado) : Prop where
  instancias : k'.instanciasRecurso = k.instanciasRecurso
  lista : k'.listaRecursosRetenidos = k.listaRecursosRetenidos
  colas : ∀ i, k'.cola (.recurso i) = k.cola (.recurso i)

variable {cfg : KernelConfiguracion} {k k' : Estado} {p i : ℕ} {l : Lugar}
  {recurso : Cadena} {lista : List RecursosRetenidos}

theorem Contados.congr (h : Contados cfg k) (hm : MismosRecursos k k') : Contados cfg k' := by
  obtain ⟨hinst, hlista, hcolas⟩ := hm
  refine ⟨fun i => ?_, by rw [hlista]; exact h.existen, fun i => ?_⟩
  · rw [hinst, hcolas, Estado.retenidos, hlista]
    exact h.contados i
  · rw [hcolas, hlista]
    exact h.esperan i

theorem contados_inicial (cfg : KernelConfiguracion) : Contados cfg (Estado.inicial cfg) where
  contados i := Counted.start (instanciasIniciales cfg i)
  existen r hr := by cases hr
  esperan i p hp := by cases hp

/-- A queue that is not of a resource changes. -/
theorem MismosRecursos.of_update {c : List ℕ} (hinst : k'.instanciasRecurso = k.instanciasRecurso)
    (hlista : k'.listaRecursosRetenidos = k.listaRecursosRetenidos)
    (hcola : k'.cola = Function.update k.cola l c) (hl : ∀ j, Lugar.recurso j ≠ l) :
    MismosRecursos k k' :=
  ⟨hinst, hlista, fun j => by rw [hcola, Function.update_of_ne (hl j)]⟩

theorem MismosRecursos.trans {k₁ : Estado} (h : MismosRecursos k k₁) (h₁ : MismosRecursos k₁ k') :
    MismosRecursos k k' :=
  ⟨h₁.instancias.trans h.instancias, h₁.lista.trans h.lista,
    fun j => (h₁.colas j).trans (h.colas j)⟩

/-! ### Names and records -/

/-- Names that are equal but for case are of the same resource. -/
theorem encontrarColaRecurso_congr {a b : Cadena} (h : stringEqualsIgnoreCase a b = true) :
    encontrarColaRecurso cfg a = encontrarColaRecurso cfg b := by
  simp [encontrarColaRecurso, stringEqualsIgnoreCase_congr h]

/-- Names of the same resource are equal but for case. -/
theorem equals_of_encontrarColaRecurso {a b : Cadena} (ha : encontrarColaRecurso cfg a = some i)
    (hb : encontrarColaRecurso cfg b = some i) : stringEqualsIgnoreCase a b = true := by
  obtain ⟨h1, ha, -⟩ := List.findIdx?_eq_some_iff_getElem.1 ha
  obtain ⟨h2, hb, -⟩ := List.findIdx?_eq_some_iff_getElem.1 hb
  rw [← stringEqualsIgnoreCase_congr hb]
  exact stringEqualsIgnoreCase_symm ha

theorem concuerda_iff {r : RecursosRetenidos} :
    RecursosRetenidos.concuerda recurso p r = true ↔
      stringEqualsIgnoreCase r.recurso recurso = true ∧ r.pid = p := by
  simp [RecursosRetenidos.concuerda]

/-- One record of a process and a resource is taken away. -/
theorem countP_eraseP (hi : encontrarColaRecurso cfg recurso = some i)
    (hany : lista.any (RecursosRetenidos.concuerda recurso p) = true) (j : ℕ) :
    lista.countP (RecursosRetenidos.esDe cfg j) =
      (lista.eraseP (RecursosRetenidos.concuerda recurso p)).countP
        (RecursosRetenidos.esDe cfg j) + if j = i then 1 else 0 := by
  obtain ⟨r, hr, hcon⟩ := List.any_eq_true.1 hany
  obtain ⟨a, l₁, l₂, -, ha, heq, herase⟩ := List.exists_of_eraseP hr hcon
  have hde : RecursosRetenidos.esDe cfg j a = decide (j = i) := by
    rw [RecursosRetenidos.esDe, encontrarColaRecurso_congr (concuerda_iff.1 ha).1, hi]
    by_cases hj : j = i
    · simp [hj]
    · simp [hj, Ne.symm hj]
  rw [herase, heq]
  rcases eq_or_ne j i with rfl | hj
  · simp [hde, Nat.add_assoc]
  · simp [hde, hj]

/-! ### Frames -/

/-- `iniciar` leaves the resources as they are. -/
theorem iniciar_mismosRecursos (cfg : KernelConfiguracion) (k : Estado) (p : ℕ) (motivo : Cadena) :
    MismosRecursos k (iniciar cfg k p motivo) := by
  obtain ⟨l, e, -, hl, hcola, -⟩ := iniciar_cases cfg k p motivo
  refine ⟨by unfold iniciar; split_ifs <;> rfl, by unfold iniciar; split_ifs <;> rfl, fun i => ?_⟩
  rw [hcola, Function.update_of_ne]
  rcases hl with rfl | rfl <;> simp

theorem recibirMensajeCpu_mismosRecursos (k : Estado) : MismosRecursos k (recibirMensajeCpu k).1 := by
  unfold recibirMensajeCpu
  split_ifs <;> exact ⟨rfl, rfl, fun _ => rfl⟩

theorem conectarInterfaz_mismosRecursos (k : Estado) (idInterfaz permitidas : Cadena)
    (conexion : ℤ) : MismosRecursos k (conectarInterfaz k idInterfaz permitidas conexion) := by
  unfold conectarInterfaz
  dsimp only
  split_ifs
  · exact ⟨rfl, rfl, fun _ => rfl⟩
  · exact .of_update (l := .io k.interfaces.length) rfl rfl rfl (by simp)

/-- What `desbloquear` does to the resources: the head of its queue leaves. -/
theorem desbloquear_recursos {motivo : Cadena} (h : desbloquear cfg k l motivo = some k') :
    k'.instanciasRecurso = k.instanciasRecurso ∧
      k'.listaRecursosRetenidos = k.listaRecursosRetenidos ∧
      ∀ j, k'.cola (.recurso j) =
        if .recurso j = l then (k.cola (.recurso j)).tail else k.cola (.recurso j) := by
  obtain ⟨q, k₁, hd, rfl⟩ := desbloquear_eq_some h
  obtain ⟨resto, hq, rfl⟩ := desencolar_eq_some hd
  obtain ⟨hinst, hlista, hcolas⟩ := iniciar_mismosRecursos cfg
    { k with cola := Function.update k.cola l resto } q motivo
  refine ⟨hinst, hlista, fun j => ?_⟩
  rw [hcolas j]
  show Function.update k.cola l resto (.recurso j) = _
  rw [Function.update_apply]
  split_ifs with hj
  · rw [hj, hq, List.tail_cons]
  · rfl

/-! ### Taking and returning instances -/

/-- The processes that are in no queue of a resource keep their records. -/
theorem mem_eraseP_of_pid {r : RecursosRetenidos} (hr : r ∈ lista) (hp : r.pid ≠ p) :
    r ∈ lista.eraseP (RecursosRetenidos.concuerda recurso p) := by
  refine (List.mem_eraseP_of_neg ?_).2 hr
  rw [concuerda_iff]
  exact fun h => hp h.2

/-- `signal` by a process that waits for no resource. -/
theorem Contados.signal {b : Bool} (h : Contados cfg k) (hp : ∀ j, p ∉ k.cola (.recurso j))
    (hs : signal cfg k recurso p = some (k', b)) :
    Contados cfg k' ∧ ∀ j, ∃ n, k'.cola (.recurso j) = (k.cola (.recurso j)).drop n := by
  rcases signal_cases hs with ⟨-, rfl, -⟩ | ⟨i, k₁, hi, -, hk₁, hquitar⟩
  · exact ⟨h, fun j => ⟨0, rfl⟩⟩
  obtain ⟨hany, rfl⟩ := quitar_eq_some hquitar
  -- the counter is one more and the queue, if it is one of waiters, loses its head
  have hinst : k₁.instanciasRecurso =
      Function.update k.instanciasRecurso i (k.instanciasRecurso i + 1) := by
    rcases hk₁ with ⟨-, hdes⟩ | ⟨-, rfl⟩
    · exact (desbloquear_recursos hdes).1
    · rfl
  have hlista : k₁.listaRecursosRetenidos = k.listaRecursosRetenidos := by
    rcases hk₁ with ⟨-, hdes⟩ | ⟨-, rfl⟩
    · exact (desbloquear_recursos hdes).2.1
    · rfl
  have hcolas : ∀ j, k₁.cola (.recurso j) =
      if j = i ∧ k.instanciasRecurso i + 1 ≤ 0 then (k.cola (.recurso j)).tail
      else k.cola (.recurso j) := by
    intro j
    rcases hk₁ with ⟨hle, hdes⟩ | ⟨hlt, rfl⟩
    · have hj := (desbloquear_recursos hdes).2.2 j
      simpa [hle] using hj
    · rw [if_neg (by omega)]
  rw [hlista] at hany
  refine ⟨⟨fun j => ?_, fun r hr => ?_, fun j q hq => ?_⟩, fun j => ?_⟩
  · show Counted (instanciasIniciales cfg j) (k₁.instanciasRecurso j)
      ((k₁.listaRecursosRetenidos.eraseP (RecursosRetenidos.concuerda recurso p)).countP
        (RecursosRetenidos.esDe cfg j)) (k₁.cola (.recurso j)).length
    have hcount := countP_eraseP hi hany j
    have hj := h.contados j
    rw [Estado.retenidos, hcount] at hj
    rw [hinst, hlista, hcolas, Function.update_apply]
    by_cases hji : j = i
    · subst hji
      rw [if_pos rfl] at hj ⊢
      by_cases hle : k.instanciasRecurso j + 1 ≤ 0
      · rw [if_pos ⟨rfl, hle⟩, List.length_tail]
        exact (hj.give_wake hle).2
      · rw [if_neg (by omega)]
        exact hj.give_free (by omega)
    · rw [if_neg hji, if_neg (fun h => hji h.1)]
      simpa [hji] using hj
  · exact h.existen r (hlista ▸ List.mem_of_mem_eraseP hr)
  · have hqk : q ∈ k.cola (.recurso j) := by
      have hq' : q ∈ k₁.cola (.recurso j) := hq
      rw [hcolas] at hq'
      split_ifs at hq'
      · exact List.mem_of_mem_tail hq'
      · exact hq'
    obtain ⟨r, hr, hrq, hrj⟩ := h.esperan j q hqk
    refine ⟨r, mem_eraseP_of_pid (hlista ▸ hr) ?_, hrq, hrj⟩
    rintro hrp
    exact hp j (hrp ▸ hrq ▸ hqk)
  · show ∃ n, k₁.cola (.recurso j) = _
    rw [hcolas]
    split_ifs
    · exact ⟨1, List.drop_one.symm⟩
    · exact ⟨0, rfl⟩

/-- `signal` on a resource of which the process has a record comes back. -/
theorem signal_completa (h : Contados cfg k)
    (hany : k.listaRecursosRetenidos.any (RecursosRetenidos.concuerda recurso p) = true) :
    ∃ k', signal cfg k recurso p = some (k', false) ∧ k'.listaRecursosRetenidos =
      k.listaRecursosRetenidos.eraseP (RecursosRetenidos.concuerda recurso p) := by
  obtain ⟨r, hr, hcon⟩ := List.any_eq_true.1 hany
  obtain ⟨i, hi⟩ := Option.isSome_iff_exists.1 (h.existen r hr)
  rw [encontrarColaRecurso_congr (concuerda_iff.1 hcon).1] at hi
  unfold Kernel.signal
  rw [hi]
  dsimp only
  split_ifs with hle
  · have hle' : k.instanciasRecurso i + 1 ≤ 0 := by simpa using hle
    have hcount := countP_eraseP hi hany i
    have hc := h.contados i
    rw [Estado.retenidos, hcount, if_pos rfl] at hc
    obtain ⟨q, resto, hq⟩ := List.exists_cons_of_length_pos (hc.give_wake hle').1
    generalize hk₀ : ({ k with
      instanciasRecurso := Function.update k.instanciasRecurso i (k.instanciasRecurso i + 1)
      reloj := k.reloj.seguir cfg k.finPorQuantum } : Estado) = k₀
    have hdes : ∃ k₁, desbloquear cfg k₀ (.recurso i) "LIBERACION DE RECURSOS".toList = some k₁ := by
      have hq₀ : k₀.cola (.recurso i) = q :: resto := by rw [← hk₀]; exact hq
      simp only [desbloquear, Estado.desencolar, hq₀]
      exact ⟨_, rfl⟩
    obtain ⟨k₁, hk₁⟩ := hdes
    have hlista : k₁.listaRecursosRetenidos = k.listaRecursosRetenidos := by
      rw [(desbloquear_recursos hk₁).2.1, ← hk₀]
    rw [hk₁, Option.bind_some]
    simp only [quitarDeListaRecursosRetenidos, hlista, hany, if_true]
    exact ⟨_, rfl, rfl⟩
  · simp only [Option.bind_some, quitarDeListaRecursosRetenidos, hany, if_true]
    exact ⟨_, rfl, rfl⟩

/-- `signal` looks for the record after the counter has been raised and the waiter woken. -/
theorem signal_concuerda (hi : encontrarColaRecurso cfg recurso = some i) {b : Bool}
    (hs : Kernel.signal cfg k recurso p = some (k', b)) :
    k.listaRecursosRetenidos.any (RecursosRetenidos.concuerda recurso p) = true := by
  rcases signal_cases hs with ⟨hnone, -, -⟩ | ⟨j, k₁, -, -, hk₁, hquitar⟩
  · rw [hi] at hnone
    cases hnone
  obtain ⟨hany, -⟩ := quitar_eq_some hquitar
  rcases hk₁ with ⟨-, hdes⟩ | ⟨-, rfl⟩
  · rwa [(desbloquear_recursos hdes).2.1] at hany
  · exact hany

/-- `signal` comes back for a resource that is not configured, and for one with a record. -/
theorem Contados.signal_isSome_iff (h : Contados cfg k) :
    (∃ r, Kernel.signal cfg k recurso p = some r) ↔
      encontrarColaRecurso cfg recurso = none ∨ ∃ r ∈ k.listaRecursosRetenidos,
        stringEqualsIgnoreCase r.recurso recurso = true ∧ r.pid = p := by
  simp only [← concuerda_iff, ← List.any_eq_true]
  cases hi : encontrarColaRecurso cfg recurso with
  | none =>
    refine iff_of_true ⟨(k, true), ?_⟩ (Or.inl rfl)
    simp only [Kernel.signal, hi]
  | some i =>
    constructor
    · rintro ⟨⟨k', b⟩, hs⟩
      exact Or.inr (signal_concuerda hi hs)
    · rintro (hnone | hany)
      · cases hnone
      · obtain ⟨k', hs, -⟩ := signal_completa h hany
        exact ⟨_, hs⟩

/-- Queues that only lost processes hold none that was not there. -/
theorem notMem_of_drop {k₁ : Estado} (hp : ∀ j, p ∉ k.cola (.recurso j))
    (hdrop : ∀ j, ∃ n, k₁.cola (.recurso j) = (k.cola (.recurso j)).drop n) (j : ℕ) :
    p ∉ k₁.cola (.recurso j) := by
  intro hj
  obtain ⟨n, hn⟩ := hdrop j
  rw [hn] at hj
  exact hp j (List.mem_of_mem_drop hj)

/-- `liberar_recursos` of a process that waits for no resource. -/
theorem Contados.liberarRecursos (h : Contados cfg k) (hp : ∀ j, p ∉ k.cola (.recurso j))
    (hl : liberarRecursos cfg k p = some k') :
    Contados cfg k' ∧ ∀ j, ∃ n, k'.cola (.recurso j) = (k.cola (.recurso j)).drop n := by
  refine liberarRecursosDesde_induct
    (P := fun k₁ => Contados cfg k₁ ∧ ∀ j, ∃ n, k₁.cola (.recurso j) = (k.cola (.recurso j)).drop n)
    ?_ ⟨h, fun j => ⟨0, rfl⟩⟩ hl
  rintro k₁ k₂ b r ⟨h₁, hdrop⟩ - hs
  obtain ⟨h₂, hdrop₂⟩ := h₁.signal (notMem_of_drop hp hdrop) hs
  refine ⟨h₂, fun j => ?_⟩
  obtain ⟨n, hn⟩ := hdrop j
  obtain ⟨m, hm⟩ := hdrop₂ j
  exact ⟨n + m, by rw [hm, hn, List.drop_drop]⟩

/-- The loop of `liberar_recursos` ends: every turn finds its record and takes it away. -/
theorem liberarRecursosDesde_completa (h : Contados cfg k) (hp : ∀ j, p ∉ k.cola (.recurso j))
    {fuel : ℕ} (hfuel : k.listaRecursosRetenidos.length ≤ fuel) :
    ∃ k', liberarRecursosDesde cfg p fuel k = some k' := by
  induction fuel generalizing k with
  | zero =>
    have hnil : k.listaRecursosRetenidos = [] := List.length_eq_zero_iff.1 (by omega)
    exact ⟨k, by unfold liberarRecursosDesde; rw [hnil]; rfl⟩
  | succ fuel ih =>
    cases hfind : k.listaRecursosRetenidos.find? fun r => r.pid = p with
    | none => exact ⟨k, by unfold liberarRecursosDesde; rw [hfind]⟩
    | some r =>
      have hr : r ∈ k.listaRecursosRetenidos := List.mem_of_find?_eq_some hfind
      have hrp : r.pid = p := by simpa using List.find?_some hfind
      have hany : k.listaRecursosRetenidos.any (RecursosRetenidos.concuerda r.recurso p) = true :=
        List.any_eq_true.2 ⟨r, hr, concuerda_iff.2 ⟨stringEqualsIgnoreCase_self _, hrp⟩⟩
      obtain ⟨k₁, hs, hlista⟩ := signal_completa h hany
      obtain ⟨h₁, hdrop⟩ := h.signal hp hs
      have hp₁ := notMem_of_drop hp hdrop
      have hlength : k₁.listaRecursosRetenidos.length ≤ fuel := by
        have hlen := List.length_eraseP (p := RecursosRetenidos.concuerda r.recurso p)
          (l := k.listaRecursosRetenidos)
        rw [if_pos hany] at hlen
        rw [hlista]
        omega
      obtain ⟨k₂, hk₂⟩ := ih h₁ hp₁ hlength
      refine ⟨k₂, ?_⟩
      unfold liberarRecursosDesde
      simp only [hfind, hs, Option.bind_some, hk₂]

theorem liberarRecursos_completa (h : Contados cfg k) (hp : ∀ j, p ∉ k.cola (.recurso j)) :
    ∃ k', liberarRecursos cfg k p = some k' :=
  liberarRecursosDesde_completa h hp le_rfl

/-- `wait` by a process that waits for no resource. -/
theorem Contados.wait (h : Contados cfg k) (hp : ∀ j, p ∉ k.cola (.recurso j)) (recurso : Cadena)
    (quits : ℕ → Prop) :
    Contados cfg (wait cfg k recurso p).1 ∧
      ∀ j, Moves quits (k.cola (.recurso j)) ((wait cfg k recurso p).1.cola (.recurso j)) := by
  rcases wait_cases cfg k recurso p with ⟨-, heq⟩ | ⟨i, k₁, hi, rfl, hcases⟩
  · rw [heq]
    exact ⟨h, fun j => Moves.leave 0⟩
  -- the record is added whether the process waits or not
  have hcount : ∀ j, (k.listaRecursosRetenidos ++ [RecursosRetenidos.mk p recurso]).countP
      (RecursosRetenidos.esDe cfg j) = k.retenidos cfg j + if j = i then 1 else 0 := by
    intro j
    rcases eq_or_ne j i with rfl | hj
    · simp [RecursosRetenidos.esDe, Estado.retenidos, hi]
    · simp [RecursosRetenidos.esDe, Estado.retenidos, hi, hj, Ne.symm hj]
  have hcontados : ∀ j (esperan : ℕ), Counted (instanciasIniciales cfg j)
      (Function.update k.instanciasRecurso i (k.instanciasRecurso i - 1) j)
      ((k.listaRecursosRetenidos ++ [RecursosRetenidos.mk p recurso]).countP
        (RecursosRetenidos.esDe cfg j)) esperan ↔
      Counted (instanciasIniciales cfg j)
        (if j = i then k.instanciasRecurso i - 1 else k.instanciasRecurso j)
        (k.retenidos cfg j + if j = i then 1 else 0) esperan := by
    intro j esperan
    rw [hcount, Function.update_apply]
  have hexisten : ∀ r ∈ k.listaRecursosRetenidos ++ [RecursosRetenidos.mk p recurso],
      (encontrarColaRecurso cfg r.recurso).isSome = true := by
    intro r hr
    rcases List.mem_append.1 hr with hr | hr
    · exact h.existen r hr
    · rw [List.mem_singleton.1 hr]
      simp [hi]
  have hesperan : ∀ j, ∀ q ∈ k.cola (.recurso j),
      ∃ r ∈ k.listaRecursosRetenidos ++ [RecursosRetenidos.mk p recurso],
        r.pid = q ∧ encontrarColaRecurso cfg r.recurso = some j := by
    intro j q hq
    obtain ⟨r, hr, hrq⟩ := h.esperan j q hq
    exact ⟨r, List.mem_append_left _ hr, hrq⟩
  rcases hcases with ⟨hlt, heq⟩ | ⟨hge, heq⟩
  · have hcola : ∀ j, (Kernel.wait cfg k recurso p).1.cola (.recurso j) =
        if j = i then k.cola (.recurso j) ++ [p] else k.cola (.recurso j) := by
      intro j
      rw [heq]
      show Function.update k.cola (.recurso i) (k.cola (.recurso i) ++ [p]) (.recurso j) = _
      rw [Function.update_apply]
      rcases eq_or_ne j i with rfl | hj
      · simp
      · simp [hj]
    refine ⟨⟨fun j => ?_, ?_, fun j q hq => ?_⟩, fun j => ?_⟩
    · rw [hcola, heq]
      refine (hcontados j _).2 ?_
      rcases eq_or_ne j i with rfl | hj
      · simpa using (h.contados j).take_wait hlt
      · simpa [hj] using h.contados j
    · rw [heq]
      exact hexisten
    · rw [hcola] at hq
      rw [heq]
      show ∃ r ∈ k.listaRecursosRetenidos ++ [RecursosRetenidos.mk p recurso], _
      split_ifs at hq with hj
      · rcases List.mem_append.1 hq with hq | hq
        · exact hesperan j q hq
        · rw [List.mem_singleton.1 hq, hj]
          exact ⟨RecursosRetenidos.mk p recurso, by simp, rfl, hi⟩
      · exact hesperan j q hq
    · rw [hcola]
      split_ifs
      · exact Moves.enter p (hp j)
      · exact Moves.leave 0
  · rw [heq]
    refine ⟨⟨fun j => ?_, hexisten, hesperan⟩, fun j => Moves.leave 0⟩
    refine (hcontados j _).2 ?_
    rcases eq_or_ne j i with rfl | hj
    · simpa using (h.contados j).take_grant hge
    · simpa [hj] using h.contados j

/-! ### The end of a process -/

/-- `exit_prima` after the resources are returned leaves them as they are. -/
theorem Contados.exitPrima (h : Contados cfg k)
    (hp : ∀ j, p ∉ k.cola (.recurso j)) (he : exitPrima cfg k p = some k') :
    Contados cfg k' ∧ ∀ j, ∃ n, k'.cola (.recurso j) = (k.cola (.recurso j)).drop n := by
  obtain ⟨k₁, hl, rfl⟩ := exitPrima_eq_some he
  obtain ⟨h₁, hdrop⟩ := h.liberarRecursos hp hl
  have hcolas : ∀ j, Function.update k₁.cola .exit (k₁.cola .exit ++ [p]) (.recurso j) =
      k₁.cola (.recurso j) := fun j => Function.update_of_ne (by simp) _ _
  exact ⟨h₁.congr ⟨rfl, rfl, hcolas⟩, fun j => hcolas j ▸ hdrop j⟩

theorem exitPrima_completa (h : Contados cfg k) (hp : ∀ j, p ∉ k.cola (.recurso j)) :
    ∃ k', exitPrima cfg k p = some k' := by
  obtain ⟨k₁, hl⟩ := liberarRecursos_completa h hp
  exact ⟨_, by rw [Kernel.exitPrima, hl, Option.map_some]⟩

theorem Contados.terminar {noCumplio : Bool} {motivo : Cadena} (h : Contados cfg k)
    (hp : ∀ j, p ∉ k.cola (.recurso j)) (ht : terminar cfg k p noCumplio motivo = some k') :
    Contados cfg k' ∧ ∀ j, ∃ n, k'.cola (.recurso j) = (k.cola (.recurso j)).drop n := by
  obtain ⟨k₁, he, rfl⟩ := terminar_eq_some ht
  have h₀ : Contados cfg (desalojarPorInstruccion cfg k) := h.congr ⟨rfl, rfl, fun _ => rfl⟩
  obtain ⟨h₁, hdrop⟩ := h₀.exitPrima hp he
  exact ⟨h₁.congr ⟨rfl, rfl, fun _ => rfl⟩, hdrop⟩

theorem terminar_completa (h : Contados cfg k) (hp : ∀ j, p ∉ k.cola (.recurso j))
    (noCumplio : Bool) (motivo : Cadena) : ∃ k', terminar cfg k p noCumplio motivo = some k' := by
  have h₀ : Contados cfg (desalojarPorInstruccion cfg k) := h.congr ⟨rfl, rfl, fun _ => rfl⟩
  obtain ⟨k₁, he⟩ := exitPrima_completa h₀ hp
  exact ⟨_, by rw [Kernel.terminar, he, Option.map_some]⟩

/-- A process that leaves a queue that is not of a resource. -/
theorem Contados.sacarDe (h : Contados cfg k) (hu : Ubicados cfg ∅ k)
    (hs : k.sacarDe l p = some k') (hl : ∀ j, .recurso j ≠ l) : Contados cfg k' := by
  obtain ⟨-, rfl⟩ := sacarDe_eq_some (hu.colocados.nodup l) hs
  exact h.congr ⟨rfl, rfl, fun j => Function.update_of_ne (hl j) _ _⟩

/-- `encontrar_pcb`: a process that waited for a resource gives back the instance it did not get,
and its record. -/
theorem Contados.encontrarPcb (h : Contados cfg k) (hu : Ubicados cfg ∅ k)
    (he : encontrarPcb cfg k p = some k') :
    Contados cfg k' ∧ ∀ j, k'.cola (.recurso j) = (k.cola (.recurso j)).erase p := by
  have hadmitido : Contados cfg { k with semMultiprogramacion := k.semMultiprogramacion + 1 } :=
    h.congr ⟨rfl, rfl, fun _ => rfl⟩
  have hu' : Ubicados cfg ∅ { k with semMultiprogramacion := k.semMultiprogramacion + 1 } :=
    hu.congr rfl rfl rfl rfl rfl
  rcases encontrarPcb_cases he with ⟨-, hs⟩ | ⟨-, hs⟩ | ⟨-, hs⟩ | ⟨hexec, resto, -, rfl⟩ |
    ⟨i, -, hs⟩ | ⟨e, i, k₁, -, -, -, -, -, hi, hs, hq⟩
  · exact ⟨h.sacarDe hu hs (by simp), fun j => hu.cola_sacarDe hs _⟩
  · exact ⟨hadmitido.sacarDe hu' hs (by simp), fun j => hu'.cola_sacarDe hs _⟩
  · exact ⟨hadmitido.sacarDe hu' hs (by simp), fun j => hu'.cola_sacarDe hs _⟩
  · refine ⟨h.congr ⟨rfl, rfl, fun _ => rfl⟩, fun j => ?_⟩
    have hp := (hu.apartar hexec).notMem_cola (Finset.mem_insert_self p ∅) (.recurso j)
    exact (List.erase_of_not_mem hp).symm
  · have h₀ : Contados cfg { k with
        semHayProceso := Function.update k.semHayProceso i (k.semHayProceso i - 1) } :=
      h.congr ⟨rfl, rfl, fun _ => rfl⟩
    have hu₀ : Ubicados cfg ∅ { k with
        semHayProceso := Function.update k.semHayProceso i (k.semHayProceso i - 1) } :=
      hu.congr rfl rfl rfl rfl rfl
    exact ⟨h₀.sacarDe hu₀ hs (by simp), fun j => hu₀.cola_sacarDe hs _⟩
  · have hcolas := hu.cola_sacarDe hs
    obtain ⟨hp, rfl⟩ := sacarDe_eq_some (hu.colocados.nodup _) hs
    obtain ⟨hany, rfl⟩ := quitar_eq_some hq
    dsimp only at hany hcolas
    refine ⟨⟨fun j => ?_, fun r hr => h.existen r (List.mem_of_mem_eraseP hr), fun j q hq => ?_⟩,
      fun j => hcolas _⟩
    · show Counted _ (Function.update k.instanciasRecurso i (k.instanciasRecurso i + 1) j)
        ((k.listaRecursosRetenidos.eraseP (RecursosRetenidos.concuerda _ p)).countP
          (RecursosRetenidos.esDe cfg j)) (Function.update k.cola _ _ _).length
      have hj := h.contados j
      rw [Estado.retenidos, countP_eraseP hi hany j] at hj
      rw [hcolas, Function.update_apply]
      rcases eq_or_ne j i with rfl | hji
      · obtain ⟨n, hn⟩ := Nat.exists_eq_add_of_lt (List.length_pos_of_mem hp)
        rw [if_pos rfl] at hj ⊢
        rw [List.length_erase_of_mem hp]
        rw [show (k.cola (.recurso j)).length = n + 1 by omega] at hj ⊢
        exact hj.quit
      · rw [List.erase_of_not_mem]
        · simpa [hji] using hj
        · intro hpj
          exact hji (by simpa using hu.colocados.eq_of_mem hpj hp)
    · have hq' : q ∈ (k.cola (.recurso j)).erase p := by rw [← hcolas]; exact hq
      obtain ⟨r, hr, hrq, hrj⟩ := h.esperan j q (List.mem_of_mem_erase hq')
      refine ⟨r, mem_eraseP_of_pid hr ?_, hrq, hrj⟩
      rintro hrp
      rw [← hrq, hrp] at hq'
      exact (hu.colocados.nodup _).not_mem_erase hq'

theorem Contados.finalizarProceso (h : Contados cfg k) (hu : Ubicados cfg ∅ k)
    (hf : finalizarProceso cfg k p = some k') :
    Contados cfg k' ∧ ∀ j, ∃ n, k'.cola (.recurso j) = ((k.cola (.recurso j)).erase p).drop n := by
  obtain ⟨k₁, mensajes, he, hexit⟩ := finalizarProceso_eq_some hf
  obtain ⟨h₁, hcolas⟩ := h.encontrarPcb hu he
  have hp : ∀ j, p ∉ k₁.cola (.recurso j) := fun j =>
    (hu.encontrarPcb he).notMem_cola (Finset.mem_insert_self p ∅) _
  have h₂ : Contados cfg { k₁ with enviados := mensajes } := h₁.congr ⟨rfl, rfl, fun _ => rfl⟩
  obtain ⟨h₃, hdrop⟩ := h₂.exitPrima hp hexit
  refine ⟨h₃, fun j => ?_⟩
  obtain ⟨n, hn⟩ := hdrop j
  exact ⟨n, by rw [hn]; exact congrArg _ (hcolas j)⟩

/-! ### Every step -/

/-- A request of the process in EXEC. -/
theorem Contados.atenderSolicitudCpu {lista : List Cadena} {motivo : Cadena} (h : Contados cfg k)
    (hu : Ubicados cfg ∅ k) (hp : k.estado p = some .exec)
    (ha : atenderSolicitudCpu cfg k lista p motivo = some k') (quits : ℕ → Prop) :
    Contados cfg k' ∧ ∀ j, Moves quits (k.cola (.recurso j)) (k'.cola (.recurso j)) := by
  have hcolas : ∀ j, p ∉ k.cola (.recurso j) := fun j =>
    (hu.apartar hp).notMem_cola (Finset.mem_insert_self p ∅) _
  have hmismos : ∀ {k'}, MismosRecursos k k' →
      Contados cfg k' ∧ ∀ j, Moves quits (k.cola (.recurso j)) (k'.cola (.recurso j)) :=
    fun hm => ⟨h.congr hm, fun j => by rw [hm.colas]; exact Moves.leave 0⟩
  have hdrops : ∀ {k'}, (Contados cfg k' ∧
        ∀ j, ∃ n, k'.cola (.recurso j) = (k.cola (.recurso j)).drop n) →
      Contados cfg k' ∧ ∀ j, Moves quits (k.cola (.recurso j)) (k'.cola (.recurso j)) := by
    rintro k' ⟨hc, hdrop⟩
    refine ⟨hc, fun j => ?_⟩
    obtain ⟨n, hn⟩ := hdrop j
    rw [hn]
    exact Moves.leave n
  rcases atenderSolicitudCpu_cases ha with ⟨-, rfl⟩ | ⟨k₀, rfl, hcases⟩
  · exact hmismos (iniciar_mismosRecursos cfg k p motivo)
  have h₀ : Contados cfg { k with
      reloj := k.reloj.empezar cfg k.finPorQuantum, colaExec := [p] } :=
    h.congr ⟨rfl, rfl, fun _ => rfl⟩
  rcases hcases with ⟨_, _, -, ht⟩ | ⟨interfaz, -, hb⟩ | ⟨recurso, rfl⟩ | ⟨recurso, hs⟩ | rfl
  · exact hdrops (h₀.terminar hcolas ht)
  · obtain ⟨i, mensajes, -, -, rfl⟩ := bloquearPorIo_eq_some hb
    exact hmismos (.of_update (l := .io i) rfl rfl rfl (by simp))
  · exact h₀.wait hcolas recurso quits
  · exact hdrops (h₀.signal hcolas hs)
  · exact hmismos ⟨rfl, rfl, fun _ => rfl⟩

/-- Every step keeps the account of every resource, and its queue is first-in first-out but for the
processes that the user ends. -/
theorem paso_recursos (h : Contados cfg k) (hu : Ubicados cfg ∅ k) {ev : Evento}
    (hp : paso cfg k ev = some k') :
    Contados cfg k' ∧ ∀ j, Moves (fun q => ev = .finalizarProceso q) (k.cola (.recurso j))
      (k'.cola (.recurso j)) := by
  have hmismos : ∀ {k'}, MismosRecursos k k' →
      Contados cfg k' ∧ ∀ j, Moves (fun q => ev = .finalizarProceso q) (k.cola (.recurso j))
        (k'.cola (.recurso j)) :=
    fun hm => ⟨h.congr hm, fun j => by rw [hm.colas]; exact Moves.leave 0⟩
  cases ev with
  | iniciarProceso path =>
    cases hp
    exact hmismos (.of_update (l := .new) rfl rfl rfl (by simp))
  | finalizarProceso pid =>
    obtain ⟨hc, hdrop⟩ := h.finalizarProceso hu hp
    refine ⟨hc, fun j => ?_⟩
    obtain ⟨n, hn⟩ := hdrop j
    rw [hn]
    exact Moves.quit pid n rfl
  | iniciarPlanificacion =>
    cases hp
    exact hmismos ⟨rfl, rfl, fun _ => rfl⟩
  | detenerPlanificacion =>
    obtain ⟨-, rfl⟩ := detenerPlanificacion_eq_some hp
    exact hmismos ⟨rfl, rfl, fun _ => rfl⟩
  | administrarProcesosNew =>
    obtain ⟨q, k₁, pendientes, primero, -, -, hd, -, rfl⟩ := administrarProcesosNew_eq_some hp
    obtain ⟨resto, -, rfl⟩ := desencolar_eq_some hd
    have hnew : MismosRecursos k { k with cola := Function.update k.cola .new resto } :=
      .of_update (l := .new) rfl rfl rfl (by simp)
    exact hmismos (hnew.trans (.of_update (l := .ready) rfl rfl rfl (by simp)))
  | replanificar motivo =>
    obtain ⟨quantum, l, ht⟩ := replanificar_eq_some (paso_replanificar_eq_some hp).2
    obtain ⟨m, q, k₂, _, _, _, _, hm, hd, rfl⟩ := terminarReplanificacion_desencola ht
    obtain ⟨resto, -, rfl⟩ := desencolar_eq_some hd
    refine hmismos (.of_update (l := m) rfl rfl rfl fun i => ?_)
    rcases hm with rfl | rfl <;> simp
  | enviarACpu =>
    obtain ⟨-, rfl⟩ := enviarACpu_eq_some hp
    exact hmismos ⟨rfl, rfl, fun _ => rfl⟩
  | paquete motivo lista =>
    obtain ⟨pid, hpid, hr⟩ := paquete_eq_some hp
    have h₀ : Contados cfg { k with motivo := motivo } := h.congr ⟨rfl, rfl, fun _ => rfl⟩
    have hu₀ : Ubicados cfg ∅ { k with motivo := motivo } := hu.congr rfl rfl rfl rfl rfl
    exact h₀.atenderSolicitudCpu hu₀ (hu.enEjecucion_iff.1 hpid) hr _
  | finInstruccion =>
    cases hp
    exact hmismos (recibirMensajeCpu_mismosRecursos k)
  | quantum finPorQuantum =>
    cases hp
    exact hmismos ⟨rfl, rfl, fun _ => rfl⟩
  | conectarInterfaz idInterfaz permitidas conexion =>
    cases hp
    exact hmismos (conectarInterfaz_mismosRecursos k idInterfaz permitidas conexion)
  | finDeIo idInterfaz mensaje =>
    rcases finDeIo_cases hp with rfl | ⟨i, fin, -, -, hd⟩
    · exact hmismos ⟨rfl, rfl, fun _ => rfl⟩
    · obtain ⟨hinst, hlista, hcolas⟩ := desbloquear_recursos hd
      exact hmismos ⟨hinst, hlista, fun j => by rw [hcolas, if_neg (by simp)]⟩

/-- Every state of the kernel that can be reached keeps the account of every resource. -/
theorem contados_of_reachable (h : Reachable (paso cfg) (Estado.inicial cfg) k) :
    Ubicados cfg ∅ k ∧ Contados cfg k :=
  h.induct (P := fun k => Ubicados cfg ∅ k ∧ Contados cfg k)
    ⟨ubicados_inicial cfg, contados_inicial cfg⟩
    fun _ _ _ hk hstep => ⟨paso_ubicados hk.1 hstep, (paso_recursos hk.2 hk.1 hstep).1⟩

end SimuladorSO.Kernel
