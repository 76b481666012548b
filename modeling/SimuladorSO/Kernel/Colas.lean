import SimuladorSO.Kernel.Estado
import SimuladorSO.Library.Queues
import SimuladorSO.Library.Transitions

/-!
# Where each process is

`Ubicados` says that the queues hold each process once, in the queue that its state names, and that
a process in EXEC is the head of `cola_exec` and in no other queue; the stale head of `cola_exec`
after an eviction is of no account.  While a function holds processes that it has taken out of
their queues, these are listed as being outside.  Every function of the kernel keeps `Ubicados`,
so every step does, and every run.
-/

namespace SimuladorSO.Kernel

open Queues Commons

/-- The queue that a state names. -/
def lugarDe (cfg : KernelConfiguracion) (interfaces : List Cadena) : EstadoProceso → Option Lugar
  | .new => some .new
  | .ready => some .ready
  | .readyM => some .readyM
  | .exec => none
  | .block => none
  | .blockIo interfaz => (encontrarCola interfaces interfaz).map .io
  | .blockRecurso recurso => (encontrarColaRecurso cfg recurso).map .recurso
  | .exit => some .exit

/-- The queue that the state of a process names. -/
def Estado.lugar (cfg : KernelConfiguracion) (k : Estado) (pid : ℕ) : Option Lugar :=
  (k.estado pid).bind (lugarDe cfg k.interfaces)

/-- Every created process is where its state says, but for those outside the queues. -/
structure Ubicados (cfg : KernelConfiguracion) (fuera : Finset ℕ) (k : Estado) : Prop where
  creados : k.listaEstados.length + 1 = k.contadorPid
  vivos : ∀ p ∈ fuera, 0 < p ∧ p < k.contadorPid
  colocados : Placed k.cola fun p => if p ∈ fuera then none else k.lugar cfg p
  exec : ∀ p ∉ fuera, k.estado p = some .exec → k.colaExec.head? = some p
  lugares : ∀ p ∉ fuera, ∀ e, k.estado p = some e → e = .exec ∨
    (lugarDe cfg k.interfaces e).isSome = true

variable {cfg : KernelConfiguracion} {fuera : Finset ℕ} {k k' : Estado} {p : ℕ} {l : Lugar}
  {e : EstadoProceso}

/-- The states of the processes of a queue. -/
theorem estado_of_lugarDe {interfaces : List Cadena}
    (h : lugarDe cfg interfaces e = some l) :
    match l with
    | .new => e = .new
    | .ready => e = .ready
    | .readyM => e = .readyM
    | .io _ => ∃ interfaz, e = .blockIo interfaz
    | .recurso _ => ∃ recurso, e = .blockRecurso recurso
    | .exit => e = .exit := by
  cases e with
  | blockIo interfaz =>
    obtain ⟨i, -, rfl⟩ := Option.map_eq_some_iff.1 h
    exact ⟨interfaz, rfl⟩
  | blockRecurso recurso =>
    obtain ⟨i, -, rfl⟩ := Option.map_eq_some_iff.1 h
    exact ⟨recurso, rfl⟩
  | exec => cases h
  | block => cases h
  | _ => cases h; rfl

/-! ### The list of states -/

theorem estado_isSome_iff (k : Estado) (p : ℕ) :
    (k.estado p).isSome = true ↔ 0 < p ∧ p ≤ k.listaEstados.length := by
  cases p with
  | zero => simp [Estado.estado]
  | succ p => simp [Estado.estado]

theorem estado_of_listaEstados (h : k'.listaEstados = k.listaEstados) : k'.estado = k.estado := by
  funext p
  cases p with
  | zero => rfl
  | succ p => simp [Estado.estado, h]

theorem listaEstados_cambiarEstado (he : e ≠ .new) :
    (k.cambiarEstado p e).listaEstados = k.listaEstados.set (p - 1) e := by
  simp [Estado.cambiarEstado, he]

/-- Replacing the element at `p - 1` changes the state of `p` only. -/
theorem estado_of_set (h0 : 0 < p) (hlen : p ≤ k.listaEstados.length)
    (h : k'.listaEstados = k.listaEstados.set (p - 1) e) :
    k'.estado = Function.update k.estado p (some e) := by
  funext q
  rw [Function.update_apply]
  cases q with
  | zero => rw [if_neg (by omega)]; rfl
  | succ q =>
    simp only [Estado.estado, h]
    rw [List.getElem?_set]
    split_ifs with h1 h2 h3 <;> first | rfl | omega

theorem estado_cambiarEstado_new (k : Estado) (p : ℕ) :
    (k.cambiarEstado p .new).estado =
      Function.update k.estado (k.listaEstados.length + 1) (some .new) := by
  funext q
  rw [Function.update_apply]
  cases q with
  | zero => rw [if_neg (by omega)]; rfl
  | succ q =>
    simp only [Estado.estado, Estado.cambiarEstado, if_true]
    rw [List.getElem?_append]
    split_ifs with h1 h2 h3
    · omega
    · rfl
    · have hq : q - k.listaEstados.length = 0 := by omega
      rw [hq]
      rfl
    · rw [List.getElem?_eq_none (by simp; omega), List.getElem?_eq_none (by omega)]

/-! ### Moving one process -/

theorem Ubicados.vivo_iff (h : Ubicados cfg fuera k) (p : ℕ) :
    (k.estado p).isSome = true ↔ 0 < p ∧ p < k.contadorPid := by
  have hc := h.creados
  rw [estado_isSome_iff]
  omega

/-- Replacing the state of a process that is outside. -/
theorem Ubicados.estado_set (h : Ubicados cfg fuera k) (hp : p ∈ fuera)
    (hlista : k'.listaEstados = k.listaEstados.set (p - 1) e) :
    k'.listaEstados.length = k.listaEstados.length ∧
      k'.estado = Function.update k.estado p (some e) := by
  have hvivo := h.vivos p hp
  have hc := h.creados
  exact ⟨by simp [hlista], estado_of_set hvivo.1 (by omega) hlista⟩

/-- Fields that play no part may change. -/
theorem Ubicados.congr (h : Ubicados cfg fuera k) (hcola : k'.cola = k.cola)
    (hexec : k'.colaExec = k.colaExec) (hest : k'.listaEstados = k.listaEstados)
    (hint : k'.interfaces = k.interfaces) (hcont : k'.contadorPid = k.contadorPid) :
    Ubicados cfg fuera k' := by
  have hestado := estado_of_listaEstados hest
  refine ⟨by rw [hest, hcont]; exact h.creados, by rw [hcont]; exact h.vivos, ?_,
    by rw [hestado, hexec]; exact h.exec, by rw [hestado, hint]; exact h.lugares⟩
  have hlugar : k'.lugar cfg = k.lugar cfg := by
    funext p
    simp only [Estado.lugar, hestado, hint]
  rw [hcola, hlugar]
  exact h.colocados

/-- A process that is outside is in no queue. -/
theorem Ubicados.notMem_cola (h : Ubicados cfg fuera k) (hp : p ∈ fuera) (l : Lugar) :
    p ∉ k.cola l := by
  rw [h.colocados.mem_iff, if_pos hp]
  simp

/-- The state of a process in a queue names the queue. -/
theorem Ubicados.estado_of_mem (h : Ubicados cfg fuera k) (hp : p ∈ k.cola l) :
    p ∉ fuera ∧ ∃ e, k.estado p = some e ∧ lugarDe cfg k.interfaces e = some l := by
  have hplace := (h.colocados.mem_iff l p).1 hp
  by_cases hf : p ∈ fuera
  · simp [hf] at hplace
  · rw [if_neg hf] at hplace
    exact ⟨hf, Option.bind_eq_some_iff.1 hplace⟩

theorem Ubicados.mem_cola (h : Ubicados cfg ∅ k) (he : k.estado p = some e)
    (hl : lugarDe cfg k.interfaces e = some l) : p ∈ k.cola l := by
  rw [h.colocados.mem_iff, if_neg (Finset.notMem_empty p), Estado.lugar, he]
  exact hl

/-- A process in EXEC is in no queue. -/
theorem Ubicados.apartar (h : Ubicados cfg fuera k) (hp : k.estado p = some .exec) :
    Ubicados cfg (insert p fuera) k := by
  refine ⟨h.creados, fun q hq => ?_, ?_, fun q hq => h.exec q (by simp_all),
    fun q hq => h.lugares q (by simp_all)⟩
  · rcases Finset.mem_insert.1 hq with rfl | hq
    · exact (h.vivo_iff q).1 (by rw [hp]; rfl)
    · exact h.vivos q hq
  · have hlugar : k.lugar cfg p = none := by simp [Estado.lugar, hp, lugarDe]
    convert h.colocados using 2 with q
    by_cases hq : q = p
    · simp [hq, hlugar]
    · simp [hq]

/-- `cola_exec` may be filled again with the process in EXEC. -/
theorem Ubicados.congr_exec (h : Ubicados cfg ∅ k) (hp : k.estado p = some .exec)
    (hcola : k'.cola = k.cola) (hexec : k'.colaExec = [p])
    (hest : k'.listaEstados = k.listaEstados) (hint : k'.interfaces = k.interfaces)
    (hcont : k'.contadorPid = k.contadorPid) : Ubicados cfg ∅ k' := by
  have h₀ : Ubicados cfg ∅ { k' with colaExec := k.colaExec } := h.congr hcola rfl hest hint hcont
  refine ⟨h₀.creados, h₀.vivos, h₀.colocados, fun q hq hs => ?_, h₀.lugares⟩
  have hhead := h.exec p (Finset.notMem_empty p) hp
  have hqhead := h₀.exec q hq hs
  rw [hexec, ← hqhead]
  exact hhead.symm

/-- A process is taken out of its queue. -/
theorem Ubicados.sacar (h : Ubicados cfg fuera k) (hp : p ∉ fuera) (hl : k.lugar cfg p = some l)
    (hcola : k'.cola = Function.update k.cola l ((k.cola l).erase p))
    (hexec : k'.colaExec = k.colaExec) (hest : k'.listaEstados = k.listaEstados)
    (hint : k'.interfaces = k.interfaces) (hcont : k'.contadorPid = k.contadorPid) :
    Ubicados cfg (insert p fuera) k' := by
  have hestado := estado_of_listaEstados hest
  refine ⟨by rw [hest, hcont]; exact h.creados, fun q hq => ?_, ?_, fun q hq => ?_, fun q hq => ?_⟩
  · rw [hcont]
    rcases Finset.mem_insert.1 hq with rfl | hq
    · refine (h.vivo_iff q).1 ?_
      cases hs : k.estado q with
      | none => simp [Estado.lugar, hs] at hl
      | some e => rfl
    · exact h.vivos q hq
  · have herase := h.colocados.erase (p := p) (l := l) (by simp [hp, hl])
    have hlugar : k'.lugar cfg = k.lugar cfg := by
      funext q
      simp only [Estado.lugar, hestado, hint]
    rw [hcola, hlugar]
    convert herase using 2 with q
    by_cases hq : q = p
    · simp [hq]
    · simp [hq]
  · rw [hestado, hexec]
    exact h.exec q (by simp_all)
  · rw [hestado, hint]
    exact h.lugares q (by simp_all)

/-- A process that was outside is put in a queue, under a state that names it. -/
theorem Ubicados.poner (h : Ubicados cfg (insert p fuera) k) (hp : p ∉ fuera)
    (hl : lugarDe cfg k.interfaces e = some l)
    (hcola : k'.cola = Function.update k.cola l (k.cola l ++ [p]))
    (hlista : k'.listaEstados = k.listaEstados.set (p - 1) e)
    (hexec : k'.colaExec = k.colaExec)
    (hint : k'.interfaces = k.interfaces) (hcont : k'.contadorPid = k.contadorPid) :
    Ubicados cfg fuera k' := by
  obtain ⟨hlen, hest⟩ := h.estado_set (Finset.mem_insert_self p fuera) hlista
  have hne : e ≠ .exec := by
    rintro rfl
    cases hl
  refine ⟨by rw [hlen, hcont]; exact h.creados,
    fun q hq => hcont ▸ h.vivos q (Finset.mem_insert_of_mem hq), ?_, fun q hq hs => ?_,
    fun q hq e' hs => ?_⟩
  · have hpush := h.colocados.push (p := p) (by simp) l
    rw [hcola]
    convert hpush using 2 with q
    by_cases hq : q = p
    · simp [hq, hp, Estado.lugar, hest, hint, hl]
    · simp [hq, Estado.lugar, hest, hint]
  · rw [hest, Function.update_apply] at hs
    split_ifs at hs with hqp
    · exact absurd (Option.some.inj hs) hne
    · rw [hexec]
      exact h.exec q (by simp [hq, hqp]) hs
  · rw [hest, Function.update_apply] at hs
    rw [hint]
    split_ifs at hs with hqp
    · cases hs
      exact Or.inr (by rw [hl]; rfl)
    · exact h.lugares q (by simp [hq, hqp]) e' hs

/-- A process that was outside goes to EXEC, once no other process is there. -/
theorem Ubicados.ponerExec (h : Ubicados cfg (insert p fuera) k) (hp : p ∉ fuera)
    (hnone : ∀ q, q ≠ p → q ∉ fuera → k.estado q ≠ some .exec)
    (hcola : k'.cola = k.cola) (hlista : k'.listaEstados = k.listaEstados.set (p - 1) .exec)
    (hexec : k'.colaExec = [p])
    (hint : k'.interfaces = k.interfaces) (hcont : k'.contadorPid = k.contadorPid) :
    Ubicados cfg fuera k' := by
  obtain ⟨hlen, hest⟩ := h.estado_set (Finset.mem_insert_self p fuera) hlista
  refine ⟨by rw [hlen, hcont]; exact h.creados,
    fun q hq => hcont ▸ h.vivos q (Finset.mem_insert_of_mem hq), ?_, fun q hq hs => ?_,
    fun q hq e' hs => ?_⟩
  · rw [hcola]
    convert h.colocados using 2 with q
    by_cases hq : q = p
    · simp [hq, hp, Estado.lugar, hest, lugarDe]
    · simp [hq, Estado.lugar, hest, hint]
  · rw [hest, Function.update_apply] at hs
    split_ifs at hs with hqp
    · rw [hexec, hqp]
      rfl
    · exact absurd hs (hnone q hqp hq)
  · rw [hest, Function.update_apply] at hs
    rw [hint]
    split_ifs at hs with hqp
    · cases hs
      exact Or.inl rfl
    · exact h.lugares q (by simp [hq, hqp]) e' hs

/-! ### Becoming ready -/

/-- The queue and the state in which `iniciar` leaves a process. -/
theorem iniciar_cases (cfg : KernelConfiguracion) (k : Estado) (p : ℕ) (motivo : Cadena) :
    ∃ l e, lugarDe cfg k.interfaces e = some l ∧ (l = .ready ∨ l = .readyM) ∧
      (iniciar cfg k p motivo).cola = Function.update k.cola l (k.cola l ++ [p]) ∧
      (iniciar cfg k p motivo).listaEstados = k.listaEstados.set (p - 1) e := by
  unfold iniciar
  split_ifs with h1 h2
  · exact ⟨.ready, .ready, rfl, Or.inl rfl, rfl, rfl⟩
  · exact ⟨.ready, .ready, rfl, Or.inl rfl, rfl, rfl⟩
  · exact ⟨.readyM, .readyM, rfl, Or.inr rfl, rfl, rfl⟩

@[simp] theorem iniciar_colaExec (k : Estado) (motivo : Cadena) :
    (iniciar cfg k p motivo).colaExec = k.colaExec := by
  unfold iniciar; split_ifs <;> rfl

@[simp] theorem iniciar_interfaces (k : Estado) (motivo : Cadena) :
    (iniciar cfg k p motivo).interfaces = k.interfaces := by
  unfold iniciar; split_ifs <;> rfl

@[simp] theorem iniciar_contadorPid (k : Estado) (motivo : Cadena) :
    (iniciar cfg k p motivo).contadorPid = k.contadorPid := by
  unfold iniciar; split_ifs <;> rfl

theorem Ubicados.iniciar (h : Ubicados cfg (insert p fuera) k) (hp : p ∉ fuera)
    (motivo : Cadena) : Ubicados cfg fuera (iniciar cfg k p motivo) := by
  obtain ⟨l, e, hl, -, hcola, hlista⟩ := iniciar_cases cfg k p motivo
  exact h.poner hp hl hcola hlista (by simp) (by simp) (by simp)

/-- What `queue_pop` takes, when there is something. -/
theorem desencolar_eq_some {q : ℕ} (h : k.desencolar l = some (q, k')) :
    ∃ resto, k.cola l = q :: resto ∧
      k' = { k with cola := Function.update k.cola l resto } := by
  unfold Estado.desencolar at h
  split at h
  · cases h
  · rename_i pid resto heq
    cases h
    exact ⟨resto, heq, rfl⟩

/-- The head of a queue is taken out. -/
theorem Ubicados.desencolar {q : ℕ} (h : Ubicados cfg fuera k)
    (hd : k.desencolar l = some (q, k')) : q ∉ fuera ∧ k.lugar cfg q = some l ∧
      Ubicados cfg (insert q fuera) k' := by
  obtain ⟨resto, hq, rfl⟩ := desencolar_eq_some hd
  have hplace := h.colocados.place_head hq
  have hfuera : q ∉ fuera := fun hf => by simp [hf] at hplace
  have hlugar : k.lugar cfg q = some l := by simpa [hfuera] using hplace
  exact ⟨hfuera, hlugar, h.sacar hfuera hlugar (by simp [hq]) rfl rfl rfl rfl⟩

/-- What `desbloquear` does, when the queue has a head. -/
theorem desbloquear_eq_some {motivo : Cadena} (h : desbloquear cfg k l motivo = some k') :
    ∃ q k₁, k.desencolar l = some (q, k₁) ∧ k' = Kernel.iniciar cfg k₁ q motivo := by
  obtain ⟨⟨q, k₁⟩, hd, rfl⟩ := Option.map_eq_some_iff.1 h
  exact ⟨q, k₁, hd, rfl⟩

theorem Ubicados.desbloquear {motivo : Cadena} (h : Ubicados cfg fuera k)
    (hd : desbloquear cfg k l motivo = some k') : Ubicados cfg fuera k' := by
  obtain ⟨q, k₁, hq, rfl⟩ := desbloquear_eq_some hd
  obtain ⟨hfuera, -, hsacado⟩ := h.desencolar hq
  exact hsacado.iniciar hfuera motivo

/-! ### Resources -/

theorem quitar_eq_some {recurso : Cadena}
    (h : quitarDeListaRecursosRetenidos k recurso p = some k') :
    k.listaRecursosRetenidos.any (RecursosRetenidos.concuerda recurso p) = true ∧
      k' = { k with
        listaRecursosRetenidos :=
          k.listaRecursosRetenidos.eraseP (RecursosRetenidos.concuerda recurso p) } := by
  unfold quitarDeListaRecursosRetenidos at h
  split_ifs at h with hany
  exact ⟨hany, (Option.some.inj h).symm⟩

/-- What `signal` does, when it comes back: nothing for an unknown resource; else the instance is
returned, the first waiter is woken if the counter is not positive, and a record is removed. -/
theorem signal_cases {recurso : Cadena} {b : Bool} (h : signal cfg k recurso p = some (k', b)) :
    (encontrarColaRecurso cfg recurso = none ∧ k' = k ∧ b = true) ∨
    ∃ i k₁, encontrarColaRecurso cfg recurso = some i ∧ b = false ∧
      ((k.instanciasRecurso i + 1 ≤ 0 ∧
          desbloquear cfg { k with
            instanciasRecurso := Function.update k.instanciasRecurso i (k.instanciasRecurso i + 1)
            reloj := k.reloj.seguir cfg k.finPorQuantum } (.recurso i)
            "LIBERACION DE RECURSOS".toList = some k₁) ∨
        (0 < k.instanciasRecurso i + 1 ∧
          k₁ = { k with
            instanciasRecurso :=
              Function.update k.instanciasRecurso i (k.instanciasRecurso i + 1) })) ∧
      quitarDeListaRecursosRetenidos k₁ recurso p = some k' := by
  unfold signal at h
  cases hi : encontrarColaRecurso cfg recurso with
  | none =>
    rw [hi] at h
    cases h
    exact Or.inl ⟨rfl, rfl, rfl⟩
  | some i =>
    rw [hi] at h
    dsimp only at h
    obtain ⟨k₁, hk₁, hquitar⟩ := Option.bind_eq_some_iff.1 h
    obtain ⟨k₂, hk₂, heq⟩ := Option.map_eq_some_iff.1 hquitar
    cases heq
    refine Or.inr ⟨i, k₁, rfl, rfl, ?_, hk₂⟩
    split_ifs at hk₁ with hle
    · exact Or.inl ⟨by simpa using hle, hk₁⟩
    · exact Or.inr ⟨by simpa using hle, (Option.some.inj hk₁).symm⟩

theorem Ubicados.signal {recurso : Cadena} {b : Bool} (h : Ubicados cfg fuera k)
    (hs : signal cfg k recurso p = some (k', b)) : Ubicados cfg fuera k' := by
  rcases signal_cases hs with ⟨-, rfl, -⟩ | ⟨i, k₁, -, -, hk₁, hquitar⟩
  · exact h
  · obtain ⟨-, rfl⟩ := quitar_eq_some hquitar
    have h₁ : Ubicados cfg fuera k₁ := by
      rcases hk₁ with ⟨-, hdes⟩ | ⟨-, rfl⟩
      · have h₀ : Ubicados cfg fuera { k with
            instanciasRecurso := Function.update k.instanciasRecurso i (k.instanciasRecurso i + 1)
            reloj := k.reloj.seguir cfg k.finPorQuantum } := h.congr rfl rfl rfl rfl rfl
        exact h₀.desbloquear hdes
      · exact h.congr rfl rfl rfl rfl rfl
    exact h₁.congr rfl rfl rfl rfl rfl

/-- The loop of `liberar_recursos`, from its end: nothing when there is no record left, and one turn
before the rest. -/
theorem liberarRecursosDesde_elim {P : Estado → Estado → Prop} {fuel : ℕ}
    (hfin : ∀ k, (k.listaRecursosRetenidos.find? fun r => r.pid = p) = none → P k k)
    (hturno : ∀ k k₁ k' b r, k.listaRecursosRetenidos.find? (fun r => r.pid = p) = some r →
      Kernel.signal cfg k r.recurso p = some (k₁, b) → P k₁ k' → P k k')
    (h : liberarRecursosDesde cfg p fuel k = some k') : P k k' := by
  induction fuel generalizing k with
  | zero =>
    unfold liberarRecursosDesde at h
    split at h
    · rename_i hnone
      cases h
      exact hfin _ hnone
    · cases h
  | succ fuel ih =>
    unfold liberarRecursosDesde at h
    split at h
    · rename_i hnone
      cases h
      exact hfin _ hnone
    · rename_i r hr
      obtain ⟨⟨k₁, b⟩, hs, hrest⟩ := Option.bind_eq_some_iff.1 h
      exact hturno k k₁ k' b r hr hs (ih hrest)

/-- The invariant rule of the loop of `liberar_recursos`. -/
theorem liberarRecursosDesde_induct {P : Estado → Prop} {fuel : ℕ}
    (hstep : ∀ k k' b r, P k → k.listaRecursosRetenidos.find? (fun r => r.pid = p) = some r →
      Kernel.signal cfg k r.recurso p = some (k', b) → P k') (h0 : P k)
    (h : liberarRecursosDesde cfg p fuel k = some k') : P k' :=
  liberarRecursosDesde_elim (P := fun k k' => P k → P k') (fun _ _ h => h)
    (fun k k₁ _ b r hr hs ih h => ih (hstep k k₁ b r h hr hs)) h h0

theorem Ubicados.liberarRecursos (h : Ubicados cfg fuera k)
    (hl : liberarRecursos cfg k p = some k') : Ubicados cfg fuera k' :=
  liberarRecursosDesde_induct (P := Ubicados cfg fuera) (fun _ _ _ _ h _ hs => h.signal hs) h hl

/-- What `wait` does: nothing for an unknown resource; else an instance is taken, the process is
queued if there was none left, and a record is added in both cases. -/
theorem wait_cases (cfg : KernelConfiguracion) (k : Estado) (recurso : Cadena) (p : ℕ) :
    (encontrarColaRecurso cfg recurso = none ∧ wait cfg k recurso p = (k, true)) ∨
    ∃ i k₁, encontrarColaRecurso cfg recurso = some i ∧
      k₁ = { k with
        instanciasRecurso := Function.update k.instanciasRecurso i (k.instanciasRecurso i - 1)
        listaRecursosRetenidos := k.listaRecursosRetenidos ++ [⟨p, recurso⟩] } ∧
      ((k.instanciasRecurso i - 1 < 0 ∧ wait cfg k recurso p =
          ((pedidoDeDesalojo ((desalojarPorInstruccion cfg k₁).encolar (.recurso i) p)
            "WAIT".toList p).cambiarEstado p (.blockRecurso recurso), false)) ∨
        (0 ≤ k.instanciasRecurso i - 1 ∧ wait cfg k recurso p =
          ({ k₁ with reloj := k.reloj.seguir cfg k.finPorQuantum }, false))) := by
  unfold wait
  cases hi : encontrarColaRecurso cfg recurso with
  | none => exact Or.inl ⟨rfl, rfl⟩
  | some i =>
    refine Or.inr ⟨i, _, rfl, rfl, ?_⟩
    dsimp only
    split_ifs with hlt
    · exact Or.inl ⟨by simpa using hlt, rfl⟩
    · exact Or.inr ⟨by simpa using hlt, rfl⟩

theorem Ubicados.wait (h : Ubicados cfg ∅ k) (hp : k.estado p = some .exec) (recurso : Cadena) :
    Ubicados cfg ∅ (wait cfg k recurso p).1 := by
  rcases wait_cases cfg k recurso p with ⟨-, heq⟩ | ⟨i, k₁, hi, rfl, ⟨-, heq⟩ | ⟨-, heq⟩⟩
  · rw [heq]
    exact h
  · rw [heq]
    exact (h.apartar hp).poner (e := .blockRecurso recurso) (l := .recurso i)
      (Finset.notMem_empty p) (by simp [lugarDe, hi]) rfl rfl rfl rfl rfl
  · rw [heq]
    exact h.congr rfl rfl rfl rfl rfl

/-! ### Requests of the running process -/

/-- What `exit_prima` does, when it comes back. -/
theorem exitPrima_eq_some (h : exitPrima cfg k p = some k') :
    ∃ k₁, liberarRecursos cfg k p = some k₁ ∧
      k' = ({ k₁ with
          enviados := k₁.enviados ++ [Envio.finalizarProceso p]
          semMultiprogramacion := k₁.semMultiprogramacion + 1 }.encolar .exit p).cambiarEstado p
            .exit := by
  obtain ⟨k₁, hl, heq⟩ := Option.map_eq_some_iff.1 h
  exact ⟨k₁, hl, heq.symm⟩

theorem Ubicados.exitPrima (h : Ubicados cfg (insert p fuera) k) (hp : p ∉ fuera)
    (he : exitPrima cfg k p = some k') : Ubicados cfg fuera k' := by
  obtain ⟨k₁, hl, rfl⟩ := exitPrima_eq_some he
  exact (h.liberarRecursos hl).poner (e := .exit) (l := .exit) hp rfl rfl rfl rfl rfl rfl

/-- What `terminar` does, when it comes back. -/
theorem terminar_eq_some {noCumplioRecurso : Bool} {motivo : Cadena}
    (h : terminar cfg k p noCumplioRecurso motivo = some k') :
    ∃ k₁, Kernel.exitPrima cfg (desalojarPorInstruccion cfg k) p = some k₁ ∧
      k' = pedidoDeDesalojo { k₁ with
        pisados := k₁.pisados ++ if noCumplioRecurso then [p] else []
        motivo := motivo } motivo p := by
  obtain ⟨k₁, he, rfl⟩ := Option.map_eq_some_iff.1 h
  refine ⟨k₁, he, ?_⟩
  cases noCumplioRecurso with
  | true => rfl
  | false => simp only [Bool.false_eq_true, if_false, List.append_nil]

theorem Ubicados.terminar {noCumplioRecurso : Bool} {motivo : Cadena} (h : Ubicados cfg ∅ k)
    (hp : k.estado p = some .exec) (ht : terminar cfg k p noCumplioRecurso motivo = some k') :
    Ubicados cfg ∅ k' := by
  obtain ⟨k₁, he, rfl⟩ := terminar_eq_some ht
  have h₀ : Ubicados cfg (insert p ∅) (desalojarPorInstruccion cfg k) :=
    (h.apartar hp).congr rfl rfl rfl rfl rfl
  exact (h₀.exitPrima (Finset.notMem_empty p) he).congr rfl rfl rfl rfl rfl

/-- What the branch for a permitted request does, when it comes back. -/
theorem bloquearPorIo_eq_some {lista : List Cadena} {motivo interfaz : Cadena}
    (h : bloquearPorIo cfg k lista p motivo interfaz = some k') :
    ∃ i mensajes, encontrarCola k.interfaces interfaz = some i ∧ k.semPlanificacion ≠ 0 ∧
      k' = pedidoDeDesalojo ({ bloquearI (desalojarPorInstruccion cfg k) i p with
        enviados := mensajes }.cambiarEstado p (.blockIo interfaz)) motivo p := by
  obtain ⟨i, hi, h⟩ := Option.bind_eq_some_iff.1 h
  dsimp only at h
  split_ifs at h with hplan
  obtain ⟨argumentos, -, h⟩ := Option.bind_eq_some_iff.1 h
  obtain ⟨conexion, -, rfl⟩ := Option.map_eq_some_iff.1 h
  exact ⟨i, _, hi, hplan, rfl⟩

theorem Ubicados.bloquearPorIo {lista : List Cadena} {motivo interfaz : Cadena}
    (h : Ubicados cfg ∅ k) (hp : k.estado p = some .exec)
    (hb : bloquearPorIo cfg k lista p motivo interfaz = some k') : Ubicados cfg ∅ k' := by
  obtain ⟨i, mensajes, hi, -, rfl⟩ := bloquearPorIo_eq_some hb
  refine (h.apartar hp).poner (e := .blockIo interfaz) (l := .io i) (Finset.notMem_empty p)
    (by simp [lugarDe, hi]) rfl ?_ rfl rfl rfl
  -- the state is `BLOCK` before it names the interface
  exact List.set_set _

/-- A request that is neither of those that end the process goes on. -/
theorem motivoDeExit_eq_none {motivo : Cadena}
    (h1 : stringEqualsIgnoreCase motivo "OUT_OF_MEMORY".toList = false)
    (h2 : stringEqualsIgnoreCase motivo "DENIED_ACCESS".toList = false)
    (h3 : stringEqualsIgnoreCase motivo "EXIT".toList = false) :
    motivoDeExit false false motivo = none := by
  simp only [motivoDeExit, h1, h2, h3, Bool.false_eq_true, or_self, if_false]

theorem motivoDeExit_of_io {motivo : Cadena} (h : stringContains motivo "IO".toList = true) :
    motivoDeExit false false motivo = none := by
  have hne : ∀ b : Cadena, ¬ "IO".toList.map Char.toLower <:+: b.map Char.toLower →
      stringEqualsIgnoreCase motivo b = false := by
    intro b hb
    cases heq : stringEqualsIgnoreCase motivo b with
    | false => rfl
    | true => rw [not_stringContains_of_equals heq hb] at h; cases h
  exact motivoDeExit_eq_none (hne _ (by decide)) (hne _ (by decide)) (hne _ (by decide))

/-- What the instruction of a request does, when it comes back: nothing before the end of the
process; or the process is blocked by an interface, waits for or returns a resource, or just goes
on. -/
theorem atenderInstruccion_cases {lista : List Cadena} {motivo : Cadena} {a b : Bool}
    (h : atenderInstruccion cfg k lista p motivo = some (k', a, b)) :
    (k' = k ∧ (motivoDeExit a b motivo).isSome = true) ∨
    (motivoDeExit a b motivo = none ∧
      ((∃ interfaz, (stringContains motivo "IO".toList = true ∧ lista[0]? = some interfaz ∧
          cumpleInterfaz k interfaz motivo = some true) ∧
          bloquearPorIo cfg k lista p motivo interfaz = some k') ∨
        (∃ recurso, k' = (wait cfg k recurso p).1) ∨
        (∃ recurso, signal cfg k recurso p = some (k', false)) ∨
        k' = k)) := by
  unfold atenderInstruccion at h
  split_ifs at h with hio hwait hsignal
  · obtain ⟨interfaz, hinterfaz, h⟩ := Option.bind_eq_some_iff.1 h
    obtain ⟨cumple, hcumple, h⟩ := Option.bind_eq_some_iff.1 h
    split_ifs at h with hpermite
    · obtain ⟨k₂, hb, heq⟩ := Option.map_eq_some_iff.1 h
      cases heq
      refine Or.inr ⟨motivoDeExit_of_io hio, Or.inl ⟨interfaz, ⟨hio, hinterfaz, ?_⟩, hb⟩⟩
      rw [hcumple, hpermite]
    · cases h
      exact Or.inl ⟨rfl, rfl⟩
  · obtain ⟨recurso, -, heq⟩ := Option.map_eq_some_iff.1 h
    cases hb : (wait cfg k recurso p).2 with
    | true =>
      rw [hb] at heq
      cases heq
      refine Or.inl ⟨?_, rfl⟩
      rcases wait_cases cfg k recurso p with ⟨-, heq⟩ | ⟨i, k₂, -, -, ⟨-, heq⟩ | ⟨-, heq⟩⟩
      · rw [heq]
      · rw [heq] at hb; cases hb
      · rw [heq] at hb; cases hb
    | false =>
      rw [hb] at heq
      cases heq
      refine Or.inr ⟨motivoDeExit_eq_none ?_ ?_ ?_, Or.inr (Or.inl ⟨recurso, rfl⟩)⟩ <;>
        exact not_stringEquals_of_equals hwait (by decide)
  · obtain ⟨recurso, -, h⟩ := Option.bind_eq_some_iff.1 h
    obtain ⟨⟨k₂, noCumplio⟩, hs, heq⟩ := Option.map_eq_some_iff.1 h
    cases heq
    cases a with
    | true =>
      refine Or.inl ⟨?_, rfl⟩
      rcases signal_cases hs with ⟨-, heq, -⟩ | ⟨i, k₂, -, hfalse, -⟩
      · exact heq
      · cases hfalse
    | false =>
      refine Or.inr ⟨motivoDeExit_eq_none ?_ ?_ ?_, Or.inr (Or.inr (Or.inl ⟨recurso, hs⟩))⟩ <;>
        exact not_stringEquals_of_equals hsignal (by decide)
  · cases h
    cases hm : motivoDeExit false false motivo with
    | none => exact Or.inr ⟨rfl, Or.inr (Or.inr (Or.inr rfl))⟩
    | some r => exact Or.inl ⟨rfl, rfl⟩

/-- What `atender_solicitud_cpu` does, when it comes back: the quantum ended; or the process ends,
is blocked by an interface, waits for or returns a resource, or just goes on. -/
theorem atenderSolicitudCpu_cases {lista : List Cadena} {motivo : Cadena}
    (h : atenderSolicitudCpu cfg k lista p motivo = some k') :
    (stringEqualsIgnoreCase motivo "QUANTUM".toList = true ∧ k' = iniciar cfg k p motivo) ∨
    ∃ k₀, k₀ = { k with reloj := k.reloj.empezar cfg k.finPorQuantum, colaExec := [p] } ∧
      ((∃ noCumplioRecurso motivo',
          (∃ b, motivoDeExit noCumplioRecurso b motivo = some motivo') ∧
          terminar cfg k₀ p noCumplioRecurso motivo' = some k') ∨
        (∃ interfaz, (stringContains motivo "IO".toList = true ∧ lista[0]? = some interfaz ∧
            cumpleInterfaz k₀ interfaz motivo = some true) ∧
          bloquearPorIo cfg k₀ lista p motivo interfaz = some k') ∨
        (∃ recurso, k' = (wait cfg k₀ recurso p).1) ∨
        (∃ recurso, signal cfg k₀ recurso p = some (k', false)) ∨
        k' = k₀) := by
  unfold atenderSolicitudCpu at h
  split_ifs at h with hq
  · exact Or.inl ⟨hq, (Option.some.inj h).symm⟩
  refine Or.inr ⟨_, rfl, ?_⟩
  generalize ({ k with reloj := k.reloj.empezar cfg k.finPorQuantum, colaExec := [p] } : Estado) =
    k₀ at h ⊢
  obtain ⟨⟨k₁, noCumplio, noExiste⟩, hins, hres⟩ := Option.bind_eq_some_iff.1 h
  dsimp only at hres
  rcases atenderInstruccion_cases hins with ⟨rfl, hexit⟩ | ⟨hexit, hcases⟩
  · obtain ⟨motivo', hr⟩ := Option.isSome_iff_exists.1 hexit
    rw [hr] at hres
    exact Or.inl ⟨noCumplio, motivo', ⟨_, hr⟩, hres⟩
  · rw [hexit] at hres
    cases hres
    exact Or.inr hcases

theorem Ubicados.atenderSolicitudCpu {lista : List Cadena} {motivo : Cadena}
    (h : Ubicados cfg ∅ k) (hp : k.estado p = some .exec)
    (ha : atenderSolicitudCpu cfg k lista p motivo = some k') : Ubicados cfg ∅ k' := by
  rcases atenderSolicitudCpu_cases ha with ⟨-, rfl⟩ | ⟨k₀, hk₀, hcases⟩
  · exact (h.apartar hp).iniciar (Finset.notMem_empty p) motivo
  · have h₀ : Ubicados cfg ∅ k₀ := by
      rw [hk₀]
      exact h.congr_exec hp rfl rfl rfl rfl rfl
    have hp₀ : k₀.estado p = some .exec := by rw [hk₀]; exact hp
    rcases hcases with ⟨_, _, -, ht⟩ | ⟨interfaz, -, hb⟩ | ⟨recurso, rfl⟩ | ⟨recurso, hs⟩ | rfl
    · exact h₀.terminar hp₀ ht
    · exact h₀.bloquearPorIo hp₀ hb
    · exact h₀.wait hp₀ recurso
    · exact h₀.signal hs
    · exact h₀

end SimuladorSO.Kernel
