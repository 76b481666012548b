import SimuladorSO.Kernel.Pasos

/-!
# The counting semaphores of the scheduler

The degree of multiprogramming and the permits of the new and ready queues, step by step.

* `Llegadas`: waking processes up only appends to the ready queues, with a permit and an entry in
  the list of pids for each;
* `Estado.grado`: the free slots and the admitted processes together;
* `grado_iff`, `sincronizados_iff`: `FINALIZAR_PROCESO` is the only step that can break either
  account, and from which states it does.
-/

namespace SimuladorSO.Kernel

open Queues Transitions Commons

/-- The process holds a slot of the degree of multiprogramming. -/
def EstadoProceso.admitido : EstadoProceso → Bool
  | new => false
  | exit => false
  | _ => true

/-- The process is blocked. -/
def EstadoProceso.bloqueado : EstadoProceso → Bool
  | block => true
  | blockIo _ => true
  | blockRecurso _ => true
  | _ => false

/-- The number of admitted processes that have not ended. -/
def Estado.admitidos (k : Estado) : ℕ := k.listaEstados.countP EstadoProceso.admitido

/-- The free slots and the admitted processes. -/
def Estado.grado (k : Estado) : ℕ := k.semMultiprogramacion + k.admitidos

/-- The permits and the pid lists of the new and ready queues have moved with the queues, which
have only grown. -/
structure Llegadas (k k' : Estado) : Prop where
  new : k'.cola .new = k.cola .new
  semNew : k'.semHayProcesosEnNew = k.semHayProcesosEnNew
  ready : ∃ r, k'.cola .ready = k.cola .ready ++ r ∧ k'.listaPidsReady = k.listaPidsReady ++ r ∧
    k'.semProcesosEnReady = k.semProcesosEnReady + r.length
  readyM : ∃ r, k'.cola .readyM = k.cola .readyM ++ r ∧
    k'.listaPidsReadyM = k.listaPidsReadyM ++ r ∧
    k'.semProcesosEnReadyM = k.semProcesosEnReadyM + r.length

/-- The slots have not changed, nor the states of the processes outside. -/
structure MismoGrado (fuera : Finset ℕ) (k k' : Estado) : Prop where
  multi : k'.semMultiprogramacion = k.semMultiprogramacion
  admitidos : k'.admitidos = k.admitidos
  estados : ∀ q ∈ fuera, k'.estado q = k.estado q

variable {cfg : KernelConfiguracion} {fuera : Finset ℕ} {k k₁ k' : Estado} {p : ℕ} {l : Lugar}
  {e e' : EstadoProceso}

theorem Llegadas.refl (k : Estado) : Llegadas k k where
  new := rfl
  semNew := rfl
  ready := ⟨[], by simp⟩
  readyM := ⟨[], by simp⟩

theorem Llegadas.trans (h : Llegadas k k₁) (h₁ : Llegadas k₁ k') : Llegadas k k' := by
  obtain ⟨hnew, hsem, ⟨r, hr, hpr, hsr⟩, ⟨m, hm, hpm, hsm⟩⟩ := h
  obtain ⟨hnew', hsem', ⟨r', hr', hpr', hsr'⟩, ⟨m', hm', hpm', hsm'⟩⟩ := h₁
  refine ⟨hnew'.trans hnew, hsem'.trans hsem, ⟨r ++ r', ?_, ?_, ?_⟩, ⟨m ++ m', ?_, ?_, ?_⟩⟩
  · rw [hr', hr, List.append_assoc]
  · rw [hpr', hpr, List.append_assoc]
  · rw [hsr', hsr, List.length_append, Nat.add_assoc]
  · rw [hm', hm, List.append_assoc]
  · rw [hpm', hpm, List.append_assoc]
  · rw [hsm', hsm, List.length_append, Nat.add_assoc]

/-- Fields that play no part in the new and ready queues may change. -/
theorem Llegadas.congr (h : Llegadas k k₁) (hcola : k'.cola = k₁.cola)
    (hnew : k'.semHayProcesosEnNew = k₁.semHayProcesosEnNew)
    (hready : k'.semProcesosEnReady = k₁.semProcesosEnReady)
    (hreadyM : k'.semProcesosEnReadyM = k₁.semProcesosEnReadyM)
    (hpids : k'.listaPidsReady = k₁.listaPidsReady)
    (hpidsM : k'.listaPidsReadyM = k₁.listaPidsReadyM) : Llegadas k k' := by
  refine h.trans ⟨by rw [hcola], hnew, ⟨[], ?_⟩, ⟨[], ?_⟩⟩
  · simp [hcola, hpids, hready]
  · simp [hcola, hpidsM, hreadyM]

/-- A queue other than the new and the ready ones changes. -/
theorem Llegadas.of_update {c : List ℕ} (hcola : k'.cola = Function.update k.cola l c)
    (hl : l ≠ .new ∧ l ≠ .ready ∧ l ≠ .readyM)
    (hnew : k'.semHayProcesosEnNew = k.semHayProcesosEnNew)
    (hready : k'.semProcesosEnReady = k.semProcesosEnReady)
    (hreadyM : k'.semProcesosEnReadyM = k.semProcesosEnReadyM)
    (hpids : k'.listaPidsReady = k.listaPidsReady)
    (hpidsM : k'.listaPidsReadyM = k.listaPidsReadyM) : Llegadas k k' where
  new := by rw [hcola, Function.update_of_ne hl.1.symm]
  semNew := hnew
  ready := ⟨[], by rw [hcola, Function.update_of_ne hl.2.1.symm]; simp [hpids, hready]⟩
  readyM := ⟨[], by rw [hcola, Function.update_of_ne hl.2.2.symm]; simp [hpidsM, hreadyM]⟩

/-- One process arrives at `cola_ready`. -/
theorem Llegadas.of_ready (hcola : k'.cola = Function.update k.cola .ready (k.cola .ready ++ [p]))
    (hnew : k'.semHayProcesosEnNew = k.semHayProcesosEnNew)
    (hpids : k'.listaPidsReady = k.listaPidsReady ++ [p])
    (hready : k'.semProcesosEnReady = k.semProcesosEnReady + 1)
    (hpidsM : k'.listaPidsReadyM = k.listaPidsReadyM)
    (hreadyM : k'.semProcesosEnReadyM = k.semProcesosEnReadyM) : Llegadas k k' where
  new := by rw [hcola, Function.update_of_ne (by decide)]
  semNew := hnew
  ready := ⟨[p], by rw [hcola, Function.update_self], hpids, hready⟩
  readyM := ⟨[], by rw [hcola, Function.update_of_ne (by decide)]; simp [hpidsM, hreadyM]⟩

/-- One process arrives at `cola_ready_m`. -/
theorem Llegadas.of_readyM
    (hcola : k'.cola = Function.update k.cola .readyM (k.cola .readyM ++ [p]))
    (hnew : k'.semHayProcesosEnNew = k.semHayProcesosEnNew)
    (hpidsM : k'.listaPidsReadyM = k.listaPidsReadyM ++ [p])
    (hreadyM : k'.semProcesosEnReadyM = k.semProcesosEnReadyM + 1)
    (hpids : k'.listaPidsReady = k.listaPidsReady)
    (hready : k'.semProcesosEnReady = k.semProcesosEnReady) : Llegadas k k' where
  new := by rw [hcola, Function.update_of_ne (by decide)]
  semNew := hnew
  ready := ⟨[], by rw [hcola, Function.update_of_ne (by decide)]; simp [hpids, hready]⟩
  readyM := ⟨[p], by rw [hcola, Function.update_self], hpidsM, hreadyM⟩

theorem MismoGrado.refl (fuera : Finset ℕ) (k : Estado) : MismoGrado fuera k k :=
  ⟨rfl, rfl, fun _ _ => rfl⟩

theorem MismoGrado.trans (h : MismoGrado fuera k k₁) (h₁ : MismoGrado fuera k₁ k') :
    MismoGrado fuera k k' :=
  ⟨h₁.multi.trans h.multi, h₁.admitidos.trans h.admitidos,
    fun q hq => (h₁.estados q hq).trans (h.estados q hq)⟩

theorem admitidos_of_listaEstados (h : k'.listaEstados = k.listaEstados) :
    k'.admitidos = k.admitidos := by
  rw [Estado.admitidos, h, Estado.admitidos]

/-- One process changes its state. -/
theorem admitidos_of_set (k' : Estado) (he : k.estado p = some e)
    (hlista : k'.listaEstados = k.listaEstados.set (p - 1) e') :
    k'.admitidos + e.admitido.toNat = k.admitidos + e'.admitido.toNat := by
  cases p with
  | zero => cases he
  | succ p =>
    obtain ⟨hlt, hget⟩ := List.getElem?_eq_some_iff.1 he
    have hpos : e.admitido = true → 0 < k.listaEstados.countP EstadoProceso.admitido := by
      intro hadm
      exact List.countP_pos_iff.2 ⟨e, hget ▸ List.getElem_mem hlt, hadm⟩
    rw [Estado.admitidos, hlista, Nat.add_sub_cancel, List.countP_set hlt, hget, Estado.admitidos]
    cases hadm : e.admitido <;> cases e'.admitido <;> simp
    · have := hpos hadm
      omega
    · have := hpos hadm
      omega

/-- The processes of a queue are all admitted, but for those in `cola_new` and `cola_exit`. -/
theorem admitido_of_lugarDe {interfaces : List Cadena} (h : lugarDe cfg interfaces e = some l) :
    e.admitido = decide (l ≠ .new ∧ l ≠ .exit) := by
  cases e with
  | blockIo interfaz =>
    obtain ⟨i, -, rfl⟩ := Option.map_eq_some_iff.1 h
    rfl
  | blockRecurso recurso =>
    obtain ⟨i, -, rfl⟩ := Option.map_eq_some_iff.1 h
    rfl
  | exec => cases h
  | block => cases h
  | _ => cases h; rfl

/-! ### Waking processes up -/

theorem iniciar_llegadas (cfg : KernelConfiguracion) (k : Estado) (p : ℕ) (motivo : Cadena) :
    Llegadas k (iniciar cfg k p motivo) := by
  unfold iniciar
  split_ifs with h1 h2
  · exact .of_ready rfl rfl rfl rfl rfl rfl
  · exact .of_ready rfl rfl rfl rfl rfl rfl
  · exact .of_readyM rfl rfl rfl rfl rfl rfl

/-- A process outside, which is admitted, becomes ready. -/
theorem Ubicados.iniciar_mismoGrado (h : Ubicados cfg (insert p fuera) k) (hp : p ∉ fuera)
    (he : k.estado p = some e) (hadm : e.admitido = true) (motivo : Cadena) :
    MismoGrado fuera k (Kernel.iniciar cfg k p motivo) := by
  obtain ⟨l, e', hl, hready, -, hlista⟩ := iniciar_cases cfg k p motivo
  refine ⟨by unfold Kernel.iniciar; split_ifs <;> rfl, ?_, fun q hq => ?_⟩
  · have hadm' : e'.admitido = true := by
      rw [admitido_of_lugarDe hl]
      rcases hready with rfl | rfl <;> rfl
    have hset := admitidos_of_set _ he hlista
    rw [hadm, hadm'] at hset
    exact Nat.add_right_cancel hset
  · rw [(h.estado_set (Finset.mem_insert_self p fuera) hlista).2, Function.update_of_ne]
    rintro rfl
    exact hp hq

/-- The head of a block queue becomes ready. -/
theorem Ubicados.desbloquear_cuentas {motivo : Cadena} (h : Ubicados cfg fuera k)
    (hl : l ≠ .new ∧ l ≠ .ready ∧ l ≠ .readyM) (hexit : l ≠ .exit)
    (hd : Kernel.desbloquear cfg k l motivo = some k') :
    Llegadas k k' ∧ MismoGrado fuera k k' := by
  obtain ⟨q, k₁, hq, rfl⟩ := desbloquear_eq_some hd
  obtain ⟨hfuera, -, hsacado⟩ := h.desencolar hq
  obtain ⟨resto, hcola, rfl⟩ := desencolar_eq_some hq
  obtain ⟨-, e, he, hlugar⟩ := h.estado_of_mem (p := q) (l := l) (by rw [hcola]; simp)
  have hadm : e.admitido = true := by
    rw [admitido_of_lugarDe hlugar]
    exact decide_eq_true ⟨hl.1, hexit⟩
  have hsale : Llegadas k { k with cola := Function.update k.cola l resto } :=
    .of_update rfl hl rfl rfl rfl rfl rfl
  have hgrado : MismoGrado fuera k { k with cola := Function.update k.cola l resto } :=
    ⟨rfl, rfl, fun _ _ => rfl⟩
  exact ⟨hsale.trans (iniciar_llegadas cfg _ q motivo),
    hgrado.trans (hsacado.iniciar_mismoGrado hfuera he hadm motivo)⟩

theorem Ubicados.signal_cuentas {recurso : Cadena} {b : Bool} (h : Ubicados cfg fuera k)
    (hs : Kernel.signal cfg k recurso p = some (k', b)) :
    Llegadas k k' ∧ MismoGrado fuera k k' := by
  rcases signal_cases hs with ⟨-, rfl, -⟩ | ⟨i, k₁, -, -, ⟨-, hdes⟩ | ⟨-, rfl⟩, hquitar⟩
  · exact ⟨.refl _, .refl _ _⟩
  · obtain ⟨-, rfl⟩ := quitar_eq_some hquitar
    have h₀ : Ubicados cfg fuera { k with
        instanciasRecurso := Function.update k.instanciasRecurso i (k.instanciasRecurso i + 1)
        reloj := k.reloj.seguir cfg k.finPorQuantum } := h.congr rfl rfl rfl rfl rfl
    obtain ⟨⟨hnew, hsem, hready, hreadyM⟩, ⟨hmulti, hadm, hest⟩⟩ :=
      h₀.desbloquear_cuentas (by simp) (by simp) hdes
    exact ⟨⟨hnew, hsem, hready, hreadyM⟩, ⟨hmulti, hadm, hest⟩⟩
  · obtain ⟨-, rfl⟩ := quitar_eq_some hquitar
    exact ⟨(Llegadas.refl k).congr rfl rfl rfl rfl rfl rfl, ⟨rfl, rfl, fun _ _ => rfl⟩⟩

theorem Ubicados.liberarRecursos_cuentas (h : Ubicados cfg fuera k)
    (hl : Kernel.liberarRecursos cfg k p = some k') :
    Llegadas k k' ∧ MismoGrado fuera k k' := by
  refine (liberarRecursosDesde_induct
    (P := fun k₁ => Ubicados cfg fuera k₁ ∧ Llegadas k k₁ ∧ MismoGrado fuera k k₁) ?_
    ⟨h, .refl k, .refl fuera k⟩ hl).2
  rintro k₁ k₂ b r ⟨hu, hlleg, hgrado⟩ - hs
  obtain ⟨hlleg', hgrado'⟩ := hu.signal_cuentas hs
  exact ⟨hu.signal hs, hlleg.trans hlleg', hgrado.trans hgrado'⟩

/-! ### The end of a process -/

/-- `exit_prima` gives a slot back, whether the process had one or not. -/
theorem Ubicados.exitPrima_cuentas (h : Ubicados cfg (insert p fuera) k)
    (he : k.estado p = some e) (hx : Kernel.exitPrima cfg k p = some k') :
    Llegadas k k' ∧ k'.grado + e.admitido.toNat = k.grado + 1 := by
  obtain ⟨k₁, hl, rfl⟩ := exitPrima_eq_some hx
  obtain ⟨hlleg, hmulti, hadm, hest⟩ := h.liberarRecursos_cuentas hl
  have he₁ : k₁.estado p = some e := by rw [hest p (Finset.mem_insert_self p fuera), he]
  refine ⟨hlleg.trans (.of_update (l := .exit) rfl (by decide) rfl rfl rfl rfl rfl), ?_⟩
  have hset := admitidos_of_set (({ k₁ with
    enviados := k₁.enviados ++ [Envio.finalizarProceso p]
    semMultiprogramacion := k₁.semMultiprogramacion + 1 }.encolar .exit p).cambiarEstado p
      .exit) he₁ rfl
  have hexit : EstadoProceso.exit.admitido.toNat = 0 := rfl
  show k₁.semMultiprogramacion + 1 + Estado.admitidos _ + _ = k.semMultiprogramacion + _ + 1
  omega

theorem Ubicados.terminar_cuentas {noCumplio : Bool} {motivo : Cadena} (h : Ubicados cfg ∅ k)
    (hp : k.estado p = some .exec) (ht : Kernel.terminar cfg k p noCumplio motivo = some k') :
    Llegadas k k' ∧ k'.grado = k.grado := by
  obtain ⟨k₁, he, rfl⟩ := terminar_eq_some ht
  have h₀ : Ubicados cfg (insert p ∅) (desalojarPorInstruccion cfg k) :=
    (h.apartar hp).congr rfl rfl rfl rfl rfl
  obtain ⟨⟨hnew, hsem, hready, hreadyM⟩, hgrado⟩ := h₀.exitPrima_cuentas (e := .exec) hp he
  exact ⟨⟨hnew, hsem, hready, hreadyM⟩, Nat.add_right_cancel hgrado⟩

/-! ### Requests of the running process -/

/-- The running process goes to a block queue. -/
theorem bloquear_cuentas {c : List ℕ} (hp : k.estado p = some .exec) (hadm : e.admitido = true)
    (hlista : k'.listaEstados = k.listaEstados.set (p - 1) e)
    (hmulti : k'.semMultiprogramacion = k.semMultiprogramacion)
    (hcola : k'.cola = Function.update k.cola l c) (hl : l ≠ .new ∧ l ≠ .ready ∧ l ≠ .readyM)
    (hnew : k'.semHayProcesosEnNew = k.semHayProcesosEnNew)
    (hready : k'.semProcesosEnReady = k.semProcesosEnReady)
    (hreadyM : k'.semProcesosEnReadyM = k.semProcesosEnReadyM)
    (hpids : k'.listaPidsReady = k.listaPidsReady)
    (hpidsM : k'.listaPidsReadyM = k.listaPidsReadyM) :
    Llegadas k k' ∧ k'.grado = k.grado := by
  refine ⟨.of_update hcola hl hnew hready hreadyM hpids hpidsM, ?_⟩
  have hset := admitidos_of_set k' hp hlista
  rw [hadm] at hset
  have hexec : EstadoProceso.exec.admitido = true := rfl
  rw [hexec] at hset
  rw [Estado.grado, Estado.grado, hmulti, Nat.add_right_cancel hset]

theorem wait_cuentas (hp : k.estado p = some .exec) (recurso : Cadena) :
    Llegadas k (wait cfg k recurso p).1 ∧ (wait cfg k recurso p).1.grado = k.grado := by
  rcases wait_cases cfg k recurso p with ⟨-, heq⟩ | ⟨i, k₁, hi, rfl, ⟨-, heq⟩ | ⟨-, heq⟩⟩
  · rw [heq]
    exact ⟨.refl k, rfl⟩
  · rw [heq]
    exact bloquear_cuentas (e := .blockRecurso recurso) (l := .recurso i) hp rfl rfl rfl rfl
      (by simp) rfl rfl rfl rfl rfl
  · rw [heq]
    exact ⟨(Llegadas.refl k).congr rfl rfl rfl rfl rfl rfl, rfl⟩

theorem bloquearPorIo_cuentas {lista : List Cadena} {motivo interfaz : Cadena}
    (hp : k.estado p = some .exec) (hb : bloquearPorIo cfg k lista p motivo interfaz = some k') :
    Llegadas k k' ∧ k'.grado = k.grado := by
  obtain ⟨i, mensajes, -, -, rfl⟩ := bloquearPorIo_eq_some hb
  refine bloquear_cuentas (e := .blockIo interfaz) (l := .io i) hp rfl ?_ rfl rfl
    (by simp) rfl rfl rfl rfl rfl
  exact List.set_set _

theorem Ubicados.atenderSolicitudCpu_cuentas {lista : List Cadena} {motivo : Cadena}
    (h : Ubicados cfg ∅ k) (hp : k.estado p = some .exec)
    (ha : Kernel.atenderSolicitudCpu cfg k lista p motivo = some k') :
    Llegadas k k' ∧ k'.grado = k.grado := by
  rcases atenderSolicitudCpu_cases ha with ⟨-, rfl⟩ | ⟨k₀, hk₀, hcases⟩
  · obtain ⟨hmulti, hadm, -⟩ :=
      (h.apartar hp).iniciar_mismoGrado (Finset.notMem_empty p) (e := .exec) hp rfl motivo
    exact ⟨iniciar_llegadas cfg k p motivo, by rw [Estado.grado, hmulti, hadm, Estado.grado]⟩
  have hlleg₀ : Llegadas k k₀ := by
    rw [hk₀]
    exact (Llegadas.refl k).congr rfl rfl rfl rfl rfl rfl
  have hgrado₀ : k₀.grado = k.grado := by
    rw [hk₀]
    rfl
  have hp₀ : k₀.estado p = some .exec := by
    rw [hk₀]
    exact hp
  have h₀ : Ubicados cfg ∅ k₀ := by
    rw [hk₀]
    exact h.congr_exec hp rfl rfl rfl rfl rfl
  have hfin : Llegadas k₀ k' ∧ k'.grado = k₀.grado := by
    rcases hcases with ⟨_, _, -, ht⟩ | ⟨interfaz, -, hb⟩ | ⟨recurso, rfl⟩ | ⟨recurso, hs⟩ | rfl
    · exact h₀.terminar_cuentas hp₀ ht
    · exact bloquearPorIo_cuentas hp₀ hb
    · exact wait_cuentas hp₀ recurso
    · obtain ⟨hlleg, hmulti, hadm, -⟩ := h₀.signal_cuentas hs
      exact ⟨hlleg, by rw [Estado.grado, hmulti, hadm, Estado.grado]⟩
    · exact ⟨.refl _, rfl⟩
  exact ⟨hlleg₀.trans hfin.1, hfin.2.trans hgrado₀⟩

theorem Ubicados.finDeIo_cuentas {idInterfaz mensaje : Cadena} (h : Ubicados cfg ∅ k)
    (hf : Kernel.finDeIo cfg k idInterfaz mensaje = some k') :
    Llegadas k k' ∧ k'.grado = k.grado := by
  rcases finDeIo_cases hf with rfl | ⟨i, fin, -, -, hd⟩
  · exact ⟨.refl k', rfl⟩
  · obtain ⟨hlleg, hmulti, hadm, -⟩ := h.desbloquear_cuentas (by simp) (by simp) hd
    exact ⟨hlleg, by rw [Estado.grado, hmulti, hadm, Estado.grado]⟩

/-! ### `FINALIZAR_PROCESO` -/

/-- `encontrar_pcb` gives a slot back for a ready or running process. -/
theorem Ubicados.encontrarPcb_grado (h : Ubicados cfg ∅ k)
    (he : Kernel.encontrarPcb cfg k p = some k') :
    ∃ e, k.estado p = some e ∧ k'.estado p = some e ∧
      (e = .new ∧ k'.grado = k.grado ∨
        (e = .ready ∨ e = .readyM ∨ e = .exec) ∧ k'.grado = k.grado + 1 ∨
        e.bloqueado = true ∧ k'.grado = k.grado) := by
  have hsacar : ∀ (k₀ : Estado) {k' : Estado} {l : Lugar}, k₀.listaEstados = k.listaEstados →
      k₀.sacarDe l p = some k' → k'.listaEstados = k.listaEstados ∧
        k'.semMultiprogramacion = k₀.semMultiprogramacion := by
    intro k₀ k' l hk₀ hs
    obtain ⟨resto, -, rfl⟩ := Option.map_eq_some_iff.1 hs
    exact ⟨hk₀, rfl⟩
  have hgrado : ∀ {k' : Estado} {n : ℕ}, k'.listaEstados = k.listaEstados →
      k'.semMultiprogramacion = k.semMultiprogramacion + n → k'.grado = k.grado + n := by
    intro k' n hlista hmulti
    rw [Estado.grado, hmulti, admitidos_of_listaEstados hlista, Estado.grado]
    omega
  -- a process found in a block queue is blocked
  have hbloq : ∀ {l : Lugar}, p ∈ k.cola l → (∀ e, lugarDe cfg k.interfaces e = some l →
      e.bloqueado = true) → ∃ e, k.estado p = some e ∧ e.bloqueado = true := by
    intro l hp hl
    obtain ⟨-, e, hs, hlugar⟩ := h.estado_of_mem hp
    exact ⟨e, hs, hl e hlugar⟩
  rcases encontrarPcb_cases he with ⟨hs, hsaca⟩ | ⟨hs, hsaca⟩ | ⟨hs, hsaca⟩ |
    ⟨hs, resto, -, rfl⟩ | ⟨i, -, hsaca⟩ | ⟨e, i, k₁, hs, -, -, -, -, -, hsaca, hq⟩
  · obtain ⟨hlista, hmulti⟩ := hsacar k rfl hsaca
    exact ⟨.new, hs, by rw [estado_of_listaEstados hlista, hs],
      Or.inl ⟨rfl, hgrado (n := 0) hlista hmulti⟩⟩
  · obtain ⟨hlista, hmulti⟩ := hsacar { k with
      semMultiprogramacion := k.semMultiprogramacion + 1 } rfl hsaca
    exact ⟨.ready, hs, by rw [estado_of_listaEstados hlista, hs],
      Or.inr (Or.inl ⟨by simp, hgrado hlista hmulti⟩)⟩
  · obtain ⟨hlista, hmulti⟩ := hsacar { k with
      semMultiprogramacion := k.semMultiprogramacion + 1 } rfl hsaca
    exact ⟨.readyM, hs, by rw [estado_of_listaEstados hlista, hs],
      Or.inr (Or.inl ⟨by simp, hgrado hlista hmulti⟩)⟩
  · exact ⟨.exec, hs, hs, Or.inr (Or.inl ⟨by simp, hgrado rfl rfl⟩)⟩
  · have h₀ : Ubicados cfg ∅ { k with
        semHayProceso := Function.update k.semHayProceso i (k.semHayProceso i - 1) } :=
      h.congr rfl rfl rfl rfl rfl
    obtain ⟨hlista, hmulti⟩ := hsacar { k with
      semHayProceso := Function.update k.semHayProceso i (k.semHayProceso i - 1) } rfl hsaca
    obtain ⟨e, hs, hb⟩ := hbloq (sacarDe_eq_some (h₀.colocados.nodup _) hsaca).1 (by
      intro e hl
      cases e <;> first | rfl | simp [lugarDe] at hl)
    exact ⟨e, hs, by rw [estado_of_listaEstados hlista, hs],
      Or.inr (Or.inr ⟨hb, hgrado (n := 0) hlista hmulti⟩)⟩
  · obtain ⟨e, hs, hb⟩ := hbloq (sacarDe_eq_some (h.colocados.nodup _) hsaca).1 (by
      intro e hl
      cases e <;> first | rfl | simp [lugarDe] at hl)
    obtain ⟨hlista, hmulti⟩ := hsacar k rfl hsaca
    obtain ⟨-, rfl⟩ := quitar_eq_some hq
    exact ⟨e, hs, (congrFun (estado_of_listaEstados hlista) p).trans hs,
      Or.inr (Or.inr ⟨hb, hgrado (n := 0) hlista hmulti⟩)⟩

/-- `FINALIZAR_PROCESO` of a process that is not blocked gives back one slot too many. -/
theorem Ubicados.finalizarProceso_grado (h : Ubicados cfg ∅ k)
    (hf : Kernel.finalizarProceso cfg k p = some k') :
    ∃ e, k.estado p = some e ∧ k'.grado = k.grado + if e.bloqueado then 0 else 1 := by
  obtain ⟨k₁, mensajes, he, hexit⟩ := finalizarProceso_eq_some hf
  obtain ⟨e, hs, hs₁, hgrado⟩ := h.encontrarPcb_grado he
  have h₁ : Ubicados cfg (insert p ∅) { k₁ with enviados := mensajes } :=
    (h.encontrarPcb he).congr rfl rfl rfl rfl rfl
  have hfin := (h₁.exitPrima_cuentas (e := e) hs₁ hexit).2
  have hk₁ : Estado.grado { k₁ with enviados := mensajes } = k₁.grado := rfl
  rw [hk₁] at hfin
  refine ⟨e, hs, ?_⟩
  rcases hgrado with ⟨rfl, hg⟩ | ⟨rfl | rfl | rfl, hg⟩ | ⟨hb, hg⟩
  · have hadm : EstadoProceso.new.admitido.toNat = 0 := rfl
    show k'.grado = k.grado + 1
    omega
  · have hadm : EstadoProceso.ready.admitido.toNat = 1 := rfl
    show k'.grado = k.grado + 1
    omega
  · have hadm : EstadoProceso.readyM.admitido.toNat = 1 := rfl
    show k'.grado = k.grado + 1
    omega
  · have hadm : EstadoProceso.exec.admitido.toNat = 1 := rfl
    show k'.grado = k.grado + 1
    omega
  · have hadm : e.admitido.toNat = 1 := by
      cases e <;> first | rfl | cases hb
    rw [if_pos hb]
    omega

/-! ### The degree of multiprogramming -/

/-- Every other step keeps the slots. -/
theorem paso_grado (h : Ubicados cfg ∅ k) {ev : Evento} (hp : paso cfg k ev = some k')
    (hev : ∀ p, ev ≠ .finalizarProceso p) : k'.grado = k.grado := by
  cases ev with
  | iniciarProceso path =>
    cases hp
    have hadm : (iniciarProceso k path).admitidos = k.admitidos := by
      have hlista : (iniciarProceso k path).listaEstados = k.listaEstados ++ [.new] := rfl
      rw [Estado.admitidos, hlista, List.countP_append]
      rfl
    show k.semMultiprogramacion + _ = _
    rw [hadm, Estado.grado]
  | finalizarProceso p => exact absurd rfl (hev p)
  | iniciarPlanificacion =>
    cases hp
    rfl
  | detenerPlanificacion =>
    obtain ⟨-, rfl⟩ := detenerPlanificacion_eq_some hp
    rfl
  | administrarProcesosNew =>
    obtain ⟨q, k₁, pendientes, primero, -, hmulti, hd, -, rfl⟩ := administrarProcesosNew_eq_some hp
    obtain ⟨resto, hq, rfl⟩ := desencolar_eq_some hd
    obtain ⟨-, e, hs, hlugar⟩ := h.estado_of_mem (p := q) (l := .new) (by rw [hq]; simp)
    have hset := admitidos_of_set { ({ k with
      cola := Function.update k.cola .new resto }.cambiarEstado q .ready) with
        semMultiprogramacion := k.semMultiprogramacion - 1 } hs rfl
    have hadm : e.admitido = false := by
      rw [admitido_of_lugarDe hlugar]
      rfl
    rw [hadm] at hset
    have hready : EstadoProceso.ready.admitido.toNat = 1 := rfl
    show k.semMultiprogramacion - 1 + Estado.admitidos { ({ k with
      cola := Function.update k.cola .new resto }.cambiarEstado q .ready) with
        semMultiprogramacion := k.semMultiprogramacion - 1 } = k.semMultiprogramacion + k.admitidos
    rw [hready] at hset
    have hfalse : false.toNat = 0 := rfl
    omega
  | replanificar motivo =>
    obtain ⟨quantum, l, ht⟩ := replanificar_eq_some (paso_replanificar_eq_some hp).2
    have hready : ∀ {q : ℕ} {m : Lugar} {resto : List ℕ} {k' : Estado}, k.cola m = q :: resto →
        m ≠ .new ∧ m ≠ .exit → k'.listaEstados = k.listaEstados.set (q - 1) .exec →
        k'.semMultiprogramacion = k.semMultiprogramacion → k'.grado = k.grado := by
      intro q m resto k' hq hm hlista hmulti
      obtain ⟨-, e, hs, hlugar⟩ := h.estado_of_mem (p := q) (l := m) (by rw [hq]; simp)
      have hset := admitidos_of_set k' hs hlista
      have hadm : e.admitido = EstadoProceso.exec.admitido := by
        rw [admitido_of_lugarDe hlugar]
        exact decide_eq_true hm
      rw [hadm] at hset
      rw [Estado.grado, hmulti, Nat.add_right_cancel hset, Estado.grado]
    obtain ⟨m, q, k₂, _, _, _, _, hm, hd, rfl⟩ := terminarReplanificacion_desencola ht
    obtain ⟨resto, hq, rfl⟩ := desencolar_eq_some hd
    exact hready hq (by rcases hm with rfl | rfl <;> decide) rfl rfl
  | enviarACpu =>
    obtain ⟨-, rfl⟩ := enviarACpu_eq_some hp
    rfl
  | paquete motivo lista =>
    obtain ⟨pid, hpid, hr⟩ := paquete_eq_some hp
    have h₀ : Ubicados cfg ∅ { k with motivo := motivo } := h.congr rfl rfl rfl rfl rfl
    exact (h₀.atenderSolicitudCpu_cuentas (h.enEjecucion_iff.1 hpid) hr).2
  | finInstruccion =>
    cases hp
    unfold recibirMensajeCpu
    split_ifs <;> rfl
  | quantum finPorQuantum =>
    cases hp
    rfl
  | conectarInterfaz idInterfaz permitidas conexion =>
    cases hp
    unfold conectarInterfaz
    dsimp only
    split_ifs <;> rfl
  | finDeIo idInterfaz mensaje => exact (h.finDeIo_cuentas hp).2

/-- **The degree of multiprogramming**: the free slots and the admitted processes add up to the
configured degree along a run exactly when every process that `FINALIZAR_PROCESO` ends is blocked.
Of any other process the slot is given back both by `encontrar_pcb` and by `exit_prima`, and of a
new one a slot that it does not have. -/
theorem grado_iff (cfg : KernelConfiguracion) (evs : List Evento) :
    Along (paso cfg) (fun k => k.semMultiprogramacion + k.admitidos = cfg.gradoMultiprogramacion)
      (Estado.inicial cfg) evs ↔
    Meets (paso cfg) (fun k ev => ∀ p, ev = .finalizarProceso p →
      ∀ e, k.estado p = some e → e.bloqueado = true) (Estado.inicial cfg) evs := by
  refine along_iff_meets (I := Ubicados cfg ∅) (fun k ev k' h hp => paso_ubicados h hp) ?_
    (ubicados_inicial cfg) rfl
  intro k ev k' h hgrado hp
  change k.grado = _ at hgrado
  change k'.grado = _ ↔ _
  constructor
  · rintro hgrado' p rfl e he
    obtain ⟨e', he', hfin⟩ := h.finalizarProceso_grado hp
    rw [he] at he'
    cases he'
    cases hb : e.bloqueado with
    | true => rfl
    | false =>
      rw [hb] at hfin
      simp only [Bool.false_eq_true, if_false] at hfin
      omega
  · intro hc
    by_cases hfinal : ∃ p, ev = .finalizarProceso p
    · obtain ⟨p, rfl⟩ := hfinal
      obtain ⟨e, he, hfin⟩ := h.finalizarProceso_grado hp
      rw [hc p rfl e he] at hfin
      simpa using hfin.trans hgrado
    · rw [paso_grado h hp fun p heq => hfinal ⟨p, heq⟩, hgrado]

/-- With degree one, a process that the user ends while it is new lets two others in at once: one is
admitted and dispatched, and the admission of the next one does not wait for it. -/
theorem grado_excedido_tras_finalizar :
    ∃ k, run (paso ⟨.FIFO, [], 1⟩) (Estado.inicial ⟨.FIFO, [], 1⟩)
        [.iniciarProceso [], .iniciarProceso [], .iniciarProceso [], .finalizarProceso 1,
          .administrarProcesosNew, .iniciarPlanificacion, .replanificar "NEW".toList, .enviarACpu,
          .administrarProcesosNew] = some k ∧
      k.estado 2 = some .exec ∧ k.estado 3 = some .ready ∧ k.admitidos = 2 ∧
      k.semMultiprogramacion + k.admitidos ≠ 1 :=
  ⟨_, rfl, rfl, rfl, rfl, by decide⟩

/-! ### The new and ready queues -/

/-- The permits count the processes in the new and ready queues, and the pid lists list them. -/
structure Sincronizados (k : Estado) : Prop where
  new : k.semHayProcesosEnNew = (k.cola .new).length
  ready : k.semProcesosEnReady = (k.cola .ready).length
  readyM : k.semProcesosEnReadyM = (k.cola .readyM).length
  pids : k.listaPidsReady = k.cola .ready
  pidsM : k.listaPidsReadyM = k.cola .readyM

theorem Sincronizados.llegadas (h : Sincronizados k) (hl : Llegadas k k') : Sincronizados k' := by
  obtain ⟨hnew, hsem, ⟨r, hr, hpr, hsr⟩, ⟨m, hm, hpm, hsm⟩⟩ := hl
  constructor
  · rw [hsem, hnew, h.new]
  · rw [hsr, hr, List.length_append, h.ready]
  · rw [hsm, hm, List.length_append, h.readyM]
  · rw [hpr, hr, h.pids]
  · rw [hpm, hm, h.pidsM]

/-- What an excess of permits over a queue is after arrivals. -/
theorem Llegadas.exceso (h : Llegadas k k') :
    k'.semHayProcesosEnNew + (k.cola .new).length =
      k.semHayProcesosEnNew + (k'.cola .new).length ∧
    k'.semProcesosEnReady + (k.cola .ready).length =
      k.semProcesosEnReady + (k'.cola .ready).length ∧
    k'.semProcesosEnReadyM + (k.cola .readyM).length =
      k.semProcesosEnReadyM + (k'.cola .readyM).length := by
  obtain ⟨hnew, hsem, ⟨r, hr, -, hsr⟩, ⟨m, hm, -, hsm⟩⟩ := h
  rw [hnew, hsem, hr, hsr, hm, hsm, List.length_append, List.length_append]
  omega

/-- `encontrar_pcb` takes the process out of its queue, and leaves the account of the queue. -/
theorem Ubicados.encontrarPcb_colas (h : Ubicados cfg ∅ k)
    (he : Kernel.encontrarPcb cfg k p = some k') :
    (∀ l, k'.cola l = (k.cola l).erase p) ∧
      k'.semHayProcesosEnNew = k.semHayProcesosEnNew ∧
      k'.semProcesosEnReady = k.semProcesosEnReady ∧
      k'.semProcesosEnReadyM = k.semProcesosEnReadyM ∧
      k'.listaPidsReady = k.listaPidsReady ∧ k'.listaPidsReadyM = k.listaPidsReadyM := by
  have hadmitido : Ubicados cfg ∅ { k with
      semMultiprogramacion := k.semMultiprogramacion + 1 } := h.congr rfl rfl rfl rfl rfl
  have hcolas : ∀ l, k'.cola l = (k.cola l).erase p := by
    rcases encontrarPcb_cases he with ⟨-, hs⟩ | ⟨-, hs⟩ | ⟨-, hs⟩ | ⟨hexec, resto, -, rfl⟩ |
      ⟨i, -, hs⟩ | ⟨e, i, k₁, -, -, -, -, -, -, hs, hq⟩
    · exact h.cola_sacarDe hs
    · exact hadmitido.cola_sacarDe hs
    · exact hadmitido.cola_sacarDe hs
    · intro l
      have hp := (h.apartar hexec).notMem_cola (Finset.mem_insert_self p ∅) l
      exact (List.erase_of_not_mem hp).symm
    · have h₀ : Ubicados cfg ∅ { k with
          semHayProceso := Function.update k.semHayProceso i (k.semHayProceso i - 1) } :=
        h.congr rfl rfl rfl rfl rfl
      exact h₀.cola_sacarDe hs
    · have hsaca := h.cola_sacarDe hs
      obtain ⟨-, rfl⟩ := quitar_eq_some hq
      exact hsaca
  obtain ⟨_, _, _, _, _, _, rfl⟩ := encontrarPcb_eq_some he
  exact ⟨hcolas, rfl, rfl, rfl, rfl, rfl⟩

/-- `FINALIZAR_PROCESO` of a process that is neither new nor ready keeps the account of the queues,
and of one that is breaks it. -/
theorem Ubicados.finalizarProceso_sincronizados (h : Ubicados cfg ∅ k) (hk : Sincronizados k)
    (hf : Kernel.finalizarProceso cfg k p = some k') :
    ∃ e, k.estado p = some e ∧
      (Sincronizados k' ↔ e ≠ .new ∧ e ≠ .ready ∧ e ≠ .readyM) := by
  obtain ⟨k₁, mensajes, he, hexit⟩ := finalizarProceso_eq_some hf
  obtain ⟨e, hs, hs₁, -⟩ := h.encontrarPcb_grado he
  have h₁ : Ubicados cfg (insert p ∅) { k₁ with enviados := mensajes } :=
    (h.encontrarPcb he).congr rfl rfl rfl rfl rfl
  obtain ⟨hnew', hsem', hready', hreadyM'⟩ := (h₁.exitPrima_cuentas (e := e) hs₁ hexit).1
  have hlleg : Llegadas k₁ k' := ⟨hnew', hsem', hready', hreadyM'⟩
  obtain ⟨hcolas, hsemNew, hsemReady, hsemReadyM, hpids, hpidsM⟩ := h.encontrarPcb_colas he
  obtain ⟨hxnew, hxready, hxreadyM⟩ := hlleg.exceso
  have hmem : ∀ l, p ∈ k.cola l ↔ lugarDe cfg k.interfaces e = some l := by
    intro l
    rw [h.colocados.mem_iff]
    simp [Estado.lugar, hs]
  have hlen : ∀ l, lugarDe cfg k.interfaces e = some l →
      (k₁.cola l).length + 1 = (k.cola l).length := by
    intro l hl
    have hp := (hmem l).2 hl
    have hpos := List.length_pos_of_mem hp
    rw [hcolas, List.length_erase_of_mem hp]
    omega
  refine ⟨e, hs, fun hk' => ⟨?_, ?_, ?_⟩, fun hne => ?_⟩
  · rintro rfl
    have hl := hlen .new rfl
    have h1 := hk.new
    have h2 := hk'.new
    omega
  · rintro rfl
    have hl := hlen .ready rfl
    have h1 := hk.ready
    have h2 := hk'.ready
    omega
  · rintro rfl
    have hl := hlen .readyM rfl
    have h1 := hk.readyM
    have h2 := hk'.readyM
    omega
  · -- the three queues did not hold the process
    have hqueda : ∀ l, lugarDe cfg k.interfaces e ≠ some l → k₁.cola l = k.cola l := by
      intro l hl
      rw [hcolas, List.erase_of_not_mem fun hp => hl ((hmem l).1 hp)]
    have hk₁ : Sincronizados k₁ := by
      have hnew := hqueda .new fun hl => hne.1 (estado_of_lugarDe hl)
      have hready := hqueda .ready fun hl => hne.2.1 (estado_of_lugarDe hl)
      have hreadyM := hqueda .readyM fun hl => hne.2.2 (estado_of_lugarDe hl)
      constructor
      · rw [hsemNew, hnew, hk.new]
      · rw [hsemReady, hready, hk.ready]
      · rw [hsemReadyM, hreadyM, hk.readyM]
      · rw [hpids, hready, hk.pids]
      · rw [hpidsM, hreadyM, hk.pidsM]
    exact hk₁.llegadas hlleg

/-- What a step takes out of the new and ready queues, before the processes that it makes ready
arrive: with the permit and the pid, but for `FINALIZAR_PROCESO`. -/
inductive Sale (ev : Evento) (k : Estado) : Estado → Prop
  | nadie : Sale ev k k
  | crea (p : ℕ) : Sale ev k { k with
      cola := Function.update k.cola .new (k.cola .new ++ [p])
      semHayProcesosEnNew := k.semHayProcesosEnNew + 1 }
  | admite {p : ℕ} {resto : List ℕ} (hcola : k.cola .new = p :: resto) : Sale ev k { k with
      cola := Function.update k.cola .new resto
      semHayProcesosEnNew := k.semHayProcesosEnNew - 1 }
  | despacha {p : ℕ} {resto : List ℕ} (hcola : k.cola .ready = p :: resto) : Sale ev k { k with
      cola := Function.update k.cola .ready resto
      semProcesosEnReady := k.semProcesosEnReady - 1
      listaPidsReady := k.listaPidsReady.tail }
  | despachaM {p : ℕ} {resto : List ℕ} (hcola : k.cola .readyM = p :: resto) : Sale ev k { k with
      cola := Function.update k.cola .readyM resto
      semProcesosEnReadyM := k.semProcesosEnReadyM - 1
      listaPidsReadyM := k.listaPidsReadyM.tail }
  | finaliza {p : ℕ} {k₁ : Estado} (hev : ev = .finalizarProceso p)
      (hcolas : ∀ l, k₁.cola l = (k.cola l).erase p)
      (hnew : k₁.semHayProcesosEnNew = k.semHayProcesosEnNew)
      (hready : k₁.semProcesosEnReady = k.semProcesosEnReady)
      (hreadyM : k₁.semProcesosEnReadyM = k.semProcesosEnReadyM)
      (hpids : k₁.listaPidsReady = k.listaPidsReady)
      (hpidsM : k₁.listaPidsReadyM = k.listaPidsReadyM) : Sale ev k k₁

/-- What every step does to the new and ready queues. -/
theorem paso_colas (h : Ubicados cfg ∅ k) {ev : Evento} (hp : paso cfg k ev = some k') :
    ∃ k₁, Sale ev k k₁ ∧ Llegadas k₁ k' := by
  cases ev with
  | iniciarProceso path =>
    cases hp
    exact ⟨_, .crea k.contadorPid, (Llegadas.refl _).congr rfl rfl rfl rfl rfl rfl⟩
  | finalizarProceso p =>
    obtain ⟨k₁, mensajes, he, hexit⟩ := finalizarProceso_eq_some hp
    obtain ⟨e, -, hs₁, -⟩ := h.encontrarPcb_grado he
    obtain ⟨hcolas, hnew, hready, hreadyM, hpids, hpidsM⟩ := h.encontrarPcb_colas he
    have h₁ : Ubicados cfg (insert p ∅) { k₁ with enviados := mensajes } :=
      (h.encontrarPcb he).congr rfl rfl rfl rfl rfl
    exact ⟨{ k₁ with enviados := mensajes },
      .finaliza rfl hcolas hnew hready hreadyM hpids hpidsM,
      (h₁.exitPrima_cuentas (e := e) hs₁ hexit).1⟩
  | iniciarPlanificacion =>
    cases hp
    exact ⟨k, .nadie, (Llegadas.refl k).congr rfl rfl rfl rfl rfl rfl⟩
  | detenerPlanificacion =>
    obtain ⟨-, rfl⟩ := detenerPlanificacion_eq_some hp
    exact ⟨k, .nadie, (Llegadas.refl k).congr rfl rfl rfl rfl rfl rfl⟩
  | administrarProcesosNew =>
    obtain ⟨q, k₁, pendientes, primero, -, -, hd, -, rfl⟩ := administrarProcesosNew_eq_some hp
    obtain ⟨resto, hq, rfl⟩ := desencolar_eq_some hd
    exact ⟨_, .admite hq, .of_ready (p := q) rfl rfl rfl rfl rfl rfl⟩
  | replanificar motivo =>
    obtain ⟨quantum, l, ht⟩ := replanificar_eq_some (paso_replanificar_eq_some hp).2
    obtain ⟨q, k₂, ⟨-, -, hd, rfl⟩ | ⟨-, -, hd, rfl⟩⟩ := terminarReplanificacion_eq_some ht
    · obtain ⟨resto, hq, rfl⟩ := desencolar_eq_some hd
      exact ⟨_, .despachaM hq, (Llegadas.refl _).congr rfl rfl rfl rfl rfl rfl⟩
    · obtain ⟨resto, hq, rfl⟩ := desencolar_eq_some hd
      exact ⟨_, .despacha hq, (Llegadas.refl _).congr rfl rfl rfl rfl rfl rfl⟩
  | enviarACpu =>
    obtain ⟨-, rfl⟩ := enviarACpu_eq_some hp
    exact ⟨k, .nadie, (Llegadas.refl k).congr rfl rfl rfl rfl rfl rfl⟩
  | paquete motivo lista =>
    obtain ⟨pid, hpid, hr⟩ := paquete_eq_some hp
    have h₀ : Ubicados cfg ∅ { k with motivo := motivo } := h.congr rfl rfl rfl rfl rfl
    have hllegan := (h₀.atenderSolicitudCpu_cuentas (h.enEjecucion_iff.1 hpid) hr).1
    have hmotivo : Llegadas k { k with motivo := motivo } :=
      (Llegadas.refl k).congr rfl rfl rfl rfl rfl rfl
    exact ⟨k, .nadie, hmotivo.trans hllegan⟩
  | finInstruccion =>
    cases hp
    refine ⟨k, .nadie, ?_⟩
    unfold recibirMensajeCpu
    split_ifs <;> exact (Llegadas.refl k).congr rfl rfl rfl rfl rfl rfl
  | quantum finPorQuantum =>
    cases hp
    exact ⟨k, .nadie, (Llegadas.refl k).congr rfl rfl rfl rfl rfl rfl⟩
  | conectarInterfaz idInterfaz permitidas conexion =>
    cases hp
    refine ⟨k, .nadie, ?_⟩
    unfold conectarInterfaz
    dsimp only
    split_ifs
    · exact (Llegadas.refl k).congr rfl rfl rfl rfl rfl rfl
    · exact .of_update (l := .io k.interfaces.length) rfl (by simp) rfl rfl rfl rfl rfl
  | finDeIo idInterfaz mensaje => exact ⟨k, .nadie, (h.finDeIo_cuentas hp).1⟩

/-- Every step but `FINALIZAR_PROCESO` keeps the account of the queues. -/
theorem paso_sincronizados (h : Ubicados cfg ∅ k) (hk : Sincronizados k) {ev : Evento}
    (hp : paso cfg k ev = some k') (hev : ∀ p, ev ≠ .finalizarProceso p) : Sincronizados k' := by
  obtain ⟨k₁, hsale, hllegan⟩ := paso_colas h hp
  refine Sincronizados.llegadas ?_ hllegan
  obtain ⟨hnew, hready, hreadyM, hpids, hpidsM⟩ := hk
  cases hsale with
  | nadie => exact ⟨hnew, hready, hreadyM, hpids, hpidsM⟩
  | crea p => exact ⟨by simp [hnew], by simp [hready], by simp [hreadyM], by simp [hpids],
      by simp [hpidsM]⟩
  | admite hcola => exact ⟨by simp [hnew, hcola], by simp [hready], by simp [hreadyM],
      by simp [hpids], by simp [hpidsM]⟩
  | despacha hcola => exact ⟨by simp [hnew], by simp [hready, hcola], by simp [hreadyM],
      by simp [hpids, hcola], by simp [hpidsM]⟩
  | despachaM hcola => exact ⟨by simp [hnew], by simp [hready], by simp [hreadyM, hcola],
      by simp [hpids], by simp [hpidsM, hcola]⟩
  | finaliza hfinal => exact absurd hfinal (hev _)

/-- Where the account is right, the queue of a semaphore with a permit is not empty. -/
theorem Sincronizados.ne_nil (h : Sincronizados k) :
    (k.semHayProcesosEnNew ≠ 0 → k.cola .new ≠ []) ∧
      (k.semProcesosEnReady ≠ 0 → k.cola .ready ≠ []) ∧
      (k.semProcesosEnReadyM ≠ 0 → k.cola .readyM ≠ []) := by
  have hnil : ∀ {n : ℕ} {c : List ℕ}, n = c.length → n ≠ 0 → c ≠ [] := by
    rintro n c hn hne rfl
    exact hne hn
  exact ⟨hnil h.new, hnil h.ready, hnil h.readyM⟩

/-- **The permits of the new and ready queues** count their processes, the pid lists list them, and
no `queue_pop` after a permit meets an empty queue, along a run exactly when no process that
`FINALIZAR_PROCESO` ends is new or ready. -/
theorem sincronizados_iff (cfg : KernelConfiguracion) (evs : List Evento) :
    Along (paso cfg) (fun k => Sincronizados k ∧
        (k.semHayProcesosEnNew ≠ 0 → k.cola .new ≠ []) ∧
        (k.semProcesosEnReady ≠ 0 → k.cola .ready ≠ []) ∧
        (k.semProcesosEnReadyM ≠ 0 → k.cola .readyM ≠ []))
      (Estado.inicial cfg) evs ↔
    Meets (paso cfg) (fun k ev => ∀ p, ev = .finalizarProceso p →
      ∀ e, k.estado p = some e → e ≠ .new ∧ e ≠ .ready ∧ e ≠ .readyM) (Estado.inicial cfg) evs := by
  have hinicial : Sincronizados (Estado.inicial cfg) := ⟨rfl, rfl, rfl, rfl, rfl⟩
  refine along_iff_meets (I := Ubicados cfg ∅) (fun k ev k' h hp => paso_ubicados h hp) ?_
    (ubicados_inicial cfg) ⟨hinicial, hinicial.ne_nil⟩
  rintro k ev k' h ⟨hk, -⟩ hp
  constructor
  · rintro ⟨hk', -⟩ p rfl e he
    obtain ⟨e', he', hiff⟩ := h.finalizarProceso_sincronizados hk hp
    rw [he] at he'
    cases he'
    exact hiff.1 hk'
  · intro hc
    have hk' : Sincronizados k' := by
      by_cases hfinal : ∃ p, ev = .finalizarProceso p
      · obtain ⟨p, rfl⟩ := hfinal
        obtain ⟨e, he, hiff⟩ := h.finalizarProceso_sincronizados hk hp
        exact hiff.2 (hc p rfl e he)
      · exact paso_sincronizados h hk hp fun p heq => hfinal ⟨p, heq⟩
    exact ⟨hk', hk'.ne_nil⟩

/-- The user ends the only ready process: its permit stays, and so does its pid. -/
theorem no_sincronizados_tras_finalizar :
    ∃ k, run (paso ⟨.FIFO, [], 1⟩) (Estado.inicial ⟨.FIFO, [], 1⟩)
        [.iniciarProceso [], .administrarProcesosNew, .finalizarProceso 1] = some k ∧
      k.semProcesosEnReady = 1 ∧ k.cola .ready = [] ∧ k.listaPidsReady = [1] ∧
      ¬ Sincronizados k := by
  refine ⟨_, rfl, rfl, rfl, rfl, fun h => ?_⟩
  have hready := h.ready
  exact absurd hready (by decide)

end SimuladorSO.Kernel
