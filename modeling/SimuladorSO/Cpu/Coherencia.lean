import SimuladorSO.Cpu.Tlb
import SimuladorSO.Memoria.Cuentas

/-!
# Coherence of the TLB with the page tables

The system of the CPU's translations and memoria's page tables.  Nothing in the CPU removes an
entry when memoria changes a mapping; creations and terminations do no harm, since no pid is used
twice, but a RESIZE does: `coherente_iff` shows that the TLB path agrees with the page tables in
every state of a run exactly when no RESIZE touches a page that the TLB holds.
-/

namespace SimuladorSO.Cpu

open CInt Dictionary Loops Allocation Transitions Memoria

/-- The memory, the TLB, and the pid of the next process. -/
structure Sistema where
  memoria : Memoria.Estado
  tlb : List BaseTlb
  contadorPid : ℤ

/-- What happens to the system. -/
inductive Evento
  | crear (archivo : Cadena)
  | redimensionar (pid tamanioNuevo : ℤ)
  | terminar (pid : ℤ)
  | traducir (pid direccionLogica : ℤ)

variable (cfg : MemoriaConfiguracion) (cpu : CpuConfiguracion)

/-- The system at start-up. -/
def Sistema.inicial (espacio : ℤ → UInt8) : Sistema :=
  ⟨generarEspacioMemoria espacio, inicializarTlb cpu, 1⟩

/-- One event. -/
def paso (s : Sistema) : Evento → Option Sistema
  | .crear archivo =>
    some ⟨recibirInfoKernel s.memoria (.iniciarProceso archivo s.contadorPid), s.tlb,
      s.contadorPid + 1⟩
  | .redimensionar pid tamanioNuevo =>
    (redimensionarProceso cfg s.memoria pid tamanioNuevo).map fun (m, _) =>
      ⟨m, s.tlb, s.contadorPid⟩
  | .terminar pid =>
    some ⟨recibirInfoKernel s.memoria (.finalizarProceso pid), s.tlb, s.contadorPid⟩
  | .traducir pid direccionLogica =>
    (obtenerDireccionFisica cpu cfg.tamPagina (obtenerMarco s.memoria pid) s.tlb
      direccionLogica pid).map fun (_, tlb) => ⟨s.memoria, tlb, s.contadorPid⟩

/-- The process has a page table. -/
def Vivo (m : Memoria.Estado) (pid : ℤ) : Prop := (get m.registroTablaDePaginas pid).isSome = true

/-- The TLB path agrees with the page tables: a hit for a live process gives the frame of the
table, and a translation gives the address in that frame, or `-1` when the page is not mapped. -/
structure Coherente (s : Sistema) : Prop where
  acierto : ∀ pid pagina, Vivo s.memoria pid → buscarEnTlb s.tlb pid pagina ≠ -1 →
    buscarEnTlb s.tlb pid pagina = obtenerMarco s.memoria pid pagina
  traduccion : ∀ pid direccionLogica, Vivo s.memoria pid →
    ∃ tlb, obtenerDireccionFisica cpu cfg.tamPagina (obtenerMarco s.memoria pid) s.tlb
        direccionLogica pid =
      some (direccionEnMarco cfg.tamPagina direccionLogica
        (obtenerMarco s.memoria pid (obtenerPagina cfg.tamPagina direccionLogica)), tlb)

/-- The pages whose entry a RESIZE removes or writes: a reduction from `c` to `n` pages removes
`n + 1, …, c`, and a growth writes as many pages from `c` on as it finds frames for. -/
def PaginaTocada (m : Memoria.Estado) (pid tamanioNuevo pagina : ℤ) : Prop :=
  ∃ tab, get m.registroTablaDePaginas pid = some tab ∧
    ((paginasNecesarias cfg tamanioNuevo < tab.cantPaginas ∧
        tab.cantPaginas - (int32 (tab.cantPaginas - paginasNecesarias cfg tamanioNuevo)).toNat <
          pagina ∧ pagina ≤ tab.cantPaginas) ∨
      (tab.cantPaginas < paginasNecesarias cfg tamanioNuevo ∧ tab.cantPaginas ≤ pagina ∧
        pagina < tab.cantPaginas +
          (min (int32 (paginasNecesarias cfg tamanioNuevo - tab.cantPaginas)).toNat
            (marcosSinUsar cfg m.framesLibres) : ℕ)))

/-- No RESIZE touches a page that the TLB holds. -/
def SinTocarTlb (s : Sistema) : Evento → Prop
  | .redimensionar pid tamanioNuevo =>
    ∀ pagina, PaginaTocada cfg s.memoria pid tamanioNuevo pagina →
      buscarEnTlb s.tlb pid pagina = -1
  | _ => True

variable {cfg} {cpu} {m m' : Memoria.Estado} {s s' : Sistema} {pid tamanio : ℤ}

/-! ### What the requests do to the mappings -/

/-- The answer of `obtener_marco` is read off the ownership of frames. -/
theorem obtenerMarco_eq (m : Memoria.Estado) (pid pagina : ℤ) :
    obtenerMarco m pid pagina = (duenio m.registroTablaDePaginas (pid, pagina)).getD (-1) := by
  unfold obtenerMarco duenio
  cases get m.registroTablaDePaginas pid <;> rfl

theorem redimensionarProceso_duenio {envios : List Envio}
    (hr : redimensionarProceso cfg m pid tamanio = some (m', envios)) (k : ℤ × ℤ) :
    (¬ (k.1 = pid ∧ PaginaTocada cfg m pid tamanio k.2) →
      duenio m'.registroTablaDePaginas k = duenio m.registroTablaDePaginas k) ∧
    (k.1 = pid ∧ PaginaTocada cfg m pid tamanio k.2 →
      duenio m'.registroTablaDePaginas k = none ∨
        ∃ marco, duenio m'.registroTablaDePaginas k = some marco ∧
          m.framesLibres marco = false) := by
  obtain ⟨tab, hg, hcases⟩ := redimensionarProceso_cases hr
  have htocada : PaginaTocada cfg m pid tamanio k.2 ↔
      ((paginasNecesarias cfg tamanio < tab.cantPaginas ∧
          tab.cantPaginas - (int32 (tab.cantPaginas - paginasNecesarias cfg tamanio)).toNat <
            k.2 ∧ k.2 ≤ tab.cantPaginas) ∨
        (tab.cantPaginas < paginasNecesarias cfg tamanio ∧ tab.cantPaginas ≤ k.2 ∧
          k.2 < tab.cantPaginas +
            (min (int32 (paginasNecesarias cfg tamanio - tab.cantPaginas)).toNat
              (marcosSinUsar cfg m.framesLibres) : ℕ))) := by
    simp [PaginaTocada, hg]
  rw [htocada]
  have hotro : ∀ tabla, k.1 ≠ pid →
      duenio (put m.registroTablaDePaginas pid tabla) k = duenio m.registroTablaDePaginas k :=
    fun tabla hk => by rw [duenio_put, if_neg hk]
  have hmismo : k.1 = pid → duenio m.registroTablaDePaginas k = get tab.frameSegunPagina k.2 :=
    fun hk => by rw [← duenio_of_get hg, ← hk]
  rcases hcases with ⟨hgt, s, hs, -, rfl⟩ | ⟨hlt, s, hs, -, rfl⟩ | ⟨heq, -, rfl⟩
  · have hget : ∀ pagina, get s.1.frameSegunPagina pagina =
        if tab.cantPaginas - (int32 (tab.cantPaginas - paginasNecesarias cfg tamanio)).toNat <
            pagina ∧ pagina ≤ tab.cantPaginas then none
        else get tab.frameSegunPagina pagina := fun pagina => by
      rw [hs, iterate_liberarPagina_get]
    by_cases hk : k.1 = pid
    · simp only [duenio_put, hk, if_true, true_and, hget, hmismo hk]
      constructor
      · intro hno
        rw [if_neg (by tauto)]
      · intro hsi
        rw [if_pos (by omega)]
        exact Or.inl rfl
    · exact ⟨fun _ => hotro _ hk, fun h => absurd h.1 hk⟩
  · have htras := iterate_ocuparMarco cfg tab m.framesLibres
      (int32 (paginasNecesarias cfg tamanio - tab.cantPaginas)).toNat
    rw [← hs] at htras
    by_cases hk : k.1 = pid
    · simp only [duenio_put, hk, if_true, true_and, hmismo hk]
      constructor
      · exact fun hno => htras.fuera k.2 (by tauto)
      · intro hsi
        have hin := hsi.resolve_left (by omega)
        exact Or.inr (htras.dentro k.2 hin.2.1 hin.2.2)
    · exact ⟨fun _ => hotro _ hk, fun h => absurd h.1 hk⟩
  · exact ⟨fun _ => rfl, fun h => by omega⟩

/-- An unmapped page stays unmapped, and a mapped one loses its frame, exactly when touched. -/
theorem redimensionarProceso_obtenerMarco_iff {envios : List Envio} {pagina : ℤ}
    (he : MarcosExclusivos cfg m)
    (hr : redimensionarProceso cfg m pid tamanio = some (m', envios))
    (hmap : obtenerMarco m pid pagina ≠ -1) :
    obtenerMarco m' pid pagina = obtenerMarco m pid pagina ↔
      ¬ PaginaTocada cfg m pid tamanio pagina := by
  obtain ⟨hno, hsi⟩ := redimensionarProceso_duenio hr (pid, pagina)
  rw [obtenerMarco_eq] at hmap
  rw [obtenerMarco_eq, obtenerMarco_eq]
  cases hd : duenio m.registroTablaDePaginas (pid, pagina) with
  | none => simp [hd] at hmap
  | some marco =>
    by_cases ht : PaginaTocada cfg m pid tamanio pagina
    · refine iff_of_false ?_ (not_not.2 ht)
      have hused := he.used_of_owner (pid, pagina) marco hd
      have hvalid := he.valid_of_owner (pid, pagina) marco hd
      rcases hsi ⟨rfl, ht⟩ with hnone | ⟨marco', hsome, hlibre⟩
      · have := hvalid.1
        simp [hnone]
        omega
      · -- the new frame was not marked, the old one was
        rw [hsome]
        rintro h
        simp only [Option.getD_some] at h
        rw [h, hused] at hlibre
        cases hlibre
    · refine iff_of_true ?_ ht
      rw [hno fun h => ht h.2, hd]

theorem redimensionarProceso_vivo {envios : List Envio}
    (hr : redimensionarProceso cfg m pid tamanio = some (m', envios)) (pid' : ℤ) :
    Vivo m' pid' ↔ Vivo m pid' := by
  obtain ⟨tab, hg, hcases⟩ := redimensionarProceso_cases hr
  have hput : ∀ tabla, (get (put m.registroTablaDePaginas pid tabla) pid').isSome = true ↔
      (get m.registroTablaDePaginas pid').isSome = true := by
    intro tabla
    rw [get_put]
    split_ifs with hpid
    · simp [hpid, hg]
    · rfl
  rcases hcases with ⟨-, s, -, -, rfl⟩ | ⟨-, s, -, -, rfl⟩ | ⟨-, -, rfl⟩
  · exact hput _
  · exact hput _
  · rfl

theorem iniciarProceso_get (m : Memoria.Estado) (archivo : Cadena) (pid pid' : ℤ) :
    get (recibirInfoKernel m (.iniciarProceso archivo pid)).registroTablaDePaginas pid' =
      if pid' = pid then some ⟨0, []⟩ else get m.registroTablaDePaginas pid' :=
  get_put _ _ _ _

theorem finalizarProceso_get (m : Memoria.Estado) (pid pid' : ℤ) :
    get (recibirInfoKernel m (.finalizarProceso pid)).registroTablaDePaginas pid' =
      if pid' = pid then none else get m.registroTablaDePaginas pid' := by
  unfold recibirInfoKernel liberarProcesoDeMemoria
  cases hg : get m.registroTablaDePaginas pid with
  | none =>
    simp only [hg]
    split_ifs with hpid
    · rw [hpid, hg]
    · rfl
  | some tabla =>
    simp only [hg]
    exact get_remove _ _ _

/-- A mapping depends on the table of its process only. -/
theorem obtenerMarco_congr {pid : ℤ}
    (h : get m'.registroTablaDePaginas pid = get m.registroTablaDePaginas pid) (pagina : ℤ) :
    obtenerMarco m' pid pagina = obtenerMarco m pid pagina := by
  unfold obtenerMarco
  rw [h]

/-! ### The invariant of every run -/

/-- The entries are of pids already given, hold frames, are unique, and as many as configured. -/
structure TlbValida (cpu : CpuConfiguracion) (contadorPid : ℤ) (tlb : List BaseTlb) : Prop where
  entradas : ∀ e ∈ tlb, e.pid < contadorPid ∧ 0 ≤ e.marco
  unica : Cache.Unique BaseTlb.clave (fun k => 0 < k.1) tlb
  largo : tlb.length = cpu.cantidadEntradasTlb

/-- What every reachable system satisfies. -/
structure Valido (cfg : MemoriaConfiguracion) (cpu : CpuConfiguracion) (s : Sistema) : Prop where
  exclusivos : MarcosExclusivos cfg s.memoria
  contador : 0 < s.contadorPid
  vivos : ∀ pid, Vivo s.memoria pid → 0 < pid ∧ pid < s.contadorPid
  tlb : TlbValida cpu s.contadorPid s.tlb

/-- The entries of live processes hold the frames of their tables. -/
abbrev TlbCoherente (m : Memoria.Estado) (tlb : List BaseTlb) : Prop :=
  Cache.Coherent BaseTlb.clave BaseTlb.marco (fun k => Vivo m k.1)
    (fun k => obtenerMarco m k.1 k.2) tlb

theorem obtenerMarco_ge (he : MarcosExclusivos cfg m) {pid pagina : ℤ}
    (h : obtenerMarco m pid pagina ≠ -1) : 0 ≤ obtenerMarco m pid pagina := by
  rw [obtenerMarco_eq] at h ⊢
  cases hd : duenio m.registroTablaDePaginas (pid, pagina) with
  | none => simp [hd] at h
  | some marco => exact (he.valid_of_owner (pid, pagina) marco hd).1

theorem buscarEnTlb_of_find {tlb : List BaseTlb} {pid pagina : ℤ} {e : BaseTlb}
    (h : Cache.find BaseTlb.clave tlb (pid, pagina) = some e) :
    buscarEnTlb tlb pid pagina = e.marco := by
  simp [buscarEnTlb, h]

theorem TlbCoherente.buscar {tlb : List BaseTlb} (h : TlbCoherente m tlb) {pid : ℤ}
    (hv : Vivo m pid) (pagina : ℤ) :
    buscarEnTlb tlb pid pagina = -1 ∨ buscarEnTlb tlb pid pagina = obtenerMarco m pid pagina := by
  unfold buscarEnTlb
  cases hf : Cache.find BaseTlb.clave tlb (pid, pagina) with
  | none => exact Or.inl rfl
  | some e => exact Or.inr (Cache.Coherent.find_eq (k := (pid, pagina)) h hv hf)

/-- Coherence can be told from the entries. -/
theorem Valido.coherente_iff_tlb (h : Valido cfg cpu s) :
    Coherente cfg cpu s ↔ TlbCoherente s.memoria s.tlb := by
  constructor
  · intro hc
    refine h.tlb.unica.coherent (fun k hk => (h.vivos k.1 hk).1) fun k e hk hf => ?_
    have hbuscar := buscarEnTlb_of_find hf
    have hmarco := (h.tlb.entradas e (Cache.find_some hf).1).2
    rw [← hbuscar]
    exact hc.acierto k.1 k.2 hk (by rw [hbuscar]; omega)
  · intro hc
    refine ⟨fun pid pagina hv hne => (hc.buscar hv pagina).resolve_left hne, fun pid dir hv => ?_⟩
    have hmarco : marcoParaPagina cpu (obtenerMarco s.memoria pid) s.tlb pid
        (obtenerPagina cfg.tamPagina dir) =
        obtenerMarco s.memoria pid (obtenerPagina cfg.tamPagina dir) := by
      unfold marcoParaPagina
      split_ifs with hb
      · rfl
      · exact (hc.buscar hv _).resolve_left fun h => hb (Or.inr h)
    unfold obtenerDireccionFisica
    simp only [hmarco]
    split_ifs with hr
    · have hne : s.tlb ≠ [] := List.ne_nil_of_length_pos (by rw [h.tlb.largo]; omega)
      obtain ⟨tlb, htlb⟩ := reemplazarEnTlb_isSome cpu hne pid
        (obtenerMarco s.memoria pid (obtenerPagina cfg.tamPagina dir))
        (obtenerPagina cfg.tamPagina dir)
      exact ⟨tlb, by rw [htlb]; rfl⟩
    · exact ⟨s.tlb, rfl⟩

theorem inicial_valido (espacio : ℤ → UInt8) : Valido cfg cpu (.inicial cpu espacio) where
  exclusivos := generarEspacioMemoria_exclusivos espacio
  contador := one_pos
  vivos pid hv := by cases hv
  tlb := by
    refine ⟨fun e he => ?_, List.pairwise_replicate.2 (Or.inr fun h => absurd h (lt_irrefl 0)),
      List.length_replicate⟩
    rw [List.eq_of_mem_replicate he]
    exact ⟨one_pos, le_rfl⟩

theorem TlbValida.refresh {contador : ℤ} {tlb : List BaseTlb} {k : ℤ × ℤ} {e : BaseTlb}
    (h : TlbValida cpu contador tlb) (hf : Cache.find BaseTlb.clave tlb k = some e) :
    TlbValida cpu contador (Cache.refresh BaseTlb.clave tlb k e) where
  entradas e' he' := by
    rcases Cache.mem_refresh he' with he' | rfl
    · exact h.entradas e' he'
    · exact h.entradas e' (Cache.find_some hf).1
  unica := h.unica.refresh (Cache.find_some hf).2
  largo := (refresh_length hf).trans h.largo

theorem TlbValida.load {contador : ℤ} {tlb : List BaseTlb} {e : BaseTlb}
    (h : TlbValida cpu contador tlb) (hf : Cache.find BaseTlb.clave tlb e.clave = none)
    (hne : tlb ≠ []) (he : e.pid < contador ∧ 0 ≤ e.marco) :
    TlbValida cpu contador (Cache.load tlb e) where
  entradas e' he' := by
    rcases Cache.mem_load he' with he' | rfl
    · exact h.entradas e' he'
    · exact he
  unica := h.unica.load hf
  largo := (load_length hne e).trans h.largo

theorem vivo_of_obtenerMarco {m : Memoria.Estado} {pid pagina : ℤ}
    (h : obtenerMarco m pid pagina ≠ -1) : Vivo m pid := by
  unfold Vivo
  cases hg : get m.registroTablaDePaginas pid with
  | none => simp [obtenerMarco, hg] at h
  | some tabla => rfl

/-! ### One event -/

theorem redimensionar_paso {tamanioNuevo : ℤ}
    (h : paso cfg cpu s (.redimensionar pid tamanioNuevo) = some s') :
    ∃ envios, redimensionarProceso cfg s.memoria pid tamanioNuevo = some (s'.memoria, envios) ∧
      s'.tlb = s.tlb ∧ s'.contadorPid = s.contadorPid := by
  obtain ⟨⟨m, envios⟩, hr, rfl⟩ := Option.map_eq_some_iff.1 h
  exact ⟨envios, hr, rfl, rfl⟩

theorem traducir_paso {direccionLogica : ℤ}
    (h : paso cfg cpu s (.traducir pid direccionLogica) = some s') :
    ∃ res, obtenerDireccionFisica cpu cfg.tamPagina (obtenerMarco s.memoria pid) s.tlb
        direccionLogica pid = some (res, s'.tlb) ∧
      s'.memoria = s.memoria ∧ s'.contadorPid = s.contadorPid := by
  obtain ⟨⟨res, tlb⟩, hr, rfl⟩ := Option.map_eq_some_iff.1 h
  exact ⟨res, hr, rfl, rfl⟩

theorem Vivo.crear {m : Memoria.Estado} {archivo : Cadena} {pid pid' : ℤ}
    (h : Vivo (recibirInfoKernel m (.iniciarProceso archivo pid)) pid') :
    pid' = pid ∨ Vivo m pid' := by
  unfold Vivo at h
  rw [iniciarProceso_get] at h
  split_ifs at h with hpid
  · exact Or.inl hpid
  · exact Or.inr h

theorem Vivo.terminar {m : Memoria.Estado} {pid pid' : ℤ}
    (h : Vivo (recibirInfoKernel m (.finalizarProceso pid)) pid') : pid' ≠ pid ∧ Vivo m pid' := by
  unfold Vivo at h
  rw [finalizarProceso_get] at h
  split_ifs at h with hpid
  · cases h
  · exact ⟨hpid, h⟩

/-- Each event keeps the invariant. -/
theorem paso_valido {e : Evento} (h : Valido cfg cpu s) (hp : paso cfg cpu s e = some s') :
    Valido cfg cpu s' := by
  cases e with
  | crear archivo =>
    cases hp
    refine ⟨recibirInfoKernel_exclusivos h.exclusivos _, by have := h.contador; simp; omega,
      fun pid hv => ?_, fun e he => ?_, h.tlb.unica, h.tlb.largo⟩
    · have hc := h.contador
      rcases hv.crear with rfl | hv
      · simp; omega
      · have := h.vivos pid hv
        simp; omega
    · have := h.tlb.entradas e he
      simp; omega
  | redimensionar pid tamanioNuevo =>
    obtain ⟨envios, hr, htlb, hc⟩ := redimensionar_paso hp
    refine ⟨redimensionarProceso_exclusivos h.exclusivos hr, hc ▸ h.contador, fun pid' hv => ?_,
      htlb ▸ hc ▸ h.tlb⟩
    rw [hc]
    exact h.vivos pid' ((redimensionarProceso_vivo hr pid').1 hv)
  | terminar pid =>
    cases hp
    exact ⟨recibirInfoKernel_exclusivos h.exclusivos _, h.contador,
      fun pid' hv => h.vivos pid' hv.terminar.2, h.tlb⟩
  | traducir pid direccionLogica =>
    obtain ⟨res, hr, hm, hc⟩ := traducir_paso hp
    refine ⟨hm ▸ h.exclusivos, hc ▸ h.contador, fun pid' hv => ?_, ?_⟩
    · rw [hc]
      exact h.vivos pid' (hm ▸ hv)
    · rw [hc]
      rcases obtenerDireccionFisica_cases hr with heq | ⟨pagina, e, hf, heq⟩ |
        ⟨pagina, hf, hne, hmarco, heq⟩
      · rw [heq]; exact h.tlb
      · rw [heq]; exact h.tlb.refresh hf
      · rw [heq]
        exact h.tlb.load hf hne
          ⟨(h.vivos pid (vivo_of_obtenerMarco hmarco)).2, obtenerMarco_ge h.exclusivos hmarco⟩

/-- From a coherent system an event leads to a coherent one exactly when it touches no page that
the TLB holds. -/
theorem paso_coherente_iff {e : Evento} (h : Valido cfg cpu s) (hc : Coherente cfg cpu s)
    (hp : paso cfg cpu s e = some s') : Coherente cfg cpu s' ↔ SinTocarTlb cfg s e := by
  have h' := paso_valido h hp
  have hentradas := h.coherente_iff_tlb.1 hc
  rw [h'.coherente_iff_tlb]
  cases e with
  | crear archivo =>
    cases hp
    refine iff_of_true (fun e he hv => ?_) trivial
    have hpid := (h.tlb.entradas e he).1
    have hne : e.pid ≠ s.contadorPid := by omega
    -- the new pid is in no entry
    rw [hentradas e he (hv.crear.resolve_left hne)]
    exact (obtenerMarco_congr (by rw [iniciarProceso_get]; exact if_neg hne) _).symm
  | redimensionar pid tamanioNuevo =>
    obtain ⟨envios, hr, htlb, -⟩ := redimensionar_paso hp
    constructor
    · intro hc' pagina htocada
      by_contra hne
      have hv : Vivo s.memoria pid := by
        obtain ⟨tab, hg, -⟩ := htocada
        simp [Vivo, hg]
      have hv' := (redimensionarProceso_vivo hr pid).2 hv
      have hantes := hc.acierto pid pagina hv hne
      have hdespues := (h'.coherente_iff_tlb.2 hc').acierto pid pagina hv' (by rwa [htlb])
      rw [htlb] at hdespues
      rw [hantes] at hne
      exact (redimensionarProceso_obtenerMarco_iff h.exclusivos hr hne).1
        (hdespues.symm.trans hantes) htocada
    · intro hsin e he hv
      rw [htlb] at he
      have hv0 := (redimensionarProceso_vivo hr _).1 hv
      rw [hentradas e he hv0]
      obtain ⟨hno, -⟩ := redimensionarProceso_duenio hr e.clave
      dsimp only
      rw [obtenerMarco_eq, obtenerMarco_eq, hno]
      rintro ⟨hpid, htocada⟩
      have hmiss := hsin _ htocada
      have hfind := h.tlb.unica.find_eq (h.vivos _ hv0).1 he rfl
      rw [← hpid] at hmiss
      have hbuscar : buscarEnTlb s.tlb e.clave.1 e.clave.2 = e.marco := buscarEnTlb_of_find hfind
      have hmarco := (h.tlb.entradas e he).2
      omega
  | terminar pid =>
    cases hp
    refine iff_of_true (fun e he hv => ?_) trivial
    obtain ⟨hne, hv0⟩ := hv.terminar
    rw [hentradas e he hv0]
    exact (obtenerMarco_congr (by rw [finalizarProceso_get]; exact if_neg hne) _).symm
  | traducir pid direccionLogica =>
    obtain ⟨res, hr, hm, -⟩ := traducir_paso hp
    refine iff_of_true ?_ trivial
    rw [hm]
    rcases obtenerDireccionFisica_cases hr with heq | ⟨pagina, e, hf, heq⟩ |
      ⟨pagina, hf, hne, hmarco, heq⟩
    · rw [heq]; exact hentradas
    · rw [heq]
      exact hentradas.of_mem (hentradas e (Cache.find_some hf).1) fun _ => Cache.mem_refresh
    · rw [heq]
      exact hentradas.of_mem (fun _ => rfl) fun _ => Cache.mem_load

end SimuladorSO.Cpu
