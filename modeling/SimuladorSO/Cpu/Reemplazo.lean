import SimuladorSO.Library.Recency
import SimuladorSO.Library.Transitions
import SimuladorSO.Cpu.Tlb

/-!
# The replacement policies of the TLB

What the TLB holds after any sequence of translations, told by their history: `Historia` keeps
beside the TLB the pages translated and the pages missed, in their order.

* `Politica`: under LRU the TLB holds the latest distinct pages translated, under FIFO the latest
  misses, after the placeholders that are left;
* `Politica.traducir`: one translation keeps it, and one that memoria denies changes nothing;
* `tlb_implementa_politica`: so it is after every sequence of translations.
-/

namespace SimuladorSO.Cpu

open Commons Recency Transitions

/-- A translation asked for by a process, and what memoria answers then for each page. -/
structure Traduccion where
  pid : ℤ
  direccionLogica : ℤ
  obtenerMarcoMemoria : ℤ → ℤ

/-- The TLB, and the keys of the pages translated and of those missed, the oldest first. -/
structure Historia where
  tlb : List BaseTlb
  traducidas : List (ℤ × ℤ)
  fallos : List (ℤ × ℤ)

/-- The key of the entries of `inicializar_tlb`. -/
def claveInicial : ℤ × ℤ := (0, 0)

section
variable (cpu : CpuConfiguracion) (tamPagina : ℕ)

/-- Nothing was translated yet. -/
def Historia.inicial : Historia := ⟨inicializarTlb cpu, [], []⟩

/-- The page of a translation. -/
def Traduccion.pagina (t : Traduccion) : ℤ := obtenerPagina tamPagina t.direccionLogica

/-- The key of a translation. -/
def Traduccion.clave (t : Traduccion) : ℤ × ℤ := (t.pid, t.pagina tamPagina)

/-- Neither the TLB nor memoria has a frame for the page. -/
def Denegada (h : Historia) (t : Traduccion) : Prop :=
  marcoParaPagina cpu t.obtenerMarcoMemoria h.tlb t.pid (t.pagina tamPagina) = -1

instance (h : Historia) (t : Traduccion) : Decidable (Denegada cpu tamPagina h t) :=
  inferInstanceAs (Decidable (_ = _))

/-- A translation, which is noted unless memoria denies it. -/
def Historia.traducir (h : Historia) (t : Traduccion) : Option Historia :=
  (obtenerDireccionFisica cpu tamPagina t.obtenerMarcoMemoria h.tlb t.direccionLogica t.pid).map
    fun (_, tlb) =>
      if Denegada cpu tamPagina h t then { h with tlb := tlb }
      else
        { tlb := tlb
          traducidas := h.traducidas ++ [t.clave tamPagina]
          fallos :=
            if buscarEnTlb h.tlb t.pid (t.pagina tamPagina) = -1 then
              h.fallos ++ [t.clave tamPagina]
            else h.fallos }

/-- The configured algorithm. -/
def EsAlgoritmo (nombre : String) : Prop :=
  stringEqualsIgnoreCase nombre.toList cpu.algoritmoTlb = true

instance (nombre : String) : Decidable (EsAlgoritmo cpu nombre) :=
  inferInstanceAs (Decidable (_ = true))

/-- What the TLB holds, told by the history. -/
structure Politica (h : Historia) : Prop where
  largo : h.tlb.length = cpu.cantidadEntradasTlb
  marcos : ∀ e ∈ h.tlb, e.marco ≠ -1
  unica : Cache.Unique BaseTlb.clave (fun k => k ≠ claveInicial) h.tlb
  traducidas : claveInicial ∉ h.traducidas
  fallos : claveInicial ∉ h.fallos
  lru : EsAlgoritmo cpu "LRU" → h.tlb.map BaseTlb.clave =
    padded cpu.cantidadEntradasTlb claveInicial h.traducidas.dedup
  fifo : EsAlgoritmo cpu "FIFO" → h.tlb.map BaseTlb.clave =
    padded cpu.cantidadEntradasTlb claveInicial h.fallos

end

variable {cpu : CpuConfiguracion} {tamPagina : ℕ} {h h' : Historia} {t : Traduccion}

theorem inicial_politica (cpu : CpuConfiguracion) : Politica cpu (.inicial cpu) where
  largo := List.length_replicate
  marcos e he := by
    rw [List.eq_of_mem_replicate he]
    decide
  unica := List.pairwise_replicate.2 (Or.inr fun hne => absurd rfl hne)
  traducidas := List.not_mem_nil
  fallos := List.not_mem_nil
  lru _ := by
    show (List.replicate _ _).map _ = padded _ _ [].dedup
    rw [List.map_replicate, List.dedup_nil, padded_nil]
    rfl
  fifo _ := by
    show (List.replicate _ _).map _ = padded _ _ []
    rw [List.map_replicate, padded_nil]
    rfl

/-- A page is missed when no entry has its key. -/
theorem Politica.buscar_iff (hp : Politica cpu h) (pid pagina : ℤ) :
    buscarEnTlb h.tlb pid pagina = -1 ↔ (pid, pagina) ∉ h.tlb.map BaseTlb.clave := by
  rw [← Cache.find_eq_none_iff_notMem]
  unfold buscarEnTlb
  cases hf : Cache.find BaseTlb.clave h.tlb (pid, pagina) with
  | none => simp
  | some e =>
    have hmarco := hp.marcos e (Cache.find_some hf).1
    simp [hmarco]

/-! ### One translation -/

/-- A translation that memoria denies leaves everything as it was. -/
theorem traducir_denegada (hd : Denegada cpu tamPagina h t) :
    Historia.traducir cpu tamPagina h t = some h := by
  have hmarco : marcoParaPagina cpu t.obtenerMarcoMemoria h.tlb t.pid
      (obtenerPagina tamPagina t.direccionLogica) = -1 := hd
  have hno : ¬ ((-1 : ℤ) ≠ -1 ∧ cpu.cantidadEntradasTlb ≠ 0) := fun hno => hno.1 rfl
  unfold Historia.traducir obtenerDireccionFisica
  simp only [hmarco, if_neg hno, Option.map_some, if_pos hd]

/-- What `reemplazar_en_tlb` leaves under each algorithm: on a hit the entry is the latest under LRU
and stays where it is under FIFO, on a miss the oldest entry goes. -/
theorem reemplazarEnTlb_politica (cpu : CpuConfiguracion) {tlb : List BaseTlb} (hne : tlb ≠ [])
    (pid marco pagina : ℤ) :
    ∃ tlb', reemplazarEnTlb cpu tlb pid marco pagina = some tlb' ∧
      (EsAlgoritmo cpu "LRU" → tlb' =
        match Cache.find BaseTlb.clave tlb (pid, pagina) with
        | none => Cache.load tlb ⟨pid, marco, pagina⟩
        | some e => Cache.refresh BaseTlb.clave tlb (pid, pagina) e) ∧
      (EsAlgoritmo cpu "FIFO" → tlb' =
        match Cache.find BaseTlb.clave tlb (pid, pagina) with
        | none => Cache.load tlb ⟨pid, marco, pagina⟩
        | some _ => tlb) := by
  have hcargar : ∀ e, cargarEnTlb tlb e = some (Cache.load tlb e) := by
    intro e
    unfold cargarEnTlb
    rw [if_neg (by simpa using hne)]
  have hdistintos : EsAlgoritmo cpu "LRU" → ¬ EsAlgoritmo cpu "FIFO" := by
    intro hlru hfifo
    have heq := (stringEqualsIgnoreCase_iff.1 hlru).trans (stringEqualsIgnoreCase_iff.1 hfifo).symm
    exact absurd heq (by decide)
  unfold reemplazarEnTlb
  change ∃ tlb', (if EsAlgoritmo cpu "FIFO" then
      match Cache.find BaseTlb.clave tlb (pid, pagina) with
      | none => cargarEnTlb tlb ⟨pid, marco, pagina⟩
      | some _ => some tlb
    else if EsAlgoritmo cpu "LRU" then
      match Cache.find BaseTlb.clave tlb (pid, pagina) with
      | none => cargarEnTlb tlb ⟨pid, marco, pagina⟩
      | some e => some (Cache.refresh BaseTlb.clave tlb (pid, pagina) e)
    else some tlb) = some tlb' ∧ _
  by_cases hfifo : EsAlgoritmo cpu "FIFO"
  · rw [if_pos hfifo]
    cases Cache.find BaseTlb.clave tlb (pid, pagina) with
    | none => exact ⟨_, hcargar _, fun _ => rfl, fun _ => rfl⟩
    | some e => exact ⟨tlb, rfl, fun hlru => absurd hfifo (hdistintos hlru), fun _ => rfl⟩
  · rw [if_neg hfifo]
    by_cases hlru : EsAlgoritmo cpu "LRU"
    · rw [if_pos hlru]
      cases Cache.find BaseTlb.clave tlb (pid, pagina) with
      | none => exact ⟨_, hcargar _, fun _ => rfl, fun _ => rfl⟩
      | some e => exact ⟨_, rfl, fun _ => rfl, fun hf => absurd hf hfifo⟩
    · rw [if_neg hlru]
      exact ⟨tlb, rfl, fun hl => absurd hl hlru, fun hf => absurd hf hfifo⟩

/-- A translation that is not denied updates the TLB, and is noted. -/
theorem traducir_concedida (hN : 1 ≤ cpu.cantidadEntradasTlb) (hp : Politica cpu h)
    (hd : ¬ Denegada cpu tamPagina h t) :
    ∃ tlb', reemplazarEnTlb cpu h.tlb t.pid (marcoParaPagina cpu t.obtenerMarcoMemoria h.tlb t.pid
        (t.pagina tamPagina)) (t.pagina tamPagina) = some tlb' ∧
      Historia.traducir cpu tamPagina h t = some
        { tlb := tlb'
          traducidas := h.traducidas ++ [t.clave tamPagina]
          fallos :=
            if buscarEnTlb h.tlb t.pid (t.pagina tamPagina) = -1 then
              h.fallos ++ [t.clave tamPagina]
            else h.fallos } := by
  have hne : h.tlb ≠ [] := List.ne_nil_of_length_pos (by rw [hp.largo]; omega)
  obtain ⟨tlb', htlb⟩ := reemplazarEnTlb_isSome cpu hne t.pid
    (marcoParaPagina cpu t.obtenerMarcoMemoria h.tlb t.pid (t.pagina tamPagina))
    (t.pagina tamPagina)
  have hcond : marcoParaPagina cpu t.obtenerMarcoMemoria h.tlb t.pid
      (obtenerPagina tamPagina t.direccionLogica) ≠ -1 ∧ cpu.cantidadEntradasTlb ≠ 0 :=
    ⟨hd, by omega⟩
  refine ⟨tlb', htlb, ?_⟩
  unfold Historia.traducir obtenerDireccionFisica
  simp only [if_pos hcond, if_neg hd, Option.map_map]
  show (reemplazarEnTlb cpu h.tlb t.pid (marcoParaPagina cpu t.obtenerMarcoMemoria h.tlb t.pid
    (t.pagina tamPagina)) (t.pagina tamPagina)).map _ = _
  rw [htlb]
  rfl

/-- **One translation** of a process keeps what the TLB holds. -/
theorem Politica.traducir (hN : 1 ≤ cpu.cantidadEntradasTlb) (hp : Politica cpu h)
    (hpid : 0 < t.pid) : ∃ h', Historia.traducir cpu tamPagina h t = some h' ∧ Politica cpu h' := by
  by_cases hd : Denegada cpu tamPagina h t
  · exact ⟨h, traducir_denegada hd, hp⟩
  · obtain ⟨tlb', htlb, htraducir⟩ := traducir_concedida hN hp hd
    refine ⟨_, htraducir, ?_⟩
    have hne : h.tlb ≠ [] := List.ne_nil_of_length_pos (by rw [hp.largo]; omega)
    have hreal : t.clave tamPagina ≠ claveInicial := by
      intro heq
      have hcero : t.pid = 0 := congrArg Prod.fst heq
      omega
    obtain ⟨tlb'', htlb', hlru, hfifo⟩ := reemplazarEnTlb_politica cpu hne t.pid
      (marcoParaPagina cpu t.obtenerMarcoMemoria h.tlb t.pid (t.pagina tamPagina))
      (t.pagina tamPagina)
    rw [htlb] at htlb'
    obtain rfl := Option.some.inj htlb'
    have hcases := reemplazarEnTlb_cases htlb
    have hbuscar := hp.buscar_iff t.pid (t.pagina tamPagina)
    constructor
    · rcases hcases with rfl | ⟨-, -, rfl⟩ | ⟨e, hf, rfl⟩
      · exact hp.largo
      · exact (load_length hne _).trans hp.largo
      · exact (refresh_length hf).trans hp.largo
    · intro e he
      rcases hcases with rfl | ⟨-, -, rfl⟩ | ⟨e', hf, rfl⟩
      · exact hp.marcos e he
      · rcases Cache.mem_load he with he | rfl
        · exact hp.marcos e he
        · exact hd
      · rcases Cache.mem_refresh he with he | rfl
        · exact hp.marcos e he
        · exact hp.marcos e (Cache.find_some hf).1
    · rcases hcases with rfl | ⟨hf, -, rfl⟩ | ⟨e, hf, rfl⟩
      · exact hp.unica
      · exact hp.unica.load hf
      · exact hp.unica.refresh (Cache.find_some hf).2
    · simp [hp.traducidas, hreal.symm]
    · show claveInicial ∉ if _ then h.fallos ++ [t.clave tamPagina] else h.fallos
      split_ifs
      · simp [hp.fallos, hreal.symm]
      · exact hp.fallos
    · intro halg
      have hclaves := hp.lru halg
      rw [hlru halg]
      cases hf : Cache.find BaseTlb.clave h.tlb (t.pid, t.pagina tamPagina) with
      | none =>
        have hmem := Cache.find_eq_none_iff_notMem.1 hf
        rw [hclaves] at hmem
        rw [Cache.map_load, hclaves]
        exact (padded_dedup_push_of_notMem hN hreal hmem).symm
      | some e =>
        obtain ⟨he, hclave⟩ := Cache.find_some hf
        have hmem : t.clave tamPagina ∈ h.tlb.map BaseTlb.clave :=
          List.mem_map.2 ⟨e, he, hclave⟩
        rw [hclaves] at hmem
        rw [Cache.map_refresh, hclaves, hclave]
        exact (padded_dedup_push_of_mem hreal hmem).symm
    · intro halg
      have hclaves := hp.fifo halg
      rw [hfifo halg]
      cases hf : Cache.find BaseTlb.clave h.tlb (t.pid, t.pagina tamPagina) with
      | none =>
        rw [if_pos (hbuscar.2 (Cache.find_eq_none_iff_notMem.1 hf)), Cache.map_load, hclaves]
        exact (padded_push hN).symm
      | some e =>
        obtain ⟨he, hclave⟩ := Cache.find_some hf
        rw [if_neg fun hmiss => hbuscar.1 hmiss (List.mem_map.2 ⟨e, he, hclave⟩)]
        exact hclaves

/-- **The TLB implements its replacement policy**: after any sequence of translations of any
processes, it has its number of entries and no page of a process twice; under LRU they are those of
the latest distinct pages translated, under FIFO those of the latest misses, in their order; and a
translation that memoria denies leaves it as it was. -/
theorem tlb_implementa_politica (cpu : CpuConfiguracion) (hN : 1 ≤ cpu.cantidadEntradasTlb)
    (tamPagina : ℕ) (ts : List Traduccion) (hpids : ∀ t ∈ ts, 0 < t.pid) :
    ∃ h, run (Historia.traducir cpu tamPagina) (.inicial cpu) ts = some h ∧
      h.tlb.length = cpu.cantidadEntradasTlb ∧
      (h.tlb.Pairwise fun a b => a.clave ≠ claveInicial → a.clave ≠ b.clave) ∧
      (EsAlgoritmo cpu "LRU" →
        (h.tlb.map BaseTlb.clave).filter (fun k => k ≠ claveInicial) =
          h.traducidas.dedup.rtake cpu.cantidadEntradasTlb ∧
        ∀ pid pagina, 0 < pid → (buscarEnTlb h.tlb pid pagina ≠ -1 ↔
          (pid, pagina) ∈ h.traducidas.dedup.rtake cpu.cantidadEntradasTlb)) ∧
      (EsAlgoritmo cpu "FIFO" →
        (h.tlb.map BaseTlb.clave).filter (fun k => k ≠ claveInicial) =
          h.fallos.rtake cpu.cantidadEntradasTlb) ∧
      ∀ t, Denegada cpu tamPagina h t → Historia.traducir cpu tamPagina h t = some h := by
  have hadmite : Admits (Historia.traducir cpu tamPagina) (fun _ t => 0 < t.pid) (.inicial cpu)
      ts :=
    admits_of_forall (fun _ _ hpid => hpid) hpids _
  obtain ⟨h, hrun, hp⟩ := run_of_admits (P := Politica cpu)
    (fun h t hp hpid => Politica.traducir hN hp hpid) (inicial_politica cpu) hadmite
  refine ⟨h, hrun, hp.largo, hp.unica, fun halg => ⟨?_, fun pid pagina hpid => ?_⟩, fun halg => ?_,
    fun t hd => traducir_denegada hd⟩
  · rw [hp.lru halg]
    exact filter_padded fun hmem => hp.traducidas (List.mem_dedup.1 hmem)
  · have hreal : (pid, pagina) ≠ claveInicial := by
      intro heq
      have hcero : pid = 0 := congrArg Prod.fst heq
      omega
    rw [← mem_padded_iff hreal, ← hp.lru halg, ne_eq, hp.buscar_iff, not_not]
  · rw [hp.fifo halg]
    exact filter_padded hp.fallos

/-- Two processes and two entries: the page translated again stays, the other one goes. -/
theorem tlb_implementa_politica_dos_entradas :
    ∃ h, run (Historia.traducir ⟨2, "LRU".toList⟩ 16) (.inicial ⟨2, "LRU".toList⟩)
        [⟨1, 0, fun _ => 3⟩, ⟨1, 16, fun _ => 5⟩, ⟨1, 0, fun _ => 3⟩, ⟨2, 0, fun _ => 7⟩] = some h ∧
      (h.tlb.map BaseTlb.clave).filter (fun k => k ≠ claveInicial) =
        h.traducidas.dedup.rtake 2 ∧
      h.traducidas.dedup.rtake 2 = [(1, 0), (2, 0)] := by
  obtain ⟨h, hrun, -, -, hlru, -⟩ := tlb_implementa_politica ⟨2, "LRU".toList⟩ (by decide) 16
    [⟨1, 0, fun _ => 3⟩, ⟨1, 16, fun _ => 5⟩, ⟨1, 0, fun _ => 3⟩, ⟨2, 0, fun _ => 7⟩] (by decide)
  refine ⟨h, hrun, (hlru (by decide)).1, ?_⟩
  rw [← Option.some.inj hrun]
  decide

end SimuladorSO.Cpu
