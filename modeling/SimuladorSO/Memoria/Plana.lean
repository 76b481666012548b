import SimuladorSO.Memoria.Recorridos

/-!
# One flat memory for each process

While processes are created and grow, and nothing is given back, memoria implements one array of
bytes for each process.

* `Accion`, `Plana`: what the processes ask for, and the arrays, with the last byte written at each
  logical address;
* `Accion.Cabe`: the strings of `leer_memoria` hold what is read;
* `Ascendente`: the frames of a process go up with its pages, so the check of the memory limit,
  which looks at the physical address and the size alone, never fails;
* `memoria_plana`: when the runs come back, and what a read returns at any moment.
-/

namespace SimuladorSO.Memoria

open CInt Dictionary Loops Allocation Transitions Commons Views

variable (cfg : MemoriaConfiguracion)

/-! ### Actions and the flat memories -/

/-- A process is created, grows, writes or reads. -/
inductive Accion
  | crear (archivo : Cadena) (pid : ℤ)
  | crecer (pid tamanioNuevo : ℤ)
  | escribir (pid l tamanio : ℤ) (info : List UInt8)
  | leer (pid l tamanio : ℤ)

/-- What memoria does for an action, with the physical address that the translation gives. -/
def accion (m : Estado) : Accion → Option (Estado × List Envio)
  | .crear archivo pid => some (recibirInfoKernel m (.iniciarProceso archivo pid), [])
  | .crecer pid tamanioNuevo => recibirInfoCpu cfg m (.resize pid tamanioNuevo)
  | .escribir pid l tamanio info =>
    recibirInfoCpu cfg m (.escribir pid (direccionFisica cfg m pid l) tamanio info)
  | .leer pid l tamanio => recibirInfoCpu cfg m (.leer pid (direccionFisica cfg m pid l) tamanio)

/-- One action of a run. -/
def pasoAccion (m : Estado) (a : Accion) : Option Estado := (accion cfg m a).map Prod.fst

/-- The size takes more pages than the process has. -/
def Crece (m : Estado) (pid tamanioNuevo : ℤ) : Prop :=
  match get m.registroTablaDePaginas pid with
  | some tab => tab.cantPaginas < paginasNecesarias cfg tamanioNuevo
  | none => False

instance (m : Estado) (pid tamanioNuevo : ℤ) : Decidable (Crece cfg m pid tamanioNuevo) := by
  unfold Crece
  cases get m.registroTablaDePaginas pid with
  | some tab => exact inferInstanceAs (Decidable (_ < _))
  | none => exact inferInstanceAs (Decidable False)

/-- The processes are created with new pids, grow by a `RESIZE` answered `OK`, and write and read
inside their pages. -/
def Admisible (m : Estado) : Accion → Prop
  | .crear _ pid => (get m.registroTablaDePaginas pid).isNone = true
  | .crecer pid tamanioNuevo => (0 ≤ tamanioNuevo ∧ tamanioNuevo < 2 ^ 31) ∧
      Crece cfg m pid tamanioNuevo ∧
      (accion cfg m (.crecer pid tamanioNuevo)).map Prod.snd = some [.mensaje "OK"]
  | .escribir pid l tamanio info => EnPaginas cfg m pid l tamanio ∧ tamanio ≤ info.length
  | .leer pid l tamanio => EnPaginas cfg m pid l tamanio

instance : ∀ (m : Estado) (a : Accion), Decidable (Admisible cfg m a)
  | _, .crear _ _ => inferInstanceAs (Decidable (_ = _))
  | _, .crecer _ _ => inferInstanceAs (Decidable (_ ∧ _ ∧ _))
  | _, .escribir _ _ _ _ => inferInstanceAs (Decidable (_ ∧ _))
  | m, .leer pid l tamanio => inferInstanceAs (Decidable (EnPaginas cfg m pid l tamanio))

/-- If the action is a read, the strings of `leer_memoria` hold the range. -/
def Accion.Cabe : Accion → Prop
  | .leer _ l n => CabeLectura cfg l n
  | _ => True

instance : DecidablePred (Accion.Cabe cfg)
  | .crear _ _ => isTrue trivial
  | .crecer _ _ => isTrue trivial
  | .escribir _ _ _ _ => isTrue trivial
  | .leer _ l n => inferInstanceAs (Decidable (CabeLectura cfg l n))

/-- The last byte that each process has written at each of its addresses. -/
abbrev Plana := ℤ × ℤ → Option UInt8

/-- An action on the flat memories: only a write changes them. -/
def Plana.aplicar (p : Plana) : Accion → Plana
  | .escribir pid l tamanio info => fun k =>
      if k ∈ rango pid l tamanio then some (info.getD (k.2 - l).toNat 0) else p k
  | _ => p

/-- The frames are given in order: below a marked frame all are, and the frames of a process go up
with its pages. -/
structure Ascendente (registro : Dict ℤ TablaDePaginas) (framesLibres : ℤ → Bool) : Prop where
  cerrado : ∀ j k, 0 ≤ j → j < k → framesLibres k = true → framesLibres j = true
  orden : ∀ pid p q marco marco', duenio registro (pid, p) = some marco →
    duenio registro (pid, q) = some marco' → p < q → marco < marco'

variable {cfg} {m : Estado} {pid : ℤ} {registro : Dict ℤ TablaDePaginas}

/-- The first unmarked frame is given to a page after those of the process. -/
theorem Ascendente.take {framesLibres : ℤ → Bool} (h : Ascendente registro framesLibres)
    (he : Exclusive (MarcoValido cfg) (duenio registro) framesLibres) {marco pagina : ℤ}
    {registro' : Dict ℤ TablaDePaginas} (hlibre : framesLibres marco = false) (h0 : 0 ≤ marco)
    (hprimero : ∀ j, 0 ≤ j → j < marco → framesLibres j = true)
    (hpaginas : ∀ p marco', duenio registro (pid, p) = some marco' → p < pagina)
    (hregistro : duenio registro' = Function.update (duenio registro) (pid, pagina) (some marco)) :
    Ascendente registro' (Function.update framesLibres marco true) := by
  have hmenor : ∀ k marco', duenio registro k = some marco' → marco' < marco := by
    intro k marco' hk
    have hmarcado := he.used_of_owner k marco' hk
    by_contra hge
    rcases eq_or_lt_of_le (not_lt.1 hge) with rfl | hlt
    · rw [hlibre] at hmarcado
      cases hmarcado
    · rw [h.cerrado marco marco' h0 hlt hmarcado] at hlibre
      cases hlibre
  constructor
  · intro j k hj hjk hk
    rw [Function.update_apply] at hk ⊢
    by_cases hjm : j = marco
    · exact if_pos hjm
    · rw [if_neg hjm]
      split_ifs at hk with hkm
      · exact hprimero j hj (hkm ▸ hjk)
      · exact h.cerrado j k hj hjk hk
  · intro pid' p q mp mq hp hq hpq
    rw [hregistro, Function.update_apply] at hp hq
    split_ifs at hp hq with hkp hkq hkq
    · have := (Prod.mk.inj hkp).2
      have := (Prod.mk.inj hkq).2
      omega
    · -- no page of the process is after the new one
      obtain ⟨rfl, rfl⟩ := Prod.mk.inj hkp
      exact absurd (hpaginas q mq hq) (by omega)
    · rw [← Option.some.inj hq]
      exact hmenor _ _ hp
    · exact h.orden pid' p q mp mq hp hq hpq

/-- A growth gives the frames in order. -/
theorem iterate_ocuparMarco_ascendente {tab : TablaDePaginas} {framesLibres : ℤ → Bool}
    (hex : Exact (MarcoValido cfg) (duenio (put registro pid tab)) framesLibres)
    (hpag : ∀ pagina, tab.cantPaginas ≤ pagina → get tab.frameSegunPagina pagina = none)
    (h : Ascendente (put registro pid tab) framesLibres) (n : ℕ) :
    Ascendente (put registro pid (iterate (ocuparMarco cfg) n ⟨tab, framesLibres, false⟩).tab)
      (iterate (ocuparMarco cfg) n ⟨tab, framesLibres, false⟩).framesLibres := by
  induction n with
  | zero => exact h
  | succ n ih =>
    have htras := iterate_ocuparMarco cfg tab framesLibres n
    have hexact := iterate_ocuparMarco_exact registro pid hex hpag n
    rw [iterate_succ]
    generalize iterate (ocuparMarco cfg) n ⟨tab, framesLibres, false⟩ = s at ih htras hexact ⊢
    cases hs : s.huboError with
    | true => rwa [ocuparMarco_of_error n hs]
    | false =>
      rcases ocuparMarco_cases cfg n s hs with ⟨-, heq⟩ | ⟨marco, hv, hlibre, hprimero, heq⟩
      · rw [heq]
        exact ih
      · rw [heq]
        refine ih.take hexact.toExclusive hlibre hv.1 hprimero (fun p marco' hp => ?_)
          (duenio_put_frame s.tab (s.tab.cantPaginas + n) marco)
        rw [duenio_put, if_pos rfl] at hp
        by_contra hge
        rw [htras.cant] at hge
        rw [htras.fuera p (by rw [htras.min_eq hs]; omega), hpag p (by omega)] at hp
        cases hp

/-! ### The invariant of the runs -/

/-- The invariant of the runs: the page tables are in order and the bytes are those of the flat
memories. -/
structure Refleja (cfg : MemoriaConfiguracion) (espacio : ℤ → UInt8) (p : Plana) (m : Estado) :
    Prop where
  paginado : Paginado cfg m
  ascendente : Ascendente m.registroTablaDePaginas m.framesLibres
  bytes : Shows (lugar cfg m) espacio m.espacioMemoria p

theorem generarEspacioMemoria_refleja (espacio : ℤ → UInt8) :
    Refleja cfg espacio (fun _ => none) (generarEspacioMemoria espacio) where
  paginado :=
    ⟨generarEspacioMemoria_exclusivos espacio, (fun _ _ hg => by cases hg),
      generarEspacioMemoria_exactas espacio⟩
  ascendente := ⟨(fun _ _ _ _ h => by cases h), (fun _ _ _ _ _ h => by cases h)⟩
  bytes := Shows.start espacio

/-- The bytes of a page that stays mapped stay where they are. -/
theorem lugar_mono {m' : Estado} (h : ∀ k marco, duenio m.registroTablaDePaginas k = some marco →
      duenio m'.registroTablaDePaginas k = some marco) (k : ℤ × ℤ) (x : ℤ)
    (hk : lugar cfg m k = some x) : lugar cfg m' k = some x := by
  obtain ⟨marco, hmarco, hx⟩ := Option.map_eq_some_iff.1 hk
  exact Option.map_eq_some_iff.2 ⟨marco, h _ _ hmarco, hx⟩

/-- A process with a new pid has no pages. -/
theorem Refleja.crear {espacio : ℤ → UInt8} {p : Plana} (h : Refleja cfg espacio p m)
    (archivo : Cadena) (hpid : get m.registroTablaDePaginas pid = none) :
    Refleja cfg espacio p (recibirInfoKernel m (.iniciarProceso archivo pid)) := by
  have hd : duenio (put m.registroTablaDePaginas pid ⟨0, []⟩) =
      duenio m.registroTablaDePaginas := by
    funext k
    rw [duenio_put]
    by_cases hk : k.1 = pid
    · rw [if_pos hk, duenio, hk, hpid]
      rfl
    · rw [if_neg hk]
  have hlugar : lugar cfg (recibirInfoKernel m (.iniciarProceso archivo pid)) = lugar cfg m := by
    funext k
    show (duenio (put m.registroTablaDePaginas pid ⟨0, []⟩) _).map _ = _
    rw [hd]
    rfl
  have hexactas : CuentasExactas (guardarProcesoEnMemoria m pid) :=
    guardarProcesoEnMemoria_exactas h.paginado.exclusivos h.paginado.exactas hpid
  refine ⟨⟨guardarProcesoEnMemoria_exclusivos h.paginado.exclusivos pid, ?_,
    ⟨hexactas.paginas, hexactas.obtener, hexactas.marcos⟩⟩, ⟨h.ascendente.cerrado, ?_⟩, ?_⟩
  · intro pid' tabla hg
    have hg' : get (put m.registroTablaDePaginas pid ⟨0, []⟩) pid' = some tabla := hg
    rw [get_put] at hg'
    split_ifs at hg' with hk
    · cases hg'
      exact ⟨le_rfl, by norm_num⟩
    · exact h.paginado.contadores pid' tabla hg'
  · intro pid' q q' marco marco' hq hq' hlt
    have hq₁ : duenio (put m.registroTablaDePaginas pid ⟨0, []⟩) (pid', q) = some marco := hq
    have hq₂ : duenio (put m.registroTablaDePaginas pid ⟨0, []⟩) (pid', q') = some marco' := hq'
    rw [hd] at hq₁ hq₂
    exact h.ascendente.orden pid' q q' marco marco' hq₁ hq₂ hlt
  · rw [hlugar]
    exact h.bytes

/-- What an admissible growth does: it finds a frame for every page it adds. -/
theorem accion_crecer_cases {m' : Estado} {tamanioNuevo : ℤ} {envios : List Envio}
    (hadm : Admisible cfg m (.crecer pid tamanioNuevo))
    (h : accion cfg m (.crecer pid tamanioNuevo) = some (m', envios)) :
    ∃ tab s, get m.registroTablaDePaginas pid = some tab ∧
      s = iterate (ocuparMarco cfg) (int32 (paginasNecesarias cfg tamanioNuevo -
        tab.cantPaginas)).toNat ⟨tab, m.framesLibres, false⟩ ∧ s.huboError = false ∧
      tab.cantPaginas < paginasNecesarias cfg tamanioNuevo ∧
      m' = { m with
        framesLibres := s.framesLibres
        registroTablaDePaginas := put m.registroTablaDePaginas pid
          ⟨int32 (tab.cantPaginas +
              int32 (paginasNecesarias cfg tamanioNuevo - tab.cantPaginas)),
            s.tab.frameSegunPagina⟩ } := by
  obtain ⟨-, hcrece, hok⟩ := hadm
  rw [h, Option.map_some] at hok
  obtain ⟨tab, hg, hcases⟩ := redimensionarProceso_cases h
  unfold Crece at hcrece
  rw [hg] at hcrece
  dsimp only at hcrece
  rcases hcases with ⟨hgt, -⟩ | ⟨hlt, s, hs, henvios, hm'⟩ | ⟨heq, -⟩
  · omega
  · refine ⟨tab, s, hg, hs, ?_, hlt, hm'⟩
    cases herror : s.huboError with
    | false => rfl
    | true =>
      rw [henvios, herror] at hok
      have htexto : [Envio.mensaje "OUT_OF_MEMORY"] = [.mensaje "OK"] := Option.some.inj hok
      exact absurd htexto (by decide)
  · omega

/-- A growth maps more pages, with the bytes they have. -/
theorem Refleja.crecer {espacio : ℤ → UInt8} {p : Plana} (h : Refleja cfg espacio p m) {m' : Estado}
    {tamanioNuevo : ℤ} {envios : List Envio} (hadm : Admisible cfg m (.crecer pid tamanioNuevo))
    (hm' : accion cfg m (.crecer pid tamanioNuevo) = some (m', envios)) :
    Refleja cfg espacio p m' := by
  have hr : redimensionarProceso cfg m pid tamanioNuevo = some (m', envios) := hm'
  obtain ⟨tab, s, hg, hs, hok, hlt, rfl⟩ := accion_crecer_cases hadm hm'
  have hb := h.paginado.contadores pid tab hg
  have hn := paginasNecesarias_bounds cfg hadm.1.1 hadm.1.2
  rw [int32_sub hn hb] at hs
  have htras := iterate_ocuparMarco cfg tab m.framesLibres
    (paginasNecesarias cfg tamanioNuevo - tab.cantPaginas).toNat
  have hpag : ∀ pagina, tab.cantPaginas ≤ pagina → get tab.frameSegunPagina pagina = none := by
    intro pagina hp
    have hnot := mt (h.paginado.exactas.paginas pid tab hg pagina).1 (by omega)
    simpa using hnot
  have hex : Exact (MarcoValido cfg) (duenio (put m.registroTablaDePaginas pid tab))
      m.framesLibres := by
    rw [duenio_put_self hg]
    exact h.paginado.exactas.exact h.paginado.exclusivos
  have hasc : Ascendente (put m.registroTablaDePaginas pid tab) m.framesLibres := by
    refine ⟨h.ascendente.cerrado, ?_⟩
    rw [duenio_put_self hg]
    exact h.ascendente.orden
  have hasc' := iterate_ocuparMarco_ascendente hex hpag hasc
    (paginasNecesarias cfg tamanioNuevo - tab.cantPaginas).toNat
  rw [← hs] at htras hasc'
  have hsin : SinDefecto cfg m (.redimensionar pid tamanioNuevo) := by
    intro tab' hg'
    rw [hg] at hg'
    cases hg'
    have hlibres : ¬ marcosSinUsar cfg m.framesLibres <
        (paginasNecesarias cfg tamanioNuevo - tab.cantPaginas).toNat := by
      rw [← htras.error, hok]
      exact Bool.false_ne_true
    exact ⟨hlt.le, by omega⟩
  have hexcl := redimensionarProceso_exclusivos h.paginado.exclusivos hr
  refine ⟨⟨hexcl, redimensionarProceso_contadores h.paginado.contadores hadm.1.1 hadm.1.2 hr,
    (redimensionarProceso_exactas_iff h.paginado.exclusivos h.paginado.contadores
      h.paginado.exactas hadm.1.1 hadm.1.2 hr).2 hsin⟩, ⟨hasc'.cerrado, ?_⟩, ?_⟩
  · rw [duenio_put_mk]
    exact hasc'.orden
  · refine h.bytes.extend (lugar_mono fun k marco hk => ?_) (lugar_injective hexcl)
    rw [duenio_put_mk, duenio_put]
    by_cases hkpid : k.1 = pid
    · have hk' : get tab.frameSegunPagina k.2 = some marco := by
        rw [← duenio_of_get hg, ← hkpid]
        exact hk
      have hlt' := (h.paginado.exactas.paginas pid tab hg k.2).1 (by rw [hk']; rfl)
      rw [if_pos hkpid, htras.fuera k.2 (by omega), hk']
    · rw [if_neg hkpid, hk]

/-! ### The walks of the processes -/

/-- The frames of the pages of a process are at least as far apart as the pages. -/
theorem Refleja.separados {espacio : ℤ → UInt8} {p : Plana} (h : Refleja cfg espacio p m)
    {pagina marco : ℤ} (hmap : Mapea m pid pagina marco) (j : ℕ) {marco' : ℤ}
    (hmap' : Mapea m pid (pagina + j) marco') : marco + j ≤ marco' := by
  induction j generalizing marco' with
  | zero =>
    have heq : marco = marco' := by
      rw [Nat.cast_zero, add_zero] at hmap'
      exact Option.some.inj (hmap.symm.trans hmap')
    simpa using heq.le
  | succ j ih =>
    obtain ⟨tabla, htabla, -⟩ := Option.bind_eq_some_iff.1 hmap
    have hpag := h.paginado.exactas.paginas pid tabla htabla
    have h0 := (hpag pagina).1 (by rw [(Mapea.iff_get htabla).1 hmap]; rfl)
    have h1 := (hpag (pagina + (j + 1 : ℕ))).1 (by rw [(Mapea.iff_get htabla).1 hmap']; rfl)
    obtain ⟨medio, hmedio⟩ := Option.isSome_iff_exists.1
      ((hpag (pagina + j)).2 ⟨by omega, by push_cast at h1; omega⟩)
    have hmedio' : Mapea m pid (pagina + j) medio := (Mapea.iff_get htabla).2 hmedio
    have hle := ih hmedio'
    have hlt := h.ascendente.orden pid _ _ medio marco' hmedio' hmap' (by push_cast; omega)
    push_cast
    omega

/-- The physical range of the size of a logical one is inside the memory. -/
theorem Refleja.fin_le {espacio : ℤ → UInt8} {p : Plana} (h : Refleja cfg espacio p m)
    {l n : ℤ} (hen : EnPaginas cfg m pid l n) :
    0 ≤ direccionFisica cfg m pid l ∧ direccionFisica cfg m pid l + n ≤ cfg.tamMemoria := by
  have ht := tamPagina_pos_int cfg
  have hmod := Int.emod_nonneg l ht.ne'
  obtain ⟨marco, hmap⟩ := hen.mapea le_rfl (Or.inl rfl)
  rw [add_zero] at hmap
  -- the last byte of the range
  obtain ⟨u, hu⟩ : ∃ u, u = max 0 (n - 1) := ⟨_, rfl⟩
  obtain ⟨marco', hmap'⟩ := hen.mapea (i := u) (by omega) (by omega)
  have hpaginas : l / cfg.tamPagina ≤ (l + u) / cfg.tamPagina :=
    Int.ediv_le_ediv ht (by omega)
  obtain ⟨j, hj⟩ := Int.eq_ofNat_of_zero_le (sub_nonneg.2 hpaginas)
  rw [show (l + u) / cfg.tamPagina = l / cfg.tamPagina + (j : ℤ) by omega] at hmap'
  have hsep := h.separados hmap j hmap'
  have hv := h.paginado.exclusivos.valid_of_owner _ _ hmap'
  have hm0 := (h.paginado.exclusivos.valid_of_owner _ _ hmap).1
  have hdiv := Int.mul_ediv_add_emod l cfg.tamPagina
  have hultimo := Int.lt_ediv_add_one_mul_self (l + u) ht
  have hdir : direccionFisica cfg m pid l = marco * cfg.tamPagina + l % cfg.tamPagina := by
    rw [direccionFisica, obtenerMarco_of_mapea hmap]
  have hdir0 : 0 ≤ direccionFisica cfg m pid l := by
    rw [hdir]
    exact add_nonneg (mul_nonneg hm0 ht.le) hmod
  refine ⟨hdir0, ?_⟩
  calc direccionFisica cfg m pid l + n ≤ direccionFisica cfg m pid l + (u + 1) := by omega
    _ = (marco - l / cfg.tamPagina) * cfg.tamPagina + (l + u + 1) := by
        rw [hdir, sub_mul, mul_comm (l / _)]
        linarith
    _ ≤ (marco - l / cfg.tamPagina) * cfg.tamPagina +
          ((l + u) / cfg.tamPagina + 1) * cfg.tamPagina := by omega
    _ = (marco + j + 1) * cfg.tamPagina := by
        rw [show (j : ℤ) = (l + u) / cfg.tamPagina - l / cfg.tamPagina by omega]
        ring
    _ ≤ (marco' + 1) * cfg.tamPagina := mul_le_mul_of_nonneg_right (by omega) ht.le
    _ ≤ cfg.tamMemoria := hv.fin_le

/-- The check of the memory limit passes. -/
theorem Refleja.dentroDelLimite {espacio : ℤ → UInt8} {p : Plana} (h : Refleja cfg espacio p m)
    {l n : ℤ} (hen : EnPaginas cfg m pid l n) :
    DentroDelLimite cfg (direccionFisica cfg m pid l) n :=
  dentroDelLimite_of_le (h.fin_le hen).1 hen.2.1 (h.fin_le hen).2

theorem Refleja.limite {espacio : ℤ → UInt8} {p : Plana} (h : Refleja cfg espacio p m) {l n : ℤ}
    (hen : EnPaginas cfg m pid l n) :
    verificarLimiteMemoria cfg (direccionFisica cfg m pid l) n = [] := by
  rcases verificarLimiteMemoria_cases cfg (direccionFisica cfg m pid l) n with
    ⟨-, hlimite⟩ | ⟨hno, -⟩
  · exact hlimite
  · exact absurd (h.dentroDelLimite hen) hno

/-! ### Whole runs -/

/-- A write comes back, is answered `OK`, and writes the flat memory of its process. -/
theorem Refleja.escribir {espacio : ℤ → UInt8} {p : Plana} (h : Refleja cfg espacio p m)
    {l n : ℤ} (info : List UInt8) (hen : EnPaginas cfg m pid l n) :
    ∃ m', accion cfg m (.escribir pid l n info) = some (m', [.mensaje "OK"]) ∧
      Refleja cfg espacio (p.aplicar (.escribir pid l n info)) m' := by
  obtain ⟨espacio', hescribir, hw⟩ := escribirMemoria_eq (h.paginado.proceso pid) info hen
  refine ⟨{ m with espacioMemoria := espacio' }, ?_, ⟨⟨h.paginado.exclusivos,
    h.paginado.contadores, ⟨h.paginado.exactas.paginas, h.paginado.exactas.obtener,
      h.paginado.exactas.marcos⟩⟩, h.ascendente,
    h.bytes.write (lugar_injective h.paginado.exclusivos) hen.lugar_ne_none hw⟩⟩
  show escribirMemoria cfg m (direccionFisica cfg m pid l) info n pid = _
  rw [hescribir, h.limite hen]
  rfl

/-- What `leer_memoria` answers for a range in mapped pages, when its strings hold it. -/
theorem Refleja.leer {espacio : ℤ → UInt8} {p : Plana} (h : Refleja cfg espacio p m)
    {l n : ℤ} (hen : EnPaginas cfg m pid l n) (hcabe : CabeLectura cfg l n) :
    leerMemoria cfg m (direccionFisica cfg m pid l) n pid =
      some [.paquete (.bytes (textoLeido cfg
        (fun a => m.espacioMemoria (direccionFisica cfg m pid a)) (combustible n) l n))] := by
  rw [leerMemoria_eq (h.paginado.proceso pid) hen hcabe, h.limite hen]
  rfl

/-- **One action** of the processes on memoria is the action on their flat memories. -/
theorem Refleja.paso {espacio : ℤ → UInt8} {p : Plana} (h : Refleja cfg espacio p m) {a : Accion}
    (hadm : Admisible cfg m a) (hcabe : a.Cabe cfg) :
    ∃ m', pasoAccion cfg m a = some m' ∧ Refleja cfg espacio (p.aplicar a) m' := by
  cases a with
  | crear archivo pid =>
    exact ⟨_, rfl, h.crear archivo (Option.isNone_iff_eq_none.1 hadm)⟩
  | crecer pid tamanioNuevo =>
    obtain ⟨⟨m', envios⟩, hm', -⟩ := Option.map_eq_some_iff.1 hadm.2.2
    exact ⟨m', by rw [pasoAccion, hm']; rfl, h.crecer hadm hm'⟩
  | escribir pid l n info =>
    obtain ⟨m', hm', hrefleja⟩ := h.escribir info hadm.1
    exact ⟨m', by rw [pasoAccion, hm']; rfl, hrefleja⟩
  | leer pid l n =>
    refine ⟨m, ?_, h⟩
    show ((leerMemoria cfg m (direccionFisica cfg m pid l) n pid).map _).map _ = _
    rw [h.leer hadm hcabe]
    rfl

end SimuladorSO.Memoria
