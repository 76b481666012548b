import SimuladorSO.Memoria.Marcos

/-!
# Frames: the accounts

`CuentasExactas` says that the page counter, the page dictionary and the bitmap of every process
tell the same: the mapped pages are `0, …, cant_paginas - 1` and the marked frames are those of
the registered tables.  `reducir_proceso` starts one key too high, so a reduction leaves the first
page it gave back mapped, and a growth that runs out of frames has its counter raised all the
same; `cuentas_exactas_iff` shows that nothing else disturbs the accounts.
-/

namespace SimuladorSO.Memoria

open CInt Dictionary Loops Allocation Transitions

/-- The counter, the page dictionary and the bitmap agree. -/
structure CuentasExactas (m : Estado) : Prop where
  /-- The pages of a live process are `0, …, cant_paginas - 1`. -/
  paginas : ∀ pid tabla, get m.registroTablaDePaginas pid = some tabla → ∀ pagina,
    (get tabla.frameSegunPagina pagina).isSome = true ↔ 0 ≤ pagina ∧ pagina < tabla.cantPaginas
  /-- `obtener_marco` answers a frame for those pages and `-1` for the others. -/
  obtener : ∀ pid tabla, get m.registroTablaDePaginas pid = some tabla → ∀ pagina,
    (0 ≤ pagina ∧ pagina < tabla.cantPaginas → 0 ≤ obtenerMarco m pid pagina) ∧
      (¬ (0 ≤ pagina ∧ pagina < tabla.cantPaginas) → obtenerMarco m pid pagina = -1)
  /-- The marked frames are those of the registered tables. -/
  marcos : ∀ marco, m.framesLibres marco = true ↔ ∃ pid pagina, Mapea m pid pagina marco

/-- The number of unmarked frames. -/
def marcosSinUsar (cfg : MemoriaConfiguracion) (framesLibres : ℤ → Bool) : ℕ :=
  ((Finset.range (totalMarcos cfg)).filter fun j : ℕ => framesLibres j = false).card

/-- The operations as the other modules ask for them: a new pid is not in use, a live one is
resized to a non-negative `int`, and a live one ends. -/
def operacionValida (m : Estado) : Operacion → Bool
  | .guardar pid => (get m.registroTablaDePaginas pid).isNone
  | .redimensionar _ tamanioNuevo => decide (0 ≤ tamanioNuevo ∧ tamanioNuevo < 2 ^ 31)
  | .liberar pid => (get m.registroTablaDePaginas pid).isSome

/-- One operation that the other modules ask for. -/
def pasoValido (cfg : MemoriaConfiguracion) (m : Estado) (op : Operacion) : Option Estado :=
  if operacionValida m op then paso cfg m op else none

/-- A resize that takes no page away and finds a frame for every page it adds. -/
def SinDefecto (cfg : MemoriaConfiguracion) (m : Estado) : Operacion → Prop
  | .redimensionar pid tamanioNuevo =>
    ∀ tab, get m.registroTablaDePaginas pid = some tab →
      tab.cantPaginas ≤ paginasNecesarias cfg tamanioNuevo ∧
        paginasNecesarias cfg tamanioNuevo - tab.cantPaginas ≤ marcosSinUsar cfg m.framesLibres
  | _ => True

variable {cfg : MemoriaConfiguracion} {registro : Dict ℤ TablaDePaginas} {pid : ℤ}

/-- Every page counter is a non-negative `int`. -/
def ContadoresEnRango (m : Estado) : Prop :=
  ∀ pid tabla, get m.registroTablaDePaginas pid = some tabla →
    0 ≤ tabla.cantPaginas ∧ tabla.cantPaginas < 2 ^ 31

theorem tamPagina_pos_int (cfg : MemoriaConfiguracion) : (0 : ℤ) < cfg.tamPagina := by
  exact_mod_cast cfg.tamPagina_pos

/-- A frame ends inside the memory. -/
theorem MarcoValido.fin_le {marco : ℤ} (h : MarcoValido cfg marco) :
    (marco + 1) * cfg.tamPagina ≤ cfg.tamMemoria :=
  calc (marco + 1) * cfg.tamPagina ≤ totalMarcos cfg * cfg.tamPagina :=
        mul_le_mul_of_nonneg_right (by have := h.2; omega) (tamPagina_pos_int cfg).le
    _ ≤ cfg.tamMemoria := by
        unfold totalMarcos
        exact_mod_cast Nat.div_mul_le_self cfg.tamMemoria cfg.tamPagina

/-- The pages of a non-negative `int` size, which are an `int`. -/
theorem paginasNecesarias_bounds (cfg : MemoriaConfiguracion) {tamanio : ℤ} (h0 : 0 ≤ tamanio)
    (h1 : tamanio < 2 ^ 31) :
    0 ≤ paginasNecesarias cfg tamanio ∧ paginasNecesarias cfg tamanio < 2 ^ 31 :=
  ⟨ceilDiv_nonneg (tamPagina_pos_int cfg) h0,
    (ceilDiv_le_self (tamPagina_pos_int cfg) h0).trans_lt h1⟩

theorem int32_sub {a b : ℤ} (ha : 0 ≤ a ∧ a < 2 ^ 31) (hb : 0 ≤ b ∧ b < 2 ^ 31) :
    int32 (a - b) = a - b :=
  int32_of_inRange ⟨by omega, by omega⟩

theorem Mapea.iff_get {m : Estado} {tabla : TablaDePaginas} {pagina marco : ℤ}
    (h : get m.registroTablaDePaginas pid = some tabla) :
    Mapea m pid pagina marco ↔ get tabla.frameSegunPagina pagina = some marco := by
  unfold Mapea
  rw [duenio_of_get h]

theorem CuentasExactas.exact {m : Estado} (h : CuentasExactas m) (he : MarcosExclusivos cfg m) :
    Exact (MarcoValido cfg) (duenio m.registroTablaDePaginas) m.framesLibres where
  toExclusive := he
  owned marco hm := by
    obtain ⟨pid, pagina, hmap⟩ := (h.marcos marco).1 hm
    exact ⟨(pid, pagina), hmap⟩

/-- The accounts are exact when the ownership is and the pages are those of the counters. -/
theorem CuentasExactas.of_exact (cfg : MemoriaConfiguracion) {m : Estado}
    (h : Exact (MarcoValido cfg) (duenio m.registroTablaDePaginas) m.framesLibres)
    (hpag : ∀ pid tabla, get m.registroTablaDePaginas pid = some tabla → ∀ pagina,
      (get tabla.frameSegunPagina pagina).isSome = true ↔
        0 ≤ pagina ∧ pagina < tabla.cantPaginas) : CuentasExactas m where
  paginas := hpag
  obtener pid tabla hg pagina := by
    have hm : obtenerMarco m pid pagina = (get tabla.frameSegunPagina pagina).getD (-1) := by
      simp [obtenerMarco, hg]
    rw [hm]
    constructor
    · intro hr
      obtain ⟨marco, hmarco⟩ := Option.isSome_iff_exists.1 ((hpag pid tabla hg pagina).2 hr)
      rw [hmarco]
      exact (h.valid_of_owner (pid, pagina) marco ((Mapea.iff_get hg).2 hmarco)).1
    · intro hr
      rw [← hpag pid tabla hg pagina, Bool.not_eq_true, Option.isSome_eq_false_iff,
        Option.isNone_iff_eq_none] at hr
      rw [hr]
      rfl
  marcos marco := by
    constructor
    · intro hm
      obtain ⟨⟨pid, pagina⟩, hk⟩ := h.owned marco hm
      exact ⟨pid, pagina, hk⟩
    · rintro ⟨pid, pagina, hk⟩
      exact h.used_of_owner (pid, pagina) marco hk

/-! ### Counting the unmarked frames -/

theorem marcosSinUsar_eq_zero {framesLibres : ℤ → Bool}
    (h : ∀ j, 0 ≤ j → j < (totalMarcos cfg : ℤ) → framesLibres j = true) :
    marcosSinUsar cfg framesLibres = 0 := by
  unfold marcosSinUsar
  rw [Finset.card_eq_zero, Finset.filter_eq_empty_iff]
  intro j hj
  simp [h j (by omega) (by exact_mod_cast Finset.mem_range.1 hj)]

theorem marcosSinUsar_update {framesLibres : ℤ → Bool} {marco : ℤ} (hv : MarcoValido cfg marco)
    (hfree : framesLibres marco = false) :
    marcosSinUsar cfg (Function.update framesLibres marco true) + 1 =
      marcosSinUsar cfg framesLibres := by
  obtain ⟨j, rfl⟩ := Int.eq_ofNat_of_zero_le hv.1
  have hmem : j ∈ (Finset.range (totalMarcos cfg)).filter fun i : ℕ => framesLibres i = false :=
    Finset.mem_filter.2 ⟨Finset.mem_range.2 (by exact_mod_cast hv.2), hfree⟩
  have herase : ((Finset.range (totalMarcos cfg)).filter
      fun i : ℕ => Function.update framesLibres (j : ℤ) true i = false) =
      ((Finset.range (totalMarcos cfg)).filter fun i : ℕ => framesLibres i = false).erase j := by
    ext i
    rw [Finset.mem_erase, Finset.mem_filter, Finset.mem_filter, Function.update_apply]
    by_cases hi : i = j <;> simp [hi]
  unfold marcosSinUsar
  rw [herase, Finset.card_erase_add_one hmem]

/-! ### A growth, iteration by iteration -/

/-- The loop of `ampliar_proceso` after `n` iterations: it has given a frame that was not marked to
the `min n F` pages from `cant_paginas` on, where `F` counts the unmarked frames, and it has
stopped if `F < n`. -/
structure AmpliacionTras (cfg : MemoriaConfiguracion) (tab : TablaDePaginas)
    (framesLibres : ℤ → Bool) (n : ℕ) (s : Ampliacion) : Prop where
  cant : s.tab.cantPaginas = tab.cantPaginas
  dentro : ∀ pagina, tab.cantPaginas ≤ pagina →
    pagina < tab.cantPaginas + (min n (marcosSinUsar cfg framesLibres) : ℕ) →
    ∃ marco, get s.tab.frameSegunPagina pagina = some marco ∧ framesLibres marco = false
  fuera : ∀ pagina, ¬ (tab.cantPaginas ≤ pagina ∧
      pagina < tab.cantPaginas + (min n (marcosSinUsar cfg framesLibres) : ℕ)) →
    get s.tab.frameSegunPagina pagina = get tab.frameSegunPagina pagina
  marcados : ∀ marco, framesLibres marco = true → s.framesLibres marco = true
  libres : marcosSinUsar cfg s.framesLibres + min n (marcosSinUsar cfg framesLibres) =
    marcosSinUsar cfg framesLibres
  error : s.huboError = true ↔ marcosSinUsar cfg framesLibres < n

/-- A loop that has not stopped has found a frame in every iteration. -/
theorem AmpliacionTras.min_eq {tab : TablaDePaginas} {framesLibres : ℤ → Bool} {n : ℕ}
    {s : Ampliacion} (h : AmpliacionTras cfg tab framesLibres n s) (hs : s.huboError = false) :
    min n (marcosSinUsar cfg framesLibres) = n := by
  by_contra hne
  rw [h.error.2 (by omega)] at hs
  cases hs

theorem AmpliacionTras.succ {tab : TablaDePaginas} {framesLibres : ℤ → Bool} {n : ℕ}
    {s : Ampliacion} (h : AmpliacionTras cfg tab framesLibres n s) :
    AmpliacionTras cfg tab framesLibres (n + 1) (ocuparMarco cfg n s) := by
  have hlib := h.libres
  cases hs : s.huboError with
  | true =>
    have hlt := h.error.1 hs
    have hmin : min (n + 1) (marcosSinUsar cfg framesLibres) =
        min n (marcosSinUsar cfg framesLibres) := by omega
    rw [ocuparMarco_of_error n hs]
    exact ⟨h.cant, by rw [hmin]; exact h.dentro, by rw [hmin]; exact h.fuera, h.marcados,
      by rw [hmin]; exact hlib, iff_of_true hs (by omega)⟩
  | false =>
    have hminn := h.min_eq hs
    rcases ocuparMarco_cases cfg n s hs with ⟨hnone, heq⟩ | ⟨marco, hv, hfree, -, heq⟩
    · have hzero := marcosSinUsar_eq_zero hnone
      have hmin : min (n + 1) (marcosSinUsar cfg framesLibres) =
          min n (marcosSinUsar cfg framesLibres) := by omega
      rw [heq]
      exact ⟨h.cant, by rw [hmin]; exact h.dentro, by rw [hmin]; exact h.fuera, h.marcados,
        by rw [hmin]; exact hlib, iff_of_true rfl (by omega)⟩
    · have hupd := marcosSinUsar_update hv hfree
      have hmin : min (n + 1) (marcosSinUsar cfg framesLibres) = n + 1 := by omega
      have hnew : framesLibres marco = false := by
        by_contra hm
        rw [h.marcados marco (by simpa using hm)] at hfree
        cases hfree
      have hdentro := h.dentro
      have hfuera := h.fuera
      rw [hminn] at hdentro hfuera
      rw [heq]
      refine ⟨h.cant, fun pagina h1 h2 => ?_, fun pagina hp => ?_, fun marco' hm => ?_, ?_,
        iff_of_false (by simp) (by omega)⟩
      · dsimp only
        rw [get_put, h.cant]
        split_ifs with hp
        · exact ⟨marco, rfl, hnew⟩
        · exact hdentro pagina h1 (by push_cast [hmin] at h2; omega)
      · dsimp only
        rw [get_put, h.cant, if_neg (by push_cast [hmin] at hp; omega)]
        exact hfuera pagina (by push_cast [hmin] at hp; omega)
      · dsimp only
        rw [Function.update_apply]
        split_ifs
        · rfl
        · exact h.marcados marco' hm
      · dsimp only
        omega

theorem iterate_ocuparMarco (cfg : MemoriaConfiguracion) (tab : TablaDePaginas)
    (framesLibres : ℤ → Bool) (n : ℕ) :
    AmpliacionTras cfg tab framesLibres n
      (iterate (ocuparMarco cfg) n ⟨tab, framesLibres, false⟩) := by
  refine iterate_induct (P := AmpliacionTras cfg tab framesLibres) ?_ fun i _ s hs => hs.succ
  exact ⟨rfl, fun pagina h1 h2 => by simp at h2; omega, fun _ _ => rfl, fun _ hm => hm, by simp,
    by simp⟩

/-- A growth from a table without pages from `cant_paginas` on loses no frame. -/
theorem iterate_ocuparMarco_exact (registro : Dict ℤ TablaDePaginas) (pid : ℤ)
    {tab : TablaDePaginas} {framesLibres : ℤ → Bool}
    (hex : Exact (MarcoValido cfg) (duenio (put registro pid tab)) framesLibres)
    (hpag : ∀ pagina, tab.cantPaginas ≤ pagina → get tab.frameSegunPagina pagina = none) (n : ℕ) :
    Exact (MarcoValido cfg)
      (duenio (put registro pid (iterate (ocuparMarco cfg) n ⟨tab, framesLibres, false⟩).tab))
      (iterate (ocuparMarco cfg) n ⟨tab, framesLibres, false⟩).framesLibres := by
  induction n with
  | zero => exact hex
  | succ n ih =>
    have htras := iterate_ocuparMarco cfg tab framesLibres n
    rw [iterate_succ]
    generalize iterate (ocuparMarco cfg) n ⟨tab, framesLibres, false⟩ = s at ih htras ⊢
    cases hs : s.huboError with
    | true => rwa [ocuparMarco_of_error n hs]
    | false =>
      rcases ocuparMarco_cases cfg n s hs with ⟨-, heq⟩ | ⟨marco, hv, hfree, -, heq⟩
      · rw [heq]
        exact ih
      · rw [heq, duenio_put_frame]
        refine ih.take hv hfree ?_
        rw [duenio_put, if_pos rfl, htras.cant, htras.fuera _ (by rw [htras.min_eq hs]; omega)]
        exact hpag _ (by omega)

/-! ### A reduction, iteration by iteration -/

theorem liberarPagina_get (i : ℕ) (s : TablaDePaginas × (ℤ → Bool)) (pagina : ℤ) :
    get (liberarPagina i s).1.frameSegunPagina pagina =
      if pagina = s.1.cantPaginas - i then none else get s.1.frameSegunPagina pagina := by
  unfold liberarPagina
  cases hg : get s.1.frameSegunPagina (s.1.cantPaginas - i) with
  | none =>
    split_ifs with hp
    · rw [hp, hg]
    · rfl
  | some marco => exact get_remove _ _ _

/-- A reduction by `n` pages removes the keys from `cant_paginas` down to `cant_paginas - n + 1`,
and the key `cant_paginas - n` stays. -/
theorem iterate_liberarPagina_get (tab : TablaDePaginas) (framesLibres : ℤ → Bool) (n : ℕ)
    (pagina : ℤ) :
    get (iterate liberarPagina n (tab, framesLibres)).1.frameSegunPagina pagina =
      if tab.cantPaginas - n < pagina ∧ pagina ≤ tab.cantPaginas then none
      else get tab.frameSegunPagina pagina := by
  have hcant : ∀ i, (iterate liberarPagina i (tab, framesLibres)).1.cantPaginas =
      tab.cantPaginas := fun i =>
    iterate_induct
      (P := fun _ (s : TablaDePaginas × (ℤ → Bool)) => s.1.cantPaginas = tab.cantPaginas) rfl
      fun i _ s hs => by rw [liberarPagina_cantPaginas, hs]
  induction n with
  | zero =>
    rw [iterate_zero, if_neg (by push_cast; omega)]
  | succ n ih =>
    rw [iterate_succ, liberarPagina_get, hcant, ih]
    by_cases hp : pagina = tab.cantPaginas - n
    · rw [if_pos hp, if_pos (by push_cast; omega)]
    · rw [if_neg hp]
      by_cases hr : tab.cantPaginas - n < pagina ∧ pagina ≤ tab.cantPaginas
      · rw [if_pos hr, if_pos (by push_cast; omega)]
      · rw [if_neg hr, if_neg (by push_cast; omega)]

/-! ### One operation -/

theorem guardarProcesoEnMemoria_exactas {m : Estado} (he : MarcosExclusivos cfg m)
    (h : CuentasExactas m) (hg : get m.registroTablaDePaginas pid = none) :
    CuentasExactas (guardarProcesoEnMemoria m pid) := by
  have hd : duenio (put m.registroTablaDePaginas pid ⟨0, []⟩) =
      duenio m.registroTablaDePaginas := by
    funext k
    rw [duenio_put]
    split_ifs with hk
    · simp [duenio, hk, hg]
    · rfl
  refine CuentasExactas.of_exact cfg ?_ fun pid' tabla hg' pagina => ?_
  · rw [guardarProcesoEnMemoria, hd]
    exact h.exact he
  · rw [guardarProcesoEnMemoria, get_put] at hg'
    split_ifs at hg' with hpid
    · cases hg'
      exact iff_of_false (by simp) (by simp)
    · exact h.paginas pid' tabla hg' pagina

theorem liberarProcesoDeMemoria_exactas {m : Estado} (he : MarcosExclusivos cfg m)
    (h : CuentasExactas m) (pid : ℤ) : CuentasExactas (liberarProcesoDeMemoria m pid) := by
  have he' := liberarProcesoDeMemoria_exclusivos he pid
  unfold liberarProcesoDeMemoria at he' ⊢
  cases hg : get m.registroTablaDePaginas pid with
  | none => exact h
  | some tabla =>
    rw [hg] at he'
    refine CuentasExactas.of_exact cfg ⟨he', fun r hr => ?_⟩
      fun pid' tabla' hg' pagina => ?_
    · obtain ⟨hused, hnone⟩ := (iterate_liberarMarco tabla _ _ r).1 hr
      obtain ⟨⟨pid', pagina⟩, hk⟩ := (h.exact he).owned r hused
      refine ⟨(pid', pagina), ?_⟩
      have hpid : pid' ≠ pid := by
        rintro rfl
        rw [duenio_of_get hg] at hk
        obtain ⟨hp0, hp1⟩ := (h.paginas pid' tabla hg pagina).1 (by rw [hk]; rfl)
        obtain ⟨j, rfl⟩ := Int.eq_ofNat_of_zero_le hp0
        exact hnone j (by omega) hk
      simpa [duenio, get_remove_of_ne _ hpid] using hk
    · dsimp only at hg'
      rw [get_remove] at hg'
      split_ifs at hg'
      exact h.paginas pid' tabla' hg' pagina

/-- A resize keeps the accounts exactly when it has no defect. -/
theorem redimensionarProceso_exactas_iff {m m' : Estado} {tamanio : ℤ} {envios : List Envio}
    (he : MarcosExclusivos cfg m) (hrango : ContadoresEnRango m) (h : CuentasExactas m)
    (h0 : 0 ≤ tamanio) (h1 : tamanio < 2 ^ 31)
    (hr : redimensionarProceso cfg m pid tamanio = some (m', envios)) :
    CuentasExactas m' ↔ SinDefecto cfg m (.redimensionar pid tamanio) := by
  obtain ⟨tab, hg, hcases⟩ := redimensionarProceso_cases hr
  have hb := hrango pid tab hg
  have hn := paginasNecesarias_bounds cfg h0 h1
  have hdef : SinDefecto cfg m (.redimensionar pid tamanio) ↔
      tab.cantPaginas ≤ paginasNecesarias cfg tamanio ∧
        paginasNecesarias cfg tamanio - tab.cantPaginas ≤ marcosSinUsar cfg m.framesLibres := by
    simp [SinDefecto, hg]
  rw [hdef]
  rcases hcases with ⟨hgt, s, hs, -, rfl⟩ | ⟨hlt, s, hs, -, rfl⟩ | ⟨heq, -, rfl⟩
  · -- the key `paginas_necesarias` survives although the counter is now equal to it
    refine iff_of_false (fun hex => ?_) (by omega)
    rw [int32_sub hb hn] at hs hex
    have hkey : get s.1.frameSegunPagina (paginasNecesarias cfg tamanio) =
        get tab.frameSegunPagina (paginasNecesarias cfg tamanio) := by
      rw [hs, iterate_liberarPagina_get, if_neg (by omega)]
    have hsome := (h.paginas pid tab hg (paginasNecesarias cfg tamanio)).2 ⟨hn.1, hgt⟩
    have hlast := (hex.paginas pid _ (get_put_self _ _ _) (paginasNecesarias cfg tamanio)).1
      (by dsimp only; rw [hkey]; exact hsome)
    rw [sub_sub_cancel, int32_of_inRange ⟨by omega, hn.2⟩] at hlast
    exact lt_irrefl _ hlast.2
  · rw [int32_sub hn hb] at hs ⊢
    have hnone : ∀ pagina, tab.cantPaginas ≤ pagina → get tab.frameSegunPagina pagina = none := by
      intro pagina hp
      have hnot := mt (h.paginas pid tab hg pagina).1 (by omega)
      simpa using hnot
    have htras := iterate_ocuparMarco cfg tab m.framesLibres
      (paginasNecesarias cfg tamanio - tab.cantPaginas).toNat
    have hexact := iterate_ocuparMarco_exact m.registroTablaDePaginas pid
      (by rw [duenio_put_self hg]; exact h.exact he) hnone
      (paginasNecesarias cfg tamanio - tab.cantPaginas).toNat
    rw [← hs] at htras hexact
    rw [show tab.cantPaginas + (paginasNecesarias cfg tamanio - tab.cantPaginas) =
      paginasNecesarias cfg tamanio by ring, int32_of_inRange ⟨by omega, hn.2⟩]
    have hpag : ∀ pagina, (get s.tab.frameSegunPagina pagina).isSome = true ↔
        0 ≤ pagina ∧ pagina < tab.cantPaginas +
          (min (paginasNecesarias cfg tamanio - tab.cantPaginas).toNat
            (marcosSinUsar cfg m.framesLibres) : ℕ) := by
      intro pagina
      by_cases hin : tab.cantPaginas ≤ pagina ∧ pagina < tab.cantPaginas +
          (min (paginasNecesarias cfg tamanio - tab.cantPaginas).toNat
            (marcosSinUsar cfg m.framesLibres) : ℕ)
      · obtain ⟨marco, hmarco, -⟩ := htras.dentro pagina hin.1 hin.2
        exact iff_of_true (by rw [hmarco]; rfl) ⟨by omega, hin.2⟩
      · rw [htras.fuera pagina hin, h.paginas pid tab hg pagina]
        omega
    constructor
    · -- the last page of the new size is mapped, so the growth did not stop before it
      intro hex
      have hlast := (hex.paginas pid _ (get_put_self _ _ _)
        (paginasNecesarias cfg tamanio - 1)).2 ⟨by omega, by dsimp only; omega⟩
      have hin := (hpag _).1 hlast
      push_cast at hin
      omega
    · rintro ⟨-, hle⟩
      refine CuentasExactas.of_exact cfg ?_ fun pid' tabla hg' pagina => ?_
      · rw [duenio_put_mk]
        exact hexact
      · dsimp only at hg'
        rw [get_put] at hg'
        split_ifs at hg' with hpid
        · cases hg'
          rw [hpag]
          push_cast
          omega
        · exact h.paginas pid' tabla hg' pagina
  · exact iff_of_true h (by omega)

theorem redimensionarProceso_contadores {m m' : Estado} {tamanio : ℤ} {envios : List Envio}
    (hrango : ContadoresEnRango m) (h0 : 0 ≤ tamanio) (h1 : tamanio < 2 ^ 31)
    (hr : redimensionarProceso cfg m pid tamanio = some (m', envios)) :
    ContadoresEnRango m' := by
  obtain ⟨tab, hg, hcases⟩ := redimensionarProceso_cases hr
  have hb := hrango pid tab hg
  have hn := paginasNecesarias_bounds cfg h0 h1
  have hput : ∀ frames, ∀ pid' tabla,
      get (put m.registroTablaDePaginas pid ⟨paginasNecesarias cfg tamanio, frames⟩) pid' =
        some tabla → 0 ≤ tabla.cantPaginas ∧ tabla.cantPaginas < 2 ^ 31 := by
    intro frames pid' tabla hg'
    rw [get_put] at hg'
    split_ifs at hg' with hpid
    · cases hg'; exact hn
    · exact hrango pid' tabla hg'
  rcases hcases with ⟨hgt, s, -, -, rfl⟩ | ⟨hlt, s, -, -, rfl⟩ | ⟨heq, -, rfl⟩
  · rw [int32_sub hb hn, sub_sub_cancel, int32_of_inRange ⟨by omega, hn.2⟩]
    exact hput _
  · rw [int32_sub hn hb, show tab.cantPaginas + (paginasNecesarias cfg tamanio - tab.cantPaginas) =
      paginasNecesarias cfg tamanio by ring, int32_of_inRange ⟨by omega, hn.2⟩]
    exact hput _
  · exact hrango

theorem pasoValido_contadores {m m' : Estado} (op : Operacion) (h : ContadoresEnRango m)
    (hp : pasoValido cfg m op = some m') : ContadoresEnRango m' := by
  unfold pasoValido at hp
  split_ifs at hp with hv
  cases op with
  | guardar pid =>
    cases hp
    intro pid' tabla hg
    rw [guardarProcesoEnMemoria, get_put] at hg
    split_ifs at hg
    · cases hg; exact ⟨le_rfl, by norm_num⟩
    · exact h pid' tabla hg
  | redimensionar pid tamanio =>
    obtain ⟨⟨m₁, envios⟩, hr, rfl⟩ := Option.map_eq_some_iff.1 hp
    have hv' : 0 ≤ tamanio ∧ tamanio < 2 ^ 31 := by simpa [operacionValida] using hv
    exact redimensionarProceso_contadores h hv'.1 hv'.2 hr
  | liberar pid =>
    cases hp
    intro pid' tabla hg
    unfold liberarProcesoDeMemoria at hg
    split at hg
    · exact h pid' tabla hg
    · dsimp only at hg
      rw [get_remove] at hg
      split_ifs at hg
      exact h pid' tabla hg

theorem pasoValido_exactas_iff {m m' : Estado} (op : Operacion) (he : MarcosExclusivos cfg m)
    (hrango : ContadoresEnRango m) (h : CuentasExactas m)
    (hp : pasoValido cfg m op = some m') : CuentasExactas m' ↔ SinDefecto cfg m op := by
  unfold pasoValido at hp
  split_ifs at hp with hv
  cases op with
  | guardar pid =>
    cases hp
    have hv' : get m.registroTablaDePaginas pid = none := by simpa [operacionValida] using hv
    exact iff_of_true (guardarProcesoEnMemoria_exactas he h hv') trivial
  | redimensionar pid tamanio =>
    obtain ⟨⟨m₁, envios⟩, hr, rfl⟩ := Option.map_eq_some_iff.1 hp
    have hv' : 0 ≤ tamanio ∧ tamanio < 2 ^ 31 := by simpa [operacionValida] using hv
    exact redimensionarProceso_exactas_iff he hrango h hv'.1 hv'.2 hr
  | liberar pid =>
    cases hp
    exact iff_of_true (liberarProcesoDeMemoria_exactas he h pid) trivial

theorem generarEspacioMemoria_exactas (espacio : ℤ → UInt8) :
    CuentasExactas (generarEspacioMemoria espacio) :=
  CuentasExactas.of_exact ⟨1, 1, .minimo, by norm_num, by norm_num, by norm_num⟩ Exact.empty
    fun _ _ hg => by cases hg

/-- **When the accounts are exact.**  The states of a run from start-up all have exact accounts if
and only if every resize of the run asks for at least the pages the process has and for no more
new pages than there are unmarked frames. -/
theorem cuentas_exactas_iff (cfg : MemoriaConfiguracion) (espacio : ℤ → UInt8)
    (ops : List Operacion) :
    Along (pasoValido cfg) CuentasExactas (generarEspacioMemoria espacio) ops ↔
      Meets (pasoValido cfg) (SinDefecto cfg) (generarEspacioMemoria espacio) ops := by
  refine along_iff_meets (I := fun m => MarcosExclusivos cfg m ∧ ContadoresEnRango m)
    (fun m op m' hi hp => ⟨?_, pasoValido_contadores op hi.2 hp⟩)
    (fun m op m' hi h hp => pasoValido_exactas_iff op hi.1 hi.2 h hp)
    ⟨generarEspacioMemoria_exclusivos espacio, fun _ _ hg => by cases hg⟩
    (generarEspacioMemoria_exactas espacio)
  unfold pasoValido at hp
  split_ifs at hp
  exact paso_exclusivos op hi.1 hp

/-- A process grows to two pages and shrinks to one: page 1 still has its frame, and after it
grows again to two pages that frame is marked and in no table. -/
theorem cuentas_no_exactas_tras_reducir :
    (∃ m, run (pasoValido cfgCuatroMarcos) (generarEspacioMemoria fun _ => 0)
        [.guardar 1, .redimensionar 1 32, .redimensionar 1 16] = some m ∧
      obtenerMarco m 1 1 = 1 ∧ ¬ CuentasExactas m) ∧
    (run (pasoValido cfgCuatroMarcos) (generarEspacioMemoria fun _ => 0)
        [.guardar 1, .redimensionar 1 32, .redimensionar 1 16, .redimensionar 1 32]).map
      (fun m => (obtenerMarco m 1 0, obtenerMarco m 1 1, m.framesLibres 1)) =
      some (0, 2, true) := by
  constructor
  · refine ⟨_, rfl, by decide, fun h => ?_⟩
    have h1 := (h.obtener 1 ⟨1, [(1, 1), (0, 0)]⟩ rfl 1).2 (by decide)
    revert h1
    decide
  · decide

end SimuladorSO.Memoria
