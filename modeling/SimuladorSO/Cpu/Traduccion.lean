import SimuladorSO.Cpu.Registros
import SimuladorSO.Cpu.Tlb
import SimuladorSO.Memoria.Marcos

/-!
# The translation of the address in a register

Without a TLB, `obtener_direccion_fisica` asks memoria for the frame of the page.  The logical
address comes from a register through an `int`, so half of the registers of 32 bits are negative
addresses, and the truncating division takes those just below zero to page 0.

* `PaginasMapeadas`: a process with the pages `0, …, k - 1`;
* `TraduccionCorrecta`: the answer is that of unsigned arithmetic;
* `traduccion_correcta_iff`: when it is.
-/

namespace SimuladorSO.Cpu

open CInt Commons Memoria Transitions

/-- The table of the process maps the pages `0, …, k - 1`, each to a frame of the memory, and no
other. -/
structure PaginasMapeadas (cfg : MemoriaConfiguracion) (m : Memoria.Estado) (pid : ℤ) (k : ℕ)
    (marco : ℕ → ℤ) : Prop where
  mapea : ∀ p < k, Mapea m pid (p : ℕ) (marco p)
  marcoValido : ∀ p < k, MarcoValido cfg (marco p)
  ninguna : ∀ pagina : ℤ, pagina < 0 ∨ k ≤ pagina → ∀ marco, ¬ Mapea m pid pagina marco

/-- The physical address of a logical one in unsigned arithmetic. -/
def direccionSinSigno (tamPagina k : ℕ) (marco : ℕ → ℤ) (l : ℕ) : ℤ :=
  if k ≤ l / tamPagina then -1 else marco (l / tamPagina) * tamPagina + (l % tamPagina : ℕ)

/-- The translation comes back with the address of unsigned arithmetic, and with no other frame than
that of the page of `l`. -/
def TraduccionCorrecta (cpu : CpuConfiguracion) (cfg : MemoriaConfiguracion) (m : Memoria.Estado)
    (tlb : List BaseTlb) (pid : ℤ) (k : ℕ) (marco : ℕ → ℤ) (r : Registros) (registro : Cadena)
    (l : ℕ) : Prop :=
  ∃ direccion, obtenerDireccionFisica cpu cfg.tamPagina (obtenerMarco m pid) tlb
      (obtenerValor r registro) pid = some (direccion, tlb) ∧
    direccion = direccionSinSigno cfg.tamPagina k marco l ∧
    (direccion ≠ -1 → l / cfg.tamPagina < k ∧
      marco (l / cfg.tamPagina) * cfg.tamPagina ≤ direccion ∧
      direccion < (marco (l / cfg.tamPagina) + 1) * cfg.tamPagina)

/-- When the translation of `l` is right: below `2 ^ 31` always.  From there on the page is
negative, and never mapped, unless `l` is less than a page below `2 ^ 32`: then it is page 0, and
the address is one before the frame of page 0, which is right only if it is `-1` and so says that
there is none, or if it falls on the frame that `l` has. -/
def Traducible (tamPagina k : ℕ) (marco : ℕ → ℤ) (l : ℕ) : Prop :=
  l < 2 ^ 31 ∨
  (k ≤ l / tamPagina ∧ (k = 0 ∨ l + tamPagina ≤ 2 ^ 32 ∨ (marco 0 = 0 ∧ l = 2 ^ 32 - 1))) ∨
  (l / tamPagina < k ∧ 2 ^ 32 < l + tamPagina ∧ tamPagina ∣ 2 ^ 32 ∧
    marco (l / tamPagina) + 1 = marco 0)

variable {cpu : CpuConfiguracion} {cfg : MemoriaConfiguracion} {m : Memoria.Estado} {pid : ℤ}
  {k : ℕ} {marco : ℕ → ℤ}

theorem PaginasMapeadas.obtenerMarco_eq (h : PaginasMapeadas cfg m pid k marco) {p : ℕ}
    (hp : p < k) : obtenerMarco m pid p = marco p := obtenerMarco_of_mapea (h.mapea p hp)

theorem PaginasMapeadas.obtenerMarco_eq_neg (h : PaginasMapeadas cfg m pid k marco) {pagina : ℤ}
    (hp : pagina < 0 ∨ k ≤ pagina) : obtenerMarco m pid pagina = -1 := by
  rcases obtenerMarco_cases m pid pagina with hnone | hmap
  · exact hnone
  · exact absurd hmap (h.ninguna pagina hp _)

/-- Without a TLB the frame is the one that memoria answers. -/
theorem obtenerDireccionFisica_sin_tlb (hcpu : cpu.cantidadEntradasTlb = 0) (tamPagina : ℕ)
    (obtenerMarcoMemoria : ℤ → ℤ) (tlb : List BaseTlb) (direccionLogica pid : ℤ) :
    obtenerDireccionFisica cpu tamPagina obtenerMarcoMemoria tlb direccionLogica pid =
      some (direccionEnMarco tamPagina direccionLogica
        (obtenerMarcoMemoria (obtenerPagina tamPagina direccionLogica)), tlb) := by
  unfold obtenerDireccionFisica marcoParaPagina
  simp [hcpu]

/-- The page of a non-negative address. -/
theorem obtenerPagina_natCast (tamPagina l : ℕ) :
    obtenerPagina tamPagina l = (l / tamPagina : ℕ) := (Int.ofNat_tdiv l tamPagina).symm

/-- The page of a negative address. -/
theorem obtenerPagina_neg (tamPagina e : ℕ) :
    obtenerPagina tamPagina (-(e : ℤ)) = -((e / tamPagina : ℕ) : ℤ) := by
  unfold obtenerPagina
  rw [Int.neg_tdiv, Int.ofNat_tdiv]

/-- The address that an `int` is translated to, below `2 ^ 31`. -/
theorem PaginasMapeadas.direccion_baja (h : PaginasMapeadas cfg m pid k marco) (l : ℕ) :
    direccionEnMarco cfg.tamPagina l (obtenerMarco m pid (obtenerPagina cfg.tamPagina l)) =
      direccionSinSigno cfg.tamPagina k marco l := by
  rw [obtenerPagina_natCast]
  unfold direccionSinSigno direccionEnMarco
  by_cases hk : k ≤ l / cfg.tamPagina
  · rw [h.obtenerMarco_eq_neg (Or.inr (by exact_mod_cast hk)), if_pos hk, if_neg (by simp)]
  · have hv := h.marcoValido _ (Nat.lt_of_not_le hk)
    rw [h.obtenerMarco_eq (Nat.lt_of_not_le hk), if_neg hk,
      if_pos (show marco (l / cfg.tamPagina) ≠ -1 from by have := hv.1; omega),
      obtenerPagina_natCast]
    have hdiv : ((l / cfg.tamPagina : ℕ) : ℤ) * cfg.tamPagina + (l % cfg.tamPagina : ℕ) = l := by
      exact_mod_cast Nat.div_add_mod' l cfg.tamPagina
    linarith

/-- The address that a negative `int` is translated to. -/
theorem PaginasMapeadas.direccion_alta (h : PaginasMapeadas cfg m pid k marco) (e : ℕ) :
    direccionEnMarco cfg.tamPagina (-(e : ℤ))
        (obtenerMarco m pid (obtenerPagina cfg.tamPagina (-(e : ℤ)))) =
      if k = 0 ∨ cfg.tamPagina ≤ e then -1 else marco 0 * cfg.tamPagina - e := by
  rw [obtenerPagina_neg]
  unfold direccionEnMarco
  by_cases hpagina : cfg.tamPagina ≤ e
  · have hpos : 0 < e / cfg.tamPagina := Nat.div_pos hpagina cfg.tamPagina_pos
    rw [if_pos (Or.inr hpagina), h.obtenerMarco_eq_neg (Or.inl (by omega)), if_neg (by simp)]
  · rw [Nat.div_eq_of_lt (Nat.lt_of_not_le hpagina)]
    by_cases hk : k = 0
    · rw [if_pos (Or.inl hk), h.obtenerMarco_eq_neg (Or.inr (by simp [hk])), if_neg (by simp)]
    · have hv := h.marcoValido 0 (Nat.pos_of_ne_zero hk)
      have hmarco := h.obtenerMarco_eq (Nat.pos_of_ne_zero hk)
      have hne : marco 0 ≠ -1 := by have := hv.1; omega
      rw [show (-((0 : ℕ) : ℤ)) = ((0 : ℕ) : ℤ) from by simp, hmarco, if_pos hne,
        if_neg (not_or.2 ⟨hk, hpagina⟩), obtenerPagina_neg,
        Nat.div_eq_of_lt (Nat.lt_of_not_le hpagina)]
      push_cast
      ring

/-- An address of unsigned arithmetic is in the frame of its page. -/
theorem direccionSinSigno_en_marco {l : ℕ}
    (hne : direccionSinSigno cfg.tamPagina k marco l ≠ -1) :
    l / cfg.tamPagina < k ∧
      marco (l / cfg.tamPagina) * cfg.tamPagina ≤ direccionSinSigno cfg.tamPagina k marco l ∧
      direccionSinSigno cfg.tamPagina k marco l <
        (marco (l / cfg.tamPagina) + 1) * cfg.tamPagina := by
  unfold direccionSinSigno at hne ⊢
  by_cases hk : k ≤ l / cfg.tamPagina
  · exact absurd (if_pos hk) hne
  · have hlt : ((l % cfg.tamPagina : ℕ) : ℤ) < cfg.tamPagina := by
      exact_mod_cast Nat.mod_lt l cfg.tamPagina_pos
    rw [if_neg hk]
    refine ⟨Nat.lt_of_not_le hk, by omega, ?_⟩
    rw [add_mul, one_mul]
    omega

/-- The address before the frame of page 0 is that of unsigned arithmetic only if it is on the frame
before that of page 0, with the offset that `l` has. -/
theorem direccion_previa_iff {tamPagina l e : ℕ} (ht : 0 < tamPagina) (hl : l + e = 2 ^ 32)
    (he : 0 < e) (hlt : e < tamPagina) (marco₀ marco : ℤ) :
    marco₀ * tamPagina - e = marco * tamPagina + (l % tamPagina : ℕ) ↔
      tamPagina ∣ 2 ^ 32 ∧ marco + 1 = marco₀ := by
  have hmod : l % tamPagina < tamPagina := Nat.mod_lt l ht
  have hdiv : l = tamPagina * (l / tamPagina) + l % tamPagina := (Nat.div_add_mod l tamPagina).symm
  constructor
  · intro heq
    have hprod : (marco₀ - marco) * tamPagina = (l % tamPagina : ℕ) + e := by linarith
    -- the sum of the two offsets is positive and less than two pages
    have hpos : 0 < (marco₀ - marco) * (tamPagina : ℤ) := by rw [hprod]; omega
    have hlt2 : (marco₀ - marco) * (tamPagina : ℤ) < 2 * tamPagina := by rw [hprod]; omega
    have h1 : 0 < marco₀ - marco := pos_of_mul_pos_left hpos (by omega)
    have h2 : marco₀ - marco < 2 := lt_of_mul_lt_mul_right hlt2 (by omega)
    have hone : marco₀ - marco = 1 := by omega
    rw [hone, one_mul] at hprod
    have hsum : tamPagina = l % tamPagina + e := by exact_mod_cast hprod
    refine ⟨⟨l / tamPagina + 1, ?_⟩, by omega⟩
    rw [mul_add, mul_one]
    omega
  · rintro ⟨⟨q, hq⟩, hmarco⟩
    have hsum : l % tamPagina + e = tamPagina := by
      have hdvd : tamPagina ∣ l % tamPagina + e := by
        rw [← Nat.dvd_add_right (Dvd.intro (l / tamPagina) rfl)]
        exact ⟨q, by omega⟩
      obtain ⟨c, hc⟩ := hdvd
      have hc1 : c < 2 := by
        by_contra hge
        have := Nat.mul_le_mul_left tamPagina (Nat.le_of_not_lt hge)
        omega
      have hc0 : c ≠ 0 := by
        rintro rfl
        omega
      have hone : c = 1 := by omega
      rw [hc, hone, mul_one]
    rw [← hmarco, add_mul, one_mul]
    omega

/-- **When a process is confined to its own frames.**  The translation of the value `l` of a
register gives the address of unsigned arithmetic exactly when `l` is `Traducible`. -/
theorem traduccion_correcta_iff (cpu : CpuConfiguracion) (hcpu : cpu.cantidadEntradasTlb = 0)
    (cfg : MemoriaConfiguracion) (m : Memoria.Estado) (tlb : List BaseTlb) (pid : ℤ) (k : ℕ)
    (marco : ℕ → ℤ) (h : PaginasMapeadas cfg m pid k marco) (r : Registros) (reg : Registro)
    (registro : Cadena) (hreg : stringEqualsIgnoreCase registro reg.nombre.toList = true) :
    TraduccionCorrecta cpu cfg m tlb pid k marco r registro (r.valor reg) ↔
      Traducible cfg.tamPagina k marco (r.valor reg) := by
  have hl : r.valor reg < 2 ^ 32 := by
    rcases ancho_cases reg with hancho | hancho
    · have hlt := valor_lt r reg
      rw [hancho] at hlt
      omega
    · have hlt := valor_lt r reg
      rwa [hancho] at hlt
  generalize hval : r.valor reg = l at hl
  have hcorrecta : TraduccionCorrecta cpu cfg m tlb pid k marco r registro l ↔
      direccionEnMarco cfg.tamPagina (int32 l)
        (obtenerMarco m pid (obtenerPagina cfg.tamPagina (int32 l))) =
          direccionSinSigno cfg.tamPagina k marco l := by
    unfold TraduccionCorrecta
    rw [obtenerDireccionFisica_sin_tlb hcpu, obtenerValor_eq r hreg, hval]
    constructor
    · rintro ⟨direccion, heq, hdir, -⟩
      rw [← hdir]
      exact (Prod.mk.inj (Option.some.inj heq)).1
    · intro heq
      exact ⟨_, rfl, heq, fun hne => by rw [heq] at hne ⊢; exact direccionSinSigno_en_marco hne⟩
  rw [hcorrecta]
  unfold Traducible
  have ht := cfg.tamPagina_pos
  by_cases hbaja : l < 2 ^ 31
  · rw [int32_of_inRange ⟨by omega, by omega⟩]
    exact iff_of_true (h.direccion_baja l) (Or.inl hbaja)
  · obtain ⟨e, he⟩ : ∃ e, l + e = 2 ^ 32 := ⟨2 ^ 32 - l, by omega⟩
    rw [int32_of_upper (by omega) (by omega), show (l : ℤ) - 2 ^ 32 = -(e : ℤ) from by omega,
      h.direccion_alta e, or_iff_right hbaja]
    unfold direccionSinSigno
    by_cases hk : k ≤ l / cfg.tamPagina
    · rw [if_pos hk]
      by_cases hneg : k = 0 ∨ cfg.tamPagina ≤ e
      · rw [if_pos hneg]
        exact iff_of_true rfl (Or.inl ⟨hk, hneg.imp_right fun hle => Or.inl (by omega)⟩)
      · have hk0 : k ≠ 0 := fun hzero => hneg (Or.inl hzero)
        have hlt : e < cfg.tamPagina := Nat.lt_of_not_le fun hle => hneg (Or.inr hle)
        have hv := (h.marcoValido 0 (Nat.pos_of_ne_zero hk0)).1
        rw [if_neg hneg]
        constructor
        · intro heq
          have hprod : marco 0 * (cfg.tamPagina : ℤ) = e - 1 := by linarith
          have hcero : marco 0 = 0 := by
            by_contra hne
            have hle : 1 * (cfg.tamPagina : ℤ) ≤ marco 0 * cfg.tamPagina :=
              mul_le_mul_of_nonneg_right (by omega) (by omega)
            omega
          rw [hcero, zero_mul] at hprod
          exact Or.inl ⟨hk, Or.inr (Or.inr ⟨hcero, by omega⟩)⟩
        · rintro (⟨-, hzero | hle | ⟨hcero, hultimo⟩⟩ | ⟨hlt', -⟩)
          · exact absurd hzero hk0
          · omega
          · rw [hcero, zero_mul]
            omega
          · exact absurd hk (Nat.not_le_of_lt hlt')
    · have hk0 : k ≠ 0 := Nat.ne_zero_of_lt (Nat.lt_of_not_le hk)
      have hv := (h.marcoValido _ (Nat.lt_of_not_le hk)).1
      have hnonneg : 0 ≤ marco (l / cfg.tamPagina) * (cfg.tamPagina : ℤ) :=
        mul_nonneg hv (by omega)
      rw [if_neg hk]
      by_cases hle : cfg.tamPagina ≤ e
      · rw [if_pos (Or.inr hle)]
        refine iff_of_false (by omega) ?_
        rintro (⟨hk', -⟩ | ⟨-, hlt, -⟩)
        · exact hk hk'
        · omega
      · rw [if_neg (by tauto), direccion_previa_iff ht he (by omega) (Nat.lt_of_not_le hle)]
        constructor
        · rintro ⟨hdvd, hmarco⟩
          exact Or.inr ⟨Nat.lt_of_not_le hk, by omega, hdvd, hmarco⟩
        · rintro (⟨hk', -⟩ | ⟨-, -, hdvd, hmarco⟩)
          · exact absurd hk' hk
          · exact ⟨hdvd, hmarco⟩

/-- A table with one entry, for page 0, maps nothing else. -/
theorem mapea_una_iff {cant marco₀ pagina marco : ℤ}
    (htabla : Dictionary.get m.registroTablaDePaginas pid = some ⟨cant, [(0, marco₀)]⟩) :
    Mapea m pid pagina marco ↔ pagina = 0 ∧ marco₀ = marco := by
  rw [Mapea, duenio_of_get htabla]
  show Dictionary.get [((0 : ℤ), marco₀)] pagina = some marco ↔ _
  rw [Dictionary.get_cons, Dictionary.get_nil]
  split_ifs with h0
  · rw [Option.some_inj]
    exact ⟨fun h => ⟨h0, h⟩, fun h => h.2⟩
  · exact iff_of_false (by simp) fun h => h0 h.1

theorem paginasMapeadas_una {cant marco₀ : ℤ}
    (htabla : Dictionary.get m.registroTablaDePaginas pid = some ⟨cant, [(0, marco₀)]⟩)
    (hv : MarcoValido cfg marco₀) : PaginasMapeadas cfg m pid 1 fun _ => marco₀ where
  mapea p hp := (mapea_una_iff htabla).2 ⟨by omega, rfl⟩
  marcoValido p _ := hv
  ninguna pagina hp marco hmap := by
    have h0 := ((mapea_una_iff htabla).1 hmap).1
    omega

/-- Two processes with one page each. -/
def dosProcesos : List Operacion :=
  [.guardar 1, .redimensionar 1 16, .guardar 2, .redimensionar 2 16]

/-- The registers with a value in EAX. -/
def registrosEax (valor : UInt32) : Registros := ⟨0, 0, 0, 0, 0, valor, 0, 0, 0, 0, 0⟩

/-- The address 5 of the second process is translated into its frame. -/
theorem traduccion_correcta_cinco :
    ∃ m, run (paso cfgCuatroMarcos) (generarEspacioMemoria fun _ => 0) dosProcesos = some m ∧
      TraduccionCorrecta ⟨0, "FIFO".toList⟩ cfgCuatroMarcos m [] 2 1 (fun _ => 1) (registrosEax 5)
        "EAX".toList 5 :=
  ⟨_, rfl, (traduccion_correcta_iff ⟨0, "FIFO".toList⟩ rfl cfgCuatroMarcos _ [] 2 1 (fun _ => 1)
    (paginasMapeadas_una rfl ⟨by decide, by decide⟩) (registrosEax 5) .EAX "EAX".toList
    (by decide)).2 (Or.inl (by decide))⟩

/-- **The last address is in the frame of another process.**  The second process translates
`2 ^ 32 - 1`, which is in no page of its own, to the last byte of the frame of the first. -/
theorem traduccion_incorrecta_ultima :
    ∃ m, run (paso cfgCuatroMarcos) (generarEspacioMemoria fun _ => 0) dosProcesos = some m ∧
      PaginasMapeadas cfgCuatroMarcos m 2 1 (fun _ => 1) ∧ Mapea m 1 0 0 ∧
      obtenerDireccionFisica ⟨0, "FIFO".toList⟩ cfgCuatroMarcos.tamPagina (obtenerMarco m 2) []
        (obtenerValor (registrosEax (2 ^ 32 - 1)) "EAX".toList) 2 = some (15, []) ∧
      ¬ TraduccionCorrecta ⟨0, "FIFO".toList⟩ cfgCuatroMarcos m [] 2 1 (fun _ => 1)
        (registrosEax (2 ^ 32 - 1)) "EAX".toList (2 ^ 32 - 1) := by
  refine ⟨_, rfl, paginasMapeadas_una rfl ⟨by decide, by decide⟩, rfl, rfl, ?_⟩
  rintro ⟨direccion, heq, -, hmarco⟩
  have hdir : 15 = direccion := (Prod.mk.inj (Option.some.inj heq)).1
  rw [← hdir] at hmarco
  exact absurd (hmarco (by decide)).1 (by decide)

end SimuladorSO.Cpu
