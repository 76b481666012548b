import SimuladorSO.Memoria.Recorridos

/-!
# What a write does

`escribir_memoria` from the translation of a logical address.  In the first pages of a process it
has the effect that it is meant to have.  What it reports is decided by two checks: the one of the
limit looks only at the physical address of the first byte, and the walk finds a page without a
frame after it has written the pages before it.

* `PrimerasPaginas.escribirMemoria_eq`: the write of a range that may go on after the first pages;
* `escribirMemoria_efecto`: what is written, and that nothing else changes;
* `escribirMemoria_rechaza_iff`: when the report is right and a rejected write changes nothing.
-/

namespace SimuladorSO.Memoria

open CInt Dictionary Views

variable {cfg : MemoriaConfiguracion} {m : Estado} {pid k l n : ℤ}

/-! ### The write of a range -/

/-- The page of an address is before the page `k` when the address is before its first byte. -/
theorem ediv_lt_iff (cfg : MemoriaConfiguracion) (a k : ℤ) :
    a / cfg.tamPagina < k ↔ a < k * cfg.tamPagina :=
  Int.ediv_lt_iff_lt_mul (tamPagina_pos_int cfg)

/-- The walk from the translation of an address of the first pages. -/
theorem PrimerasPaginas.alcanza (hp : PrimerasPaginas cfg m pid k) (hl : 0 ≤ l)
    (hlk : l / cfg.tamPagina < k) (hn : 0 ≤ n) :
    Alcanza cfg m pid l (Recorrido.inicial cfg (direccionFisica cfg m pid l) n) := by
  have ht := tamPagina_pos_int cfg
  have hmod := Int.emod_nonneg l ht.ne'
  have hlt := Int.emod_lt_of_pos l ht
  have hpag := Int.ediv_nonneg hl ht.le
  have hm0 := (hp.mapeadas _ hpag hlk).1
  have hdir0 : 0 ≤ direccionFisica cfg m pid l := add_nonneg (mul_nonneg hm0 ht.le) hmod
  refine ⟨hn, fun _ => ?_, fun _ => ?_⟩
  · show (direccionFisica cfg m pid l).tdiv cfg.tamPagina = _
    rw [Int.tdiv_eq_ediv_of_nonneg hdir0, direccionFisica, add_comm,
      Int.add_mul_ediv_right _ _ ht.ne', Int.ediv_eq_zero_of_lt hmod hlt, zero_add]
  · show (direccionFisica cfg m pid l).tmod cfg.tamPagina = _
    rw [Int.tmod_eq_emod_of_nonneg hdir0, direccionFisica, add_comm, Int.add_mul_emod_self_right,
      Int.emod_eq_of_lt hmod hlt]

/-- A write whose range has its first `w` bytes in the first pages, and goes on after them only into
a page without a frame. -/
theorem PrimerasPaginas.escribirMemoria_eq (hp : PrimerasPaginas cfg m pid k) (info : List UInt8)
    (h : Alcanza cfg m pid l (Recorrido.inicial cfg (direccionFisica cfg m pid l) n)) {w : ℤ}
    (hw0 : 0 ≤ w) (hw : w ≤ n)
    (hdentro : ∀ i, 0 ≤ i → i < w → 0 ≤ l + i ∧ (l + i) / cfg.tamPagina < k)
    (hfin : w < n → obtenerMarco m pid ((l + w) / cfg.tamPagina) = -1) :
    ∃ espacio', escribirMemoria cfg m (direccionFisica cfg m pid l) info n pid =
        some ({ m with espacioMemoria := espacio' },
          verificarLimiteMemoria cfg (direccionFisica cfg m pid l) n ++
            [.mensaje (if decide (w < n) then "OUT_OF_MEMORY" else "OK")]) ∧
      Written (lugar cfg m) (rango pid l w) (fun k => info.getD (k.2 - l).toNat 0)
        m.espacioMemoria espacio' := by
  obtain ⟨espacio', hrecorrer, hescrito⟩ := hp.escribir (fun k => info.getD k.toNat 0)
    m.espacioMemoria h (Nat.lt_succ_self n.toNat) hw0 hw hdentro hfin
  refine ⟨espacio', ?_, hescrito.congr fun k _ => ?_⟩
  · unfold escribirMemoria combustible
    rw [hrecorrer]
    rfl
  · show info.getD (0 + (k.2 - l)).toNat 0 = _
    rw [zero_add]

/-- The place of an address of the first pages. -/
theorem PrimerasPaginas.lugar_eq (hp : PrimerasPaginas cfg m pid k) {a : ℤ} (ha : 0 ≤ a)
    (hak : a / cfg.tamPagina < k) : lugar cfg m (pid, a) = some (direccionFisica cfg m pid a) :=
  lugar_eq_direccionFisica (hp.mapea (Int.ediv_nonneg ha (tamPagina_pos_int cfg).le) hak)

/-- What a write to the first pages leaves in the memory, byte by byte. -/
theorem PrimerasPaginas.written (hp : PrimerasPaginas cfg m pid k) (val : ℤ → UInt8) {w : ℤ}
    (hdentro : ∀ i, 0 ≤ i → i < w → 0 ≤ l + i ∧ (l + i) / cfg.tamPagina < k)
    {espacio espacio' : ℤ → UInt8}
    (h : Written (lugar cfg m) (rango pid l w) (fun k => val (k.2 - l)) espacio espacio') :
    (∀ i, 0 ≤ i → i < w → espacio' (direccionFisica cfg m pid (l + i)) = val i) ∧
      ∀ x, (∀ i, 0 ≤ i → i < w → x ≠ direccionFisica cfg m pid (l + i)) →
        espacio' x = espacio x := by
  constructor
  · intro i h0 hi
    obtain ⟨ha, hak⟩ := hdentro i h0 hi
    rw [h.inside (pid, l + i) ⟨rfl, by dsimp only; omega, by dsimp only; omega⟩ _
      (hp.lugar_eq ha hak), add_sub_cancel_left]
  · intro x hx
    refine h.outside x ?_
    rintro ⟨_, a⟩ ⟨rfl, h1, h2⟩ hlugar
    dsimp only at h1 h2
    obtain ⟨ha, hak⟩ := hdentro (a - l) (by omega) (by omega)
    refine hx (a - l) (by omega) (by omega) ?_
    rw [add_sub_cancel] at ha hak ⊢
    rw [hp.lugar_eq ha hak] at hlugar
    exact (Option.some.inj hlugar).symm

/-! ### The effect -/

/-- **What a write does.**  From the physical address of `l`, with the data inside the first `k`
pages, `escribir_memoria` comes back with byte `i` of the data in the frame of its page, at its
offset, and nothing else is changed. -/
theorem escribirMemoria_efecto (cfg : MemoriaConfiguracion) (m : Estado) (pid k l : ℤ)
    (info : List UInt8) (hp : PrimerasPaginas cfg m pid k) (hl : 0 ≤ l)
    (hlk : l + info.length ≤ k * cfg.tamPagina) :
    ∃ espacio' envios,
      escribirMemoria cfg m (direccionFisica cfg m pid l) info info.length pid =
        some ({ m with espacioMemoria := espacio' }, envios) ∧
      (∀ (i : ℕ) (hi : i < info.length),
        espacio' (obtenerMarco m pid ((l + i) / cfg.tamPagina) * cfg.tamPagina +
          (l + i) % cfg.tamPagina) = info[i]) ∧
      ∀ x, (∀ i : ℕ, i < info.length →
          x ≠ obtenerMarco m pid ((l + i) / cfg.tamPagina) * cfg.tamPagina +
            (l + i) % cfg.tamPagina) →
        espacio' x = m.espacioMemoria x := by
  have hdentro : ∀ i, 0 ≤ i → i < (info.length : ℤ) → 0 ≤ l + i ∧ (l + i) / cfg.tamPagina < k :=
    fun i h0 hi => ⟨by omega, (ediv_lt_iff cfg _ _).2 (by omega)⟩
  have halcanza : Alcanza cfg m pid l
      (Recorrido.inicial cfg (direccionFisica cfg m pid l) info.length) := by
    rcases Nat.eq_zero_or_pos info.length with hcero | hpos
    · rw [hcero]
      exact ⟨le_rfl, fun h => absurd h (lt_irrefl _), fun h => absurd h (lt_irrefl _)⟩
    · exact hp.alcanza hl ((ediv_lt_iff cfg _ _).2 (by omega)) (Nat.cast_nonneg _)
  obtain ⟨espacio', hescribir, hescrito⟩ := hp.escribirMemoria_eq info halcanza
    (Nat.cast_nonneg _) le_rfl hdentro (fun h => absurd h (lt_irrefl _))
  obtain ⟨hbytes, hresto⟩ := hp.written (fun i => info.getD i.toNat 0) hdentro hescrito
  refine ⟨espacio', _, hescribir, fun i hi => ?_, fun x hx => hresto x fun i h0 hi => ?_⟩
  · have hbyte := hbytes i (Nat.cast_nonneg i) (by exact_mod_cast hi)
    rw [Int.toNat_natCast, List.getD_eq_getElem?_getD, List.getElem?_eq_getElem hi,
      Option.getD_some] at hbyte
    exact hbyte
  · obtain ⟨j, rfl⟩ := Int.eq_ofNat_of_zero_le h0
    exact hx j (by exact_mod_cast hi)

/-- A process with two pages, the second one in the first frame. -/
def dosPaginas : Estado :=
  ⟨fun _ => 0, [(1, ⟨2, [(0, 3), (1, 0)]⟩)], fun marco => marco = 0 ∨ marco = 3, []⟩

theorem dosPaginas_primeras : PrimerasPaginas cfgCuatroMarcos dosPaginas 1 2 := by
  refine ⟨fun p h0 hp => ?_, fun p q h0 hpq hq => ?_, fun tabla htabla => ?_⟩
  · interval_cases p
    · exact ⟨by decide, by decide⟩
    · exact ⟨by decide, by decide⟩
  · obtain rfl : p = 0 := by omega
    obtain rfl : q = 1 := by omega
    decide
  · cases htabla
    exact le_rfl

/-- Four bytes across the boundary of the pages: two at the end of the last frame and two at the
start of the first. -/
theorem escribirMemoria_efecto_cuatro :
    ∃ espacio' envios,
      escribirMemoria cfgCuatroMarcos dosPaginas
          (direccionFisica cfgCuatroMarcos dosPaginas 1 14) [1, 2, 3, 4] 4 1 =
        some ({ dosPaginas with espacioMemoria := espacio' }, envios) ∧
      (espacio' 62, espacio' 63, espacio' 0, espacio' 1) = (1, 2, 3, 4) := by
  obtain ⟨espacio', envios, hescribir, hbytes, -⟩ := escribirMemoria_efecto cfgCuatroMarcos
    dosPaginas 1 2 14 [1, 2, 3, 4] dosPaginas_primeras (by decide) (by decide)
  exact ⟨espacio', envios, hescribir, Prod.ext (hbytes 0 (by decide))
    (Prod.ext (hbytes 1 (by decide)) (Prod.ext (hbytes 2 (by decide)) (hbytes 3 (by decide))))⟩

/-! ### The report -/

/-- The write from the logical address `l` comes back, it reports `OUT_OF_MEMORY` exactly when a byte
of the range is in a page from `k` on, and then it has changed no byte. -/
def RechazaBien (cfg : MemoriaConfiguracion) (m : Estado) (pid k l : ℤ) (info : List UInt8)
    (n : ℤ) : Prop :=
  ∃ m' envios, escribirMemoria cfg m (direccionFisica cfg m pid l) info n pid = some (m', envios) ∧
    (.mensaje "OUT_OF_MEMORY" ∈ envios ↔ ∃ i, 0 ≤ i ∧ i < n ∧ k ≤ (l + i) / cfg.tamPagina) ∧
    (.mensaje "OUT_OF_MEMORY" ∈ envios → m'.espacioMemoria = m.espacioMemoria)

/-- What a write reports: the limit check and the walk have their say. -/
theorem reporta_iff (cfg : MemoriaConfiguracion) (direccionFisica tamanio : ℤ) (huboError : Bool) :
    .mensaje "OUT_OF_MEMORY" ∈ verificarLimiteMemoria cfg direccionFisica tamanio ++
        [.mensaje (if huboError then "OUT_OF_MEMORY" else "OK")] ↔
      ¬ DentroDelLimite cfg direccionFisica tamanio ∨ huboError = true := by
  rcases verificarLimiteMemoria_cases cfg direccionFisica tamanio with ⟨h, heq⟩ | ⟨h, heq⟩
  · rw [heq]
    cases huboError <;> simp [h]
  · rw [heq]
    exact iff_of_true (List.mem_append_left _ List.mem_cons_self) (Or.inl h)

/-- **When a write is rejected as it should.**  For a process whose mapped pages are `0, …, k - 1`,
with frames of their own, and a start in one of them, the report is right and a rejected write
changes nothing exactly when either the range is inside the pages and its physical start is far
enough from the end of the memory, or the range leaves the pages and the data for the mapped ones
are the bytes that they hold. -/
theorem escribirMemoria_rechaza_iff (cfg : MemoriaConfiguracion) (m : Estado) (pid k l n : ℤ)
    (info : List UInt8) (hp : PrimerasPaginas cfg m pid k)
    (hsin : ∀ p, k ≤ p → obtenerMarco m pid p = -1) (hl : 0 ≤ l) (hlk : l / cfg.tamPagina < k)
    (hn : 0 ≤ n) :
    RechazaBien cfg m pid k l info n ↔
      (l + n ≤ k * cfg.tamPagina ∧ DentroDelLimite cfg (direccionFisica cfg m pid l) n) ∨
      (k * cfg.tamPagina < l + n ∧ ∀ i, 0 ≤ i → l + i < k * cfg.tamPagina →
        m.espacioMemoria (direccionFisica cfg m pid (l + i)) = info.getD i.toNat 0) := by
  have halcanza := hp.alcanza hl hlk hn
  have hsale : (∃ i, 0 ≤ i ∧ i < n ∧ k ≤ (l + i) / cfg.tamPagina) ↔
      k * cfg.tamPagina < l + n := by
    have hl' := (ediv_lt_iff cfg _ _).1 hlk
    constructor
    · rintro ⟨i, -, hi, hk⟩
      have hk' := not_lt.1 (mt (ediv_lt_iff cfg _ _).2 (not_lt.2 hk))
      omega
    · intro hlt
      exact ⟨k * cfg.tamPagina - l, by omega, by omega,
        not_lt.1 (mt (ediv_lt_iff cfg _ _).1 (by omega))⟩
  unfold RechazaBien
  rw [hsale]
  by_cases hcabe : l + n ≤ k * cfg.tamPagina
  · -- the whole range is written
    obtain ⟨espacio', hescribir, -⟩ := hp.escribirMemoria_eq info halcanza hn le_rfl
      (fun i h0 hi => ⟨by omega, (ediv_lt_iff cfg _ _).2 (by omega)⟩)
      (fun h => absurd h (lt_irrefl _))
    rw [hescribir]
    simp only [Option.some.injEq, Prod.mk.injEq, exists_eq_left', exists_and_left, reporta_iff,
      and_assoc]
    simp only [lt_irrefl, decide_false, Bool.false_eq_true, or_false, hcabe, not_lt.2 hcabe,
      iff_false, not_not, true_and, false_and]
    exact ⟨fun h => h.1, fun h => ⟨h, fun hno => absurd h hno⟩⟩
  · -- the pages are written up to their end
    have hlt : k * cfg.tamPagina - l < n := by omega
    have hl' := (ediv_lt_iff cfg _ _).1 hlk
    have hdentro : ∀ i, 0 ≤ i → i < k * cfg.tamPagina - l →
        0 ≤ l + i ∧ (l + i) / cfg.tamPagina < k :=
      fun i h0 hi => ⟨by omega, (ediv_lt_iff cfg _ _).2 (by omega)⟩
    obtain ⟨espacio', hescribir, hescrito⟩ := hp.escribirMemoria_eq info halcanza
      (w := k * cfg.tamPagina - l) (by omega) (by omega) hdentro
      (fun _ => hsin _ (not_lt.1 (mt (ediv_lt_iff cfg _ _).1 (by omega))))
    obtain ⟨hbytes, hresto⟩ := hp.written (fun i => info.getD i.toNat 0) hdentro hescrito
    rw [hescribir]
    simp only [Option.some.injEq, Prod.mk.injEq, exists_eq_left', exists_and_left, reporta_iff,
      and_assoc]
    simp only [decide_eq_true hlt, or_true, not_le.1 hcabe, hcabe, true_and, false_and, false_or,
      forall_const]
    constructor
    · intro hesp i h0 hi
      rw [← hbytes i h0 (by omega), hesp]
    · intro hdatos
      funext x
      by_cases hx : ∃ i, 0 ≤ i ∧ i < k * cfg.tamPagina - l ∧ x = direccionFisica cfg m pid (l + i)
      · obtain ⟨i, h0, hi, rfl⟩ := hx
        rw [hbytes i h0 hi, hdatos i h0 (by omega)]
      · exact hresto x fun i h0 hi heq => hx ⟨i, h0, hi, heq⟩

theorem dosPaginas_sin_mas (p : ℤ) (hp : 2 ≤ p) : obtenerMarco dosPaginas 1 p = -1 := by
  have hget : get [((0 : ℤ), (3 : ℤ)), (1, 0)] p = none := by
    rw [get_cons, if_neg (by omega), get_cons, if_neg (by omega), get_nil]
  show (get [((0 : ℤ), (3 : ℤ)), (1, 0)] p).getD (-1) = -1
  rw [hget]
  rfl

/-- A write in the page of the first frame, far from the end of the memory. -/
theorem escribirMemoria_rechaza_bien :
    RechazaBien cfgCuatroMarcos dosPaginas 1 2 16 [1, 2, 3, 4] 4 :=
  (escribirMemoria_rechaza_iff cfgCuatroMarcos dosPaginas 1 2 16 4 [1, 2, 3, 4]
    dosPaginas_primeras dosPaginas_sin_mas (by decide) (by decide) (by decide)).2
    (Or.inl ⟨by decide, show int32 _ ≤ _ by decide⟩)

/-- **A write is rejected and done.**  Twenty bytes from the address 0, which is mapped to the last
frame, are reported as `OUT_OF_MEMORY` although all of them are in mapped pages; and two bytes from
the last address of the pages are reported so after the first of them was written. -/
theorem escribirMemoria_rechaza_mal :
    ¬ RechazaBien cfgCuatroMarcos dosPaginas 1 2 0 (List.replicate 20 1) 20 ∧
      ¬ RechazaBien cfgCuatroMarcos dosPaginas 1 2 31 [1, 2] 2 := by
  constructor
  · rintro ⟨m', envios, hescribir, hreporta, -⟩
    have henvios : (escribirMemoria cfgCuatroMarcos dosPaginas
        (direccionFisica cfgCuatroMarcos dosPaginas 1 0) (List.replicate 20 1) 20
          1).map Prod.snd = some [.mensaje "OUT_OF_MEMORY", .mensaje "OK"] := by decide
    rw [hescribir] at henvios
    have hmal : envios = _ := Option.some.inj henvios
    obtain ⟨i, h0, hi, hk⟩ := hreporta.1 (by
      rw [hmal]
      exact List.mem_cons_self)
    have hdiv : i / 16 < 2 := by omega
    rw [zero_add] at hk
    exact absurd hk (not_le.2 hdiv)
  · rintro ⟨m', envios, hescribir, hreporta, hespacio⟩
    have hbyte : (escribirMemoria cfgCuatroMarcos dosPaginas
        (direccionFisica cfgCuatroMarcos dosPaginas 1 31) [1, 2] 2 1).map
          (fun r => r.1.espacioMemoria 15) = some 1 := by decide
    rw [hescribir] at hbyte
    have hmal := Option.some.inj hbyte
    dsimp only at hmal
    rw [hespacio (hreporta.2 ⟨1, by decide, by decide, by decide⟩)] at hmal
    exact absurd hmal (by decide)

end SimuladorSO.Memoria
