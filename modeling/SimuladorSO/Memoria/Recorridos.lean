import SimuladorSO.Library.Views
import SimuladorSO.Memoria.Textos

/-!
# The walks over the pages of a process

A byte of a process is held at its offset in the frame of its page (`lugar`).  The loops of
`escribir_memoria` and `leer_memoria` start from a physical address and find the next page by
searching the table for the frame; from the translation of a logical address they visit the bytes of
the logical range one after another.

* `Paginado`, `ProcesoPaginado`, `PrimerasPaginas`: the page tables that the search relies on, of
  all processes, of one, and of its first pages only;
* `Alcanza.avanzar`: one iteration of a walk at a logical address;
* `PrimerasPaginas.escribir`, `Situado.leer`: what the two loops do.
-/

namespace SimuladorSO.Memoria

open CInt Dictionary Loops Allocation Views

variable (cfg : MemoriaConfiguracion)

/-- The frames are exclusive, and the pages of a process are those its counter says. -/
structure Paginado (m : Estado) : Prop where
  exclusivos : MarcosExclusivos cfg m
  contadores : ContadoresEnRango m
  exactas : CuentasExactas m

/-- The pages of the process are those its counter says, each with a frame of its own. -/
structure ProcesoPaginado (m : Estado) (pid : ℤ) : Prop where
  valido : ∀ pagina marco, Mapea m pid pagina marco → MarcoValido cfg marco
  inyectivo : ∀ p q marco, Mapea m pid p marco → Mapea m pid q marco → p = q
  paginas : ∀ tabla, get m.registroTablaDePaginas pid = some tabla → ∀ pagina,
    (get tabla.frameSegunPagina pagina).isSome = true ↔ 0 ≤ pagina ∧ pagina < tabla.cantPaginas

/-- The first `k` pages of the process, which its counter covers, each have a frame of their own. -/
structure PrimerasPaginas (m : Estado) (pid k : ℤ) : Prop where
  mapeadas : ∀ p, 0 ≤ p → p < k → MarcoValido cfg (obtenerMarco m pid p)
  distintos : ∀ p q, 0 ≤ p → p < q → q < k → obtenerMarco m pid p ≠ obtenerMarco m pid q
  contadas : ∀ tabla, get m.registroTablaDePaginas pid = some tabla → k ≤ tabla.cantPaginas

/-- Where the byte of a process at a logical address is held. -/
def lugar (m : Estado) (k : ℤ × ℤ) : Option ℤ :=
  (duenio m.registroTablaDePaginas (k.1, k.2 / cfg.tamPagina)).map fun marco =>
    marco * cfg.tamPagina + k.2 % cfg.tamPagina

/-- The translation of a logical address: `-1` in the place of the frame without a page. -/
def direccionFisica (m : Estado) (pid l : ℤ) : ℤ :=
  obtenerMarco m pid (l / cfg.tamPagina) * cfg.tamPagina + l % cfg.tamPagina

/-- The addresses of a process from `l` on, `n` of them. -/
def rango (pid l n : ℤ) : Set (ℤ × ℤ) := {k | k.1 = pid ∧ l ≤ k.2 ∧ k.2 < l + n}

instance (pid l n : ℤ) : DecidablePred (· ∈ rango pid l n) := fun k =>
  inferInstanceAs (Decidable (k.1 = pid ∧ l ≤ k.2 ∧ k.2 < l + n))

/-- The logical range is inside the mapped pages of the process. -/
def EnPaginas (m : Estado) (pid l n : ℤ) : Prop :=
  0 ≤ l ∧ 0 ≤ n ∧
    ∀ i : ℕ, i < max 1 n.toNat → obtenerMarco m pid ((l + i) / cfg.tamPagina) ≠ -1

instance (m : Estado) (pid l n : ℤ) : Decidable (EnPaginas cfg m pid l n) :=
  inferInstanceAs (Decidable (_ ∧ _ ∧ _))

/-- The variables of a walk at the logical address `a`: the frame is the answer for its page. -/
structure Alcanza (m : Estado) (pid a : ℤ) (r : Recorrido) : Prop where
  tamanio : 0 ≤ r.tamanio
  marco : 0 < r.tamanio → r.marco = obtenerMarco m pid (a / cfg.tamPagina)
  desplazamiento : 0 < r.tamanio → r.desplazamiento = a % cfg.tamPagina

/-- The variables of a walk at the logical address `a` of a mapped page. -/
structure Apunta (m : Estado) (pid a : ℤ) (r : Recorrido) : Prop where
  tamanio : 0 ≤ r.tamanio
  marco : 0 < r.tamanio → Mapea m pid (a / cfg.tamPagina) r.marco
  desplazamiento : 0 < r.tamanio → r.desplazamiento = a % cfg.tamPagina

/-- The variables of a walk at the logical address `a`, with all its bytes in mapped pages. -/
structure Situado (m : Estado) (pid a : ℤ) (r : Recorrido) : Prop extends
    Apunta cfg m pid a r where
  mapeado : ∀ i, 0 ≤ i → i < r.tamanio → ∃ marco, Mapea m pid ((a + i) / cfg.tamPagina) marco

variable {cfg} {m : Estado} {pid a : ℤ} {r : Recorrido}

theorem lugar_of_mapea {marco : ℤ} (h : Mapea m pid (a / cfg.tamPagina) marco) :
    lugar cfg m (pid, a) = some (marco * cfg.tamPagina + a % cfg.tamPagina) := by
  unfold lugar
  rw [show duenio m.registroTablaDePaginas ((pid, a).1, (pid, a).2 / cfg.tamPagina) = some marco
    from h]
  rfl

theorem lugar_eq_direccionFisica {marco : ℤ} (h : Mapea m pid (a / cfg.tamPagina) marco) :
    lugar cfg m (pid, a) = some (direccionFisica cfg m pid a) := by
  rw [lugar_of_mapea h, direccionFisica, obtenerMarco_of_mapea h]

theorem Paginado.proceso (h : Paginado cfg m) (pid : ℤ) : ProcesoPaginado cfg m pid where
  valido pagina marco hmap := h.exclusivos.valid_of_owner (pid, pagina) marco hmap
  inyectivo p q marco hp hq := (Prod.mk.inj (h.exclusivos.inj (pid, p) (pid, q) marco hp hq)).2
  paginas tabla htabla := h.exactas.paginas pid tabla htabla

/-- A place is in the frame of a page, at the offset of the address. -/
theorem lugar_eq_some {pid' a' x : ℤ} (hk : lugar cfg m (pid, a) = some x)
    (hk' : lugar cfg m (pid', a') = some x) :
    ∃ marco, Mapea m pid (a / cfg.tamPagina) marco ∧ Mapea m pid' (a' / cfg.tamPagina) marco ∧
      a % cfg.tamPagina = a' % cfg.tamPagina := by
  obtain ⟨marco, hmap, hx⟩ := Option.map_eq_some_iff.1 hk
  obtain ⟨marco', hmap', hx'⟩ := Option.map_eq_some_iff.1 hk'
  have hpos := tamPagina_pos_int cfg
  dsimp only at hmap hmap' hx hx'
  have hmarco : ∀ mr b : ℤ, (mr * cfg.tamPagina + b % cfg.tamPagina) / cfg.tamPagina = mr := by
    intro mr b
    rw [add_comm, Int.add_mul_ediv_right _ _ hpos.ne',
      Int.ediv_eq_zero_of_lt (Int.emod_nonneg b hpos.ne') (Int.emod_lt_of_pos b hpos), zero_add]
  have hmarcos : marco = marco' := by
    rw [← hmarco marco a, ← hmarco marco' a', hx, hx']
  refine ⟨marco, hmap, hmarcos ▸ hmap', ?_⟩
  rw [hmarcos, ← hx'] at hx
  exact add_left_cancel hx

/-- Two bytes are not held in the same place. -/
theorem lugar_injective (h : MarcosExclusivos cfg m) : Injective (lugar cfg m) := by
  rintro ⟨pid, a⟩ ⟨pid', a'⟩ x hk hk'
  obtain ⟨marco, hmap, hmap', hoff⟩ := lugar_eq_some hk hk'
  obtain ⟨hpid, hpagina⟩ := Prod.mk.inj (h.inj _ _ marco hmap hmap')
  rw [hpid, ← Int.mul_ediv_add_emod a cfg.tamPagina, hpagina, hoff, Int.mul_ediv_add_emod]

/-- Two bytes of one process are not held in the same place. -/
theorem ProcesoPaginado.lugar_inj (h : ProcesoPaginado cfg m pid) {a' x : ℤ}
    (hk : lugar cfg m (pid, a) = some x) (hk' : lugar cfg m (pid, a') = some x) : a = a' := by
  obtain ⟨marco, hmap, hmap', hoff⟩ := lugar_eq_some hk hk'
  rw [← Int.mul_ediv_add_emod a cfg.tamPagina, h.inyectivo _ _ marco hmap hmap', hoff,
    Int.mul_ediv_add_emod]

/-! ### The search for the next frame -/

/-- The search answers the page of the frame when the pages before it have other frames. -/
theorem buscarPaginaMarcoDesde_eq {tabla : TablaDePaginas} {marco i p : ℤ} {n : ℕ}
    (hprev : ∀ q, i ≤ q → q < p → ∃ otro, get tabla.frameSegunPagina q = some otro ∧ marco ≠ otro)
    (hp : get tabla.frameSegunPagina p = some marco) (hip : i ≤ p) (hpn : p < i + n) :
    buscarPaginaMarcoDesde tabla marco i n = some p := by
  induction n generalizing i with
  | zero => simp at hpn; omega
  | succ n ih =>
    unfold buscarPaginaMarcoDesde
    rcases eq_or_lt_of_le hip with rfl | hlt
    · rw [hp]
      exact if_pos rfl
    · obtain ⟨otro, hotro, hne⟩ := hprev i le_rfl hlt
      rw [hotro]
      refine (if_neg hne).trans (ih (fun q hq => hprev q (by omega)) (by omega) ?_)
      push_cast at hpn
      omega

/-- A page of the first ones is mapped. -/
theorem PrimerasPaginas.mapea {k p : ℤ} (h : PrimerasPaginas cfg m pid k) (h0 : 0 ≤ p)
    (hp : p < k) : Mapea m pid p (obtenerMarco m pid p) := by
  rcases obtenerMarco_cases m pid p with hnone | hmap
  · have hv := (h.mapeadas p h0 hp).1
    omega
  · exact hmap

/-- From the frame of one of the first pages the search leads to the next page. -/
theorem PrimerasPaginas.obtenerSiguienteMarco_eq {k p : ℤ} (h : PrimerasPaginas cfg m pid k)
    (h0 : 0 ≤ p) (hp : p < k) :
    obtenerSiguienteMarco m pid (obtenerMarco m pid p) = some (obtenerMarco m pid (p + 1)) := by
  have hmap := h.mapea h0 hp
  unfold Mapea duenio at hmap
  obtain ⟨tabla, htabla, hframe⟩ := Option.bind_eq_some_iff.1 hmap
  have hcont := h.contadas tabla htabla
  have hbuscar : buscarPaginaMarco tabla (obtenerMarco m pid p) = some p := by
    refine buscarPaginaMarcoDesde_eq (fun q hq hqp => ?_) hframe h0 (by omega)
    exact ⟨_, (Mapea.iff_get htabla).1 (h.mapea hq (by omega)), (h.distintos q p hq hqp hp).symm⟩
  unfold obtenerSiguienteMarco
  rw [htabla]
  dsimp only
  rw [hbuscar, Option.map_some]

/-- The pages that the counter says are first pages. -/
theorem ProcesoPaginado.primeras (h : ProcesoPaginado cfg m pid) {tabla : TablaDePaginas}
    (htabla : get m.registroTablaDePaginas pid = some tabla) :
    PrimerasPaginas cfg m pid tabla.cantPaginas := by
  have hmap : ∀ p, 0 ≤ p → p < tabla.cantPaginas → Mapea m pid p (obtenerMarco m pid p) := by
    intro p h0 hp
    obtain ⟨marco, hmarco⟩ := Option.isSome_iff_exists.1 ((h.paginas tabla htabla p).2 ⟨h0, hp⟩)
    have hmap := (Mapea.iff_get htabla).2 hmarco
    rwa [obtenerMarco_of_mapea hmap]
  refine ⟨fun p h0 hp => h.valido p _ (hmap p h0 hp), fun p q h0 hpq hq heq => ?_,
    fun tabla' htabla' => ?_⟩
  · have hp := hmap p h0 (by omega)
    rw [heq] at hp
    exact absurd (h.inyectivo p q _ hp (hmap q (by omega) hq)) hpq.ne
  · rw [htabla] at htabla'
    exact (congrArg TablaDePaginas.cantPaginas (Option.some.inj htabla')).le

/-- From the frame of a page the search leads to the next page. -/
theorem ProcesoPaginado.obtenerSiguienteMarco_eq (h : ProcesoPaginado cfg m pid)
    {pagina marco : ℤ} (hmap : Mapea m pid pagina marco) :
    obtenerSiguienteMarco m pid marco = some (obtenerMarco m pid (pagina + 1)) := by
  obtain ⟨tabla, htabla, hframe⟩ := Option.bind_eq_some_iff.1 hmap
  have hpag := (h.paginas tabla htabla pagina).1 (by rw [hframe]; rfl)
  rw [← obtenerMarco_of_mapea hmap]
  exact (h.primeras htabla).obtenerSiguienteMarco_eq hpag.1 hpag.2

/-! ### One iteration -/

theorem Apunta.alcanza (h : Apunta cfg m pid a r) : Alcanza cfg m pid a r :=
  ⟨h.tamanio, fun hpos => (obtenerMarco_of_mapea (h.marco hpos)).symm, h.desplazamiento⟩

/-- An iteration moves the bytes of the page from the address on; if bytes remain, it leads to the
address after them. -/
theorem Alcanza.avanzar (h : Alcanza cfg m pid a r) (hpos : 0 < r.tamanio)
    (hsig : obtenerSiguienteMarco m pid r.marco =
      some (obtenerMarco m pid (a / cfg.tamPagina + 1))) :
    0 < r.bytes cfg ∧ r.bytes cfg ≤ r.tamanio ∧
    r.bytes cfg = min r.tamanio (cfg.tamPagina - a % cfg.tamPagina) ∧
    ∃ r', r.avanzar cfg m pid = some r' ∧ Alcanza cfg m pid (a + r.bytes cfg) r' ∧
      r'.tamanio = r.tamanio - r.bytes cfg ∧ r'.desplazado = r.desplazado + r.bytes cfg := by
  have ht := tamPagina_pos_int cfg
  have hbytes := bytes_eq_min cfg r
  rw [h.desplazamiento hpos] at hbytes
  have hmod := Int.emod_nonneg a ht.ne'
  have hlt := Int.emod_lt_of_pos a ht
  refine ⟨by omega, by omega, hbytes, ?_⟩
  unfold Recorrido.avanzar
  dsimp only
  by_cases hrest : r.tamanio - r.bytes cfg > 0
  · have hsiguiente : r.bytes cfg = cfg.tamPagina - a % cfg.tamPagina := by omega
    obtain ⟨hdiv, hemod⟩ := ediv_of_siguiente (a := a) ht
    rw [← hsiguiente] at hdiv hemod
    rw [if_pos hrest, hsig]
    exact ⟨_, rfl, ⟨hrest.le, fun _ => by rw [hdiv], fun _ => hemod.symm⟩, rfl, rfl⟩
  · rw [if_neg hrest]
    exact ⟨_, rfl, ⟨by dsimp only; omega, fun hp => absurd hp hrest, fun hp => absurd hp hrest⟩,
      rfl, rfl⟩

/-- The bytes that an iteration in the frame of a page moves. -/
theorem Alcanza.lugar_base (h : Alcanza cfg m pid a r) (hpos : 0 < r.tamanio)
    (hmap : Mapea m pid (a / cfg.tamPagina) r.marco) {i : ℤ} (h0 : 0 ≤ i) (hi : i < r.bytes cfg) :
    lugar cfg m (pid, a + i) = some (r.base cfg + i) := by
  have hbytes := bytes_eq_min cfg r
  rw [h.desplazamiento hpos] at hbytes
  obtain ⟨hdiv, hemod⟩ := ediv_of_tramo (a := a) (tamPagina_pos_int cfg) h0 (by omega)
  have hmap' : Mapea m pid ((a + i) / cfg.tamPagina) r.marco := by
    rw [hdiv]
    exact hmap
  rw [lugar_of_mapea hmap', hemod, Recorrido.base, h.desplazamiento hpos, add_assoc]

/-- An iteration in a mapped page. -/
theorem Apunta.avanzar (hp : ProcesoPaginado cfg m pid) (h : Apunta cfg m pid a r)
    (hpos : 0 < r.tamanio) :
    0 ≤ r.marco ∧ 0 < r.bytes cfg ∧ r.bytes cfg ≤ r.tamanio ∧
    r.bytes cfg = min r.tamanio (cfg.tamPagina - a % cfg.tamPagina) ∧
    (∀ i, 0 ≤ i → i < r.bytes cfg → lugar cfg m (pid, a + i) = some (r.base cfg + i)) ∧
    ∃ r', r.avanzar cfg m pid = some r' ∧ r'.tamanio = r.tamanio - r.bytes cfg ∧
      r'.desplazado = r.desplazado + r.bytes cfg ∧
      (0 < r'.tamanio → r'.marco = obtenerMarco m pid ((a + r.bytes cfg) / cfg.tamPagina) ∧
        r'.desplazamiento = (a + r.bytes cfg) % cfg.tamPagina) := by
  have hmarco := h.marco hpos
  obtain ⟨h0, hle, hbytes, r', hr', halcanza, htamanio, hdesplazado⟩ :=
    h.alcanza.avanzar hpos (hp.obtenerSiguienteMarco_eq hmarco)
  exact ⟨(hp.valido _ _ hmarco).1, h0, hle, hbytes,
    fun i hi0 hi => h.alcanza.lugar_base hpos hmarco hi0 hi,
    r', hr', htamanio, hdesplazado, fun hp' => ⟨halcanza.marco hp', halcanza.desplazamiento hp'⟩⟩

/-- An iteration in mapped pages. -/
theorem Situado.avanzar (hp : ProcesoPaginado cfg m pid) (h : Situado cfg m pid a r)
    (hpos : 0 < r.tamanio) :
    0 ≤ r.marco ∧ 0 < r.bytes cfg ∧ r.bytes cfg ≤ r.tamanio ∧
    r.bytes cfg = min r.tamanio (cfg.tamPagina - a % cfg.tamPagina) ∧
    (∀ i, 0 ≤ i → i < r.bytes cfg → lugar cfg m (pid, a + i) = some (r.base cfg + i)) ∧
    ∃ r', r.avanzar cfg m pid = some r' ∧ Situado cfg m pid (a + r.bytes cfg) r' ∧
      r'.tamanio = r.tamanio - r.bytes cfg ∧ r'.desplazado = r.desplazado + r.bytes cfg := by
  obtain ⟨hmarco, h0, hle, hbytes, hlugar, r', hr', htamanio, hdesplazado, hresto⟩ :=
    h.toApunta.avanzar hp hpos
  refine ⟨hmarco, h0, hle, hbytes, hlugar, r', hr', ⟨⟨by omega, fun hp' => ?_, fun hp' => ?_⟩,
    fun i hi0 hi => ?_⟩, htamanio, hdesplazado⟩
  · obtain ⟨siguiente, hsig⟩ := h.mapeado (r.bytes cfg) h0.le (by omega)
    rw [(hresto hp').1, obtenerMarco_of_mapea hsig]
    exact hsig
  · exact (hresto hp').2
  · rw [add_assoc]
    exact h.mapeado (r.bytes cfg + i) (by omega) (by omega)

/-! ### The loops -/

/-- The range is what the iteration moves and what remains. -/
theorem rango_union (pid a : ℤ) {b n : ℤ} (h0 : 0 ≤ b) (hb : b ≤ n) :
    rango pid a b ∪ rango pid (a + b) (n - b) = rango pid a n := by
  ext ⟨pid', a'⟩
  simp only [rango, Set.mem_union, Set.mem_ofPred_eq]
  constructor
  · rintro (⟨hpid, h1, h2⟩ | ⟨hpid, h1, h2⟩)
    · exact ⟨hpid, h1, by omega⟩
    · exact ⟨hpid, by omega, by omega⟩
  · rintro ⟨hpid, h1, h2⟩
    by_cases hlt : a' < a + b
    · exact Or.inl ⟨hpid, h1, hlt⟩
    · exact Or.inr ⟨hpid, by omega, by omega⟩

/-- An iteration of `escribir_memoria` writes the bytes it moves. -/
theorem escribirTramo_written {info : ℤ → UInt8} {espacio : ℤ → UInt8}
    (hlugar : ∀ i, 0 ≤ i → i < r.bytes cfg → lugar cfg m (pid, a + i) = some (r.base cfg + i)) :
    Written (lugar cfg m) (rango pid a (r.bytes cfg)) (fun k => info (r.desplazado + (k.2 - a)))
      espacio (escribirTramo cfg info r espacio) where
  inside k hk x hx := by
    obtain ⟨rfl, h1, h2⟩ := hk
    have hbase := hlugar (k.2 - a) (by omega) (by omega)
    rw [show a + (k.2 - a) = k.2 by ring] at hbase
    have hxeq : r.base cfg + (k.2 - a) = x := Option.some.inj (hbase.symm.trans hx)
    unfold escribirTramo copiarEn
    rw [if_pos (by omega), ← hxeq, add_sub_cancel_left]
  outside x hx := by
    unfold escribirTramo copiarEn
    refine if_neg fun hin => ?_
    have hbase := hlugar (x - r.base cfg) (by omega) (by omega)
    rw [add_sub_cancel] at hbase
    exact hx (pid, a + (x - r.base cfg)) ⟨rfl, by dsimp only; omega, by dsimp only; omega⟩ hbase

/-- Two bytes of the first pages are not held in the same place. -/
theorem PrimerasPaginas.lugar_inj {k a' x : ℤ} (h : PrimerasPaginas cfg m pid k) (ha : 0 ≤ a)
    (hak : a / cfg.tamPagina < k) (ha' : 0 ≤ a') (hak' : a' / cfg.tamPagina < k)
    (hk : lugar cfg m (pid, a) = some x) (hk' : lugar cfg m (pid, a') = some x) : a = a' := by
  have ht := tamPagina_pos_int cfg
  obtain ⟨marco, hmap, hmap', hoff⟩ := lugar_eq_some hk hk'
  have heq : obtenerMarco m pid (a / cfg.tamPagina) = obtenerMarco m pid (a' / cfg.tamPagina) := by
    rw [obtenerMarco_of_mapea hmap, obtenerMarco_of_mapea hmap']
  have hpagina : a / cfg.tamPagina = a' / cfg.tamPagina := by
    rcases lt_trichotomy (a / cfg.tamPagina) (a' / cfg.tamPagina) with hlt | heq' | hgt
    · exact absurd heq (h.distintos _ _ (Int.ediv_nonneg ha ht.le) hlt hak')
    · exact heq'
    · exact absurd heq.symm (h.distintos _ _ (Int.ediv_nonneg ha' ht.le) hgt hak)
  rw [← Int.mul_ediv_add_emod a cfg.tamPagina, hpagina, hoff, Int.mul_ediv_add_emod]

theorem rango_vacio (pid a : ℤ) {n : ℤ} (hn : n ≤ 0) : rango pid a n = ∅ := by
  ext k
  simp only [rango, Set.mem_ofPred_eq, Set.mem_empty_iff_false, iff_false]
  omega

/-- The loop of `escribir_memoria` writes the `w` bytes of the range that are in the first pages,
byte by byte, and nothing else; it leaves through `hubo_error` if the page after them is needed and
has no frame. -/
theorem PrimerasPaginas.escribir {k : ℤ} (hp : PrimerasPaginas cfg m pid k) (info : ℤ → UInt8)
    {fuel : ℕ} (espacio : ℤ → UInt8) (h : Alcanza cfg m pid a r) (hfuel : r.tamanio.toNat < fuel)
    {w : ℤ} (hw0 : 0 ≤ w) (hw : w ≤ r.tamanio)
    (hdentro : ∀ i, 0 ≤ i → i < w → 0 ≤ a + i ∧ (a + i) / cfg.tamPagina < k)
    (hfin : w < r.tamanio → obtenerMarco m pid ((a + w) / cfg.tamPagina) = -1) :
    ∃ espacio', recorrerMarcos cfg m pid (escribirTramo cfg info) fuel espacio r =
        some (espacio', decide (w < r.tamanio)) ∧
      Written (lugar cfg m) (rango pid a w) (fun k => info (r.desplazado + (k.2 - a)))
        espacio espacio' := by
  have ht := tamPagina_pos_int cfg
  induction fuel generalizing espacio a r w with
  | zero => omega
  | succ fuel ih =>
    unfold recorrerMarcos
    rcases eq_or_lt_of_le hw0 with rfl | hwpos
    · -- nothing of the range is in the first pages
      rw [rango_vacio pid a le_rfl]
      by_cases hpos : 0 < r.tamanio
      · have hmarco : r.marco = -1 := by
          rw [h.marco hpos, ← hfin hpos, add_zero]
        rw [if_neg (by omega), if_neg (by omega), if_pos hmarco, decide_eq_true hpos]
        exact ⟨espacio, rfl, Written.refl _ _ _⟩
      · rw [if_pos (by omega), decide_eq_false hpos]
        exact ⟨espacio, rfl, Written.refl _ _ _⟩
    · have hpos : 0 < r.tamanio := by omega
      obtain ⟨ha0, hak⟩ := hdentro 0 le_rfl hwpos
      rw [add_zero] at ha0 hak
      have hpag := Int.ediv_nonneg ha0 ht.le
      have hmarco := h.marco hpos
      have hmap : Mapea m pid (a / cfg.tamPagina) r.marco := by
        rw [hmarco]
        exact hp.mapea hpag hak
      have hm0 : 0 ≤ r.marco := by
        rw [hmarco]
        exact (hp.mapeadas _ hpag hak).1
      obtain ⟨hb0, hble, hbytes, r', hr', halcanza, htamanio, hdesplazado⟩ :=
        h.avanzar hpos (by rw [hmarco]; exact hp.obtenerSiguienteMarco_eq hpag hak)
      have hbw : r.bytes cfg ≤ w := by
        by_contra hlt
        -- the byte after the first pages would be in the page of `a`
        obtain ⟨hdiv, -⟩ := ediv_of_tramo (a := a) ht hw0 (by omega)
        have hnone := hfin (by omega)
        rw [hdiv, ← hmarco] at hnone
        omega
      obtain ⟨espacio', hrecorrer, hescrito⟩ :=
        ih (w := w - r.bytes cfg) (escribirTramo cfg info r espacio) halcanza (by omega) (by omega)
          (by omega) (fun i hi0 hi => by rw [add_assoc]; exact hdentro _ (by omega) (by omega))
          (fun hlt => by rw [add_assoc, add_sub_cancel]; exact hfin (by omega))
      rw [if_neg (by omega), if_pos hm0, hr', Option.bind_some, hrecorrer]
      refine ⟨espacio', ?_, ?_⟩
      · rw [htamanio]
        congr 2
        exact decide_eq_decide.2 (by omega)
      · rw [hdesplazado] at hescrito
        rw [← rango_union pid a hb0.le hbw]
        refine (escribirTramo_written fun i hi0 hi => h.lugar_base hpos hmap hi0 hi).union ?_
          (hescrito.congr fun k _ => ?_)
        · rintro ⟨_, a₁⟩ ⟨rfl, h₁, h₁'⟩ ⟨_, a₂⟩ ⟨rfl, h₂, h₂'⟩ x hx hx'
          have hd₁ := hdentro (a₁ - a) (by dsimp only at h₁; omega) (by dsimp only at h₁'; omega)
          have hd₂ := hdentro (a₂ - a) (by dsimp only at h₂; omega) (by dsimp only at h₂'; omega)
          rw [add_sub_cancel] at hd₁ hd₂
          rw [hp.lugar_inj hd₁.1 hd₁.2 hd₂.1 hd₂.2 hx hx']
        · congr 1
          ring

/-- The loop of `escribir_memoria` writes the logical range, byte by byte, and nothing else. -/
theorem Situado.escribir (hp : ProcesoPaginado cfg m pid) (info : ℤ → UInt8) {fuel : ℕ}
    (espacio : ℤ → UInt8) (h : Situado cfg m pid a r) (hfuel : r.tamanio.toNat < fuel) :
    ∃ espacio', recorrerMarcos cfg m pid (escribirTramo cfg info) fuel espacio r =
        some (espacio', false) ∧
      Written (lugar cfg m) (rango pid a r.tamanio) (fun k => info (r.desplazado + (k.2 - a)))
        espacio espacio' := by
  have ht := tamPagina_pos_int cfg
  rcases eq_or_lt_of_le h.tamanio with hcero | hpos
  · obtain ⟨fuel, rfl⟩ := Nat.exists_eq_succ_of_ne_zero (show fuel ≠ 0 by omega)
    rw [rango_vacio pid a hcero.symm.le]
    unfold recorrerMarcos
    rw [if_pos hcero.symm.le]
    exact ⟨espacio, rfl, Written.refl _ _ _⟩
  · obtain ⟨tabla, htabla, -⟩ := Option.bind_eq_some_iff.1 (h.marco hpos)
    have hescribir := (hp.primeras htabla).escribir info espacio h.toApunta.alcanza hfuel
      h.tamanio le_rfl (fun i h0 hi => ?_) (fun hlt => absurd hlt (lt_irrefl _))
    · simpa using hescribir
    · obtain ⟨marco, hmarco⟩ := h.mapeado i h0 hi
      obtain ⟨hpag, hlt⟩ := (hp.paginas tabla htabla _).1
        (by rw [(Mapea.iff_get htabla).1 hmarco]; rfl)
      exact ⟨(Int.ediv_nonneg_iff_of_pos ht).1 hpag, hlt⟩

/-- The strings of `leer_memoria` hold a range in mapped pages: there are fewer bytes of it in its
first page, and in the second one, than in a block. -/
def CabeLectura (cfg : MemoriaConfiguracion) (l n : ℤ) : Prop :=
  cfg.monticulo.tolera n = true ∧ min n (cfg.tamPagina - l % cfg.tamPagina) < cfg.monticulo.bloque ∧
    min (n - (cfg.tamPagina - l % cfg.tamPagina)) cfg.tamPagina < cfg.monticulo.bloque

instance (cfg : MemoriaConfiguracion) (l n : ℤ) : Decidable (CabeLectura cfg l n) :=
  inferInstanceAs (Decidable (_ ∧ _ ∧ _))

/-- The loop of `leer_memoria` gathers the text of the logical range. -/
theorem Situado.leer (hp : ProcesoPaginado cfg m pid) {espacio contenido : ℤ → UInt8} {fuel : ℕ}
    (mensaje : List UInt8) (h : Situado cfg m pid a r) (hfuel : r.tamanio.toNat < fuel)
    (hcontenido : ∀ a' x, lugar cfg m (pid, a') = some x → espacio x = contenido a')
    (hprimera : min r.tamanio (cfg.tamPagina - r.desplazamiento) < cfg.monticulo.bloque)
    (hsegunda : min (r.tamanio - (cfg.tamPagina - r.desplazamiento)) cfg.tamPagina <
      cfg.monticulo.bloque) :
    recorrerMarcos cfg m pid (leerTramo cfg espacio) fuel (some mensaje) r =
      some (some (mensaje ++ textoLeido cfg contenido fuel a r.tamanio), false) := by
  induction fuel generalizing mensaje a r with
  | zero => omega
  | succ fuel ih =>
    unfold recorrerMarcos textoLeido
    by_cases hfin : r.tamanio ≤ 0
    · rw [if_pos hfin, if_pos hfin, List.append_nil]
    · obtain ⟨hmarco, hpos, hle, hbytes, hlugar, r', hr', hsituado, htamanio, -⟩ :=
        h.avanzar hp (by omega)
      have hmin := bytes_eq_min cfg r
      have hdespl' := (Recorrido.avanzar_tamanio hr').2.1
      have ht := tamPagina_pos_int cfg
      rw [if_neg hfin, if_neg hfin, if_pos hmarco, hr', Option.bind_some,
        leerTramo_some (by omega), ih _ hsituado (by omega) (by omega) (by omega), htamanio]
      dsimp only
      rw [← hbytes, List.append_assoc]
      have htramo : leerDe espacio (r.base cfg) (r.bytes cfg) =
          leerDe contenido a (r.bytes cfg) :=
        leerDe_congr fun i h0 hi => hcontenido (a + i) (r.base cfg + i) (hlugar i h0 hi)
      rw [htramo]

/-- A page with a frame is mapped. -/
theorem mapea_of_obtenerMarco_ne {p : ℤ} (h : obtenerMarco m pid p ≠ -1) :
    ∃ marco, Mapea m pid p marco := by
  rcases obtenerMarco_cases m pid p with hnone | hmap
  · exact absurd hnone h
  · exact ⟨_, hmap⟩

/-- The pages of the range are mapped. -/
theorem EnPaginas.mapea {l n : ℤ} (h : EnPaginas cfg m pid l n) {i : ℤ} (h0 : 0 ≤ i)
    (hi : i = 0 ∨ i < n) : ∃ marco, Mapea m pid ((l + i) / cfg.tamPagina) marco := by
  have hmarco := h.2.2 i.toNat (by omega)
  rw [Int.toNat_of_nonneg h0] at hmarco
  exact mapea_of_obtenerMarco_ne hmarco

/-- The walk from the translation of a logical address. -/
theorem Apunta.inicial (hp : ProcesoPaginado cfg m pid) {l n marco : ℤ} (hn : 0 ≤ n)
    (hmap : Mapea m pid (l / cfg.tamPagina) marco) :
    Apunta cfg m pid l (Recorrido.inicial cfg (direccionFisica cfg m pid l) n) := by
  have ht := tamPagina_pos_int cfg
  have hmod := Int.emod_nonneg l ht.ne'
  have hlt := Int.emod_lt_of_pos l ht
  have hm0 := (hp.valido _ _ hmap).1
  have hdir : direccionFisica cfg m pid l = marco * cfg.tamPagina + l % cfg.tamPagina := by
    rw [direccionFisica, obtenerMarco_of_mapea hmap]
  have hdir0 : 0 ≤ marco * cfg.tamPagina + l % cfg.tamPagina :=
    add_nonneg (mul_nonneg hm0 ht.le) hmod
  refine ⟨hn, fun _ => ?_, fun _ => ?_⟩
  · have hmarco : (direccionFisica cfg m pid l).tdiv cfg.tamPagina = marco := by
      rw [hdir, Int.tdiv_eq_ediv_of_nonneg hdir0, add_comm, Int.add_mul_ediv_right _ _ ht.ne',
        Int.ediv_eq_zero_of_lt hmod hlt, zero_add]
    show Mapea m pid (l / cfg.tamPagina) ((direccionFisica cfg m pid l).tdiv cfg.tamPagina)
    rw [hmarco]
    exact hmap
  · show (direccionFisica cfg m pid l).tmod cfg.tamPagina = l % cfg.tamPagina
    rw [hdir, Int.tmod_eq_emod_of_nonneg hdir0, add_comm, Int.add_mul_emod_self_right,
      Int.emod_eq_of_lt hmod hlt]

theorem Situado.inicial (hp : ProcesoPaginado cfg m pid) {l n : ℤ} (h : EnPaginas cfg m pid l n) :
    Situado cfg m pid l (Recorrido.inicial cfg (direccionFisica cfg m pid l) n) := by
  obtain ⟨marco, hmap⟩ := h.mapea le_rfl (Or.inl rfl)
  rw [add_zero] at hmap
  exact ⟨Apunta.inicial hp h.2.1 hmap, fun i h0 hi => h.mapea h0 (Or.inr hi)⟩

/-- What `escribir_memoria` does from the translation of a logical address. -/
theorem escribirMemoria_eq (hp : ProcesoPaginado cfg m pid) {l n : ℤ} (info : List UInt8)
    (hen : EnPaginas cfg m pid l n) :
    ∃ espacio', escribirMemoria cfg m (direccionFisica cfg m pid l) info n pid =
        some ({ m with espacioMemoria := espacio' },
          verificarLimiteMemoria cfg (direccionFisica cfg m pid l) n ++ [.mensaje "OK"]) ∧
      Written (lugar cfg m) (rango pid l n) (fun k => info.getD (k.2 - l).toNat 0)
        m.espacioMemoria espacio' := by
  obtain ⟨espacio', hrecorrer, hw⟩ := Situado.escribir hp (fun k => info.getD k.toNat 0)
    m.espacioMemoria (Situado.inicial hp hen) (Nat.lt_succ_self n.toNat)
  refine ⟨espacio', ?_, hw.congr fun k _ => ?_⟩
  · unfold escribirMemoria combustible
    rw [hrecorrer]
    rfl
  · show info.getD (0 + (k.2 - l)).toNat 0 = _
    rw [zero_add]

/-- What `leer_memoria` answers from the translation of a logical address, when its strings hold the
range. -/
theorem leerMemoria_eq (hp : ProcesoPaginado cfg m pid) {l n : ℤ} (hen : EnPaginas cfg m pid l n)
    (hcabe : CabeLectura cfg l n) :
    leerMemoria cfg m (direccionFisica cfg m pid l) n pid =
      some (verificarLimiteMemoria cfg (direccionFisica cfg m pid l) n ++
        [.paquete (.bytes (textoLeido cfg
          (fun a => m.espacioMemoria (direccionFisica cfg m pid a)) (combustible n) l n))]) := by
  have hcontenido : ∀ a x, lugar cfg m (pid, a) = some x →
      m.espacioMemoria x = m.espacioMemoria (direccionFisica cfg m pid a) := by
    intro a x hx
    obtain ⟨marco, hmap, -⟩ := Option.map_eq_some_iff.1 hx
    rw [lugar_eq_direccionFisica hmap] at hx
    rw [Option.some.inj hx]
  obtain ⟨marco, hmap⟩ := hen.mapea le_rfl (Or.inl rfl)
  rw [add_zero] at hmap
  have hdespl : (Recorrido.inicial cfg (direccionFisica cfg m pid l) n).desplazamiento =
      l % cfg.tamPagina := (Apunta.inicial hp zero_le_one hmap).desplazamiento one_pos
  have hrecorrer := Situado.leer hp [] (Situado.inicial hp hen) (Nat.lt_succ_self n.toNat)
    hcontenido (by rw [hdespl]; exact hcabe.2.1) (by rw [hdespl]; exact hcabe.2.2)
  unfold leerMemoria combustible
  dsimp only
  rw [if_pos hcabe.1, hrecorrer]
  rfl

/-- The range is placed. -/
theorem EnPaginas.lugar_ne_none {l n : ℤ} (h : EnPaginas cfg m pid l n) (k : ℤ × ℤ)
    (hk : k ∈ rango pid l n) : lugar cfg m k ≠ none := by
  obtain ⟨pid', a⟩ := k
  obtain ⟨hpid, h1, h2⟩ := hk
  dsimp only at hpid h1 h2
  obtain ⟨marco, hmap⟩ := h.mapea (i := a - l) (by omega) (by omega)
  rw [add_sub_cancel] at hmap
  rw [hpid, lugar_of_mapea hmap]
  exact Option.some_ne_none _

end SimuladorSO.Memoria
