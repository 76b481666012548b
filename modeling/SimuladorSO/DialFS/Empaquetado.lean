import SimuladorSO.DialFS.Pedidos

/-!
# Where a compaction leaves the files

`compactar_file_system` as the list of files shows it, for every ordered disk and every listed file
whose new size fits.

* `EnLazo c s₀ t`: a loop that begins in the state `s₀` has the state `t` at its head;
* `EncuentraOtro`: the search of an iteration finds a file that begins at the block looked for, and
  that is not the one being enlarged;
* `Compactado`: the other files on the first blocks of the disk, in their order, then the file;
* `compactarFileSystem_empaqueta`: the loop ends, finds such a file every time, and leaves that.
-/

namespace SimuladorSO.DialFS

open Extents

variable {c : InoutConfig} {s t t' : Estado} {N : Finset Cadena} {ext : Cadena → Extent UInt8}
  {x : Cadena} {i : ℕ} {viejo : Metadata}

/-- The states at the head of the loop: the first one, and the one after each iteration. -/
inductive EnLazo (c : InoutConfig) (s₀ : Estado) : Estado → Prop
  | inicio : EnLazo c s₀ s₀
  | iteracion {t t' : Estado} : EnLazo c s₀ t → bloqueAMover c t ≠ -1 →
      moverArchivo c t (posicionBloqueLibre c t) (bloqueAMover c t) = some t' → EnLazo c s₀ t'

/-- The search by first block answers a listed file that begins at that block and is not the `i`-th
one, whose name is `nombre`. -/
def EncuentraOtro (t : Estado) (i : ℕ) (nombre : Cadena) (bloqueInicial : ℤ) : Prop :=
  ∃ j a, obtenerArchivoPorBloqueInicial t bloqueInicial = some (j, a) ∧
    t.listaArchivos[j]? = some a ∧ a.config.bloqueInicial = bloqueInicial ∧
    j ≠ i ∧ a.nombreArchivo ≠ nombre

/-- What a compaction that enlarges the `i`-th file to `n` bytes leaves: the `j`-th file begins at
`inicio j`, and the first `l` blocks are those of the other files. -/
structure Compactado (c : InoutConfig) (s : Estado) (i : ℕ) (n : ℤ) (inicio : ℕ → ℤ) (l : ℤ)
    (s' : Estado) : Prop where
  archivos : s'.listaArchivos = s.listaArchivos.mapIdx fun j a =>
    if j = i then { a with config := ⟨l, n⟩ }
    else { a with config := ⟨inicio j, a.config.tamanioArchivo⟩ }
  orden : ∀ j k a b, j ≠ i → k ≠ i → s.listaArchivos[j]? = some a → s.listaArchivos[k]? = some b →
    (inicio j < inicio k ↔ a.config.bloqueInicial < b.config.bloqueInicial)
  prefijo : ∀ b, 0 ≤ b → b < l → ∃! j, j ≠ i ∧ ∃ a, s.listaArchivos[j]? = some a ∧
    inicio j ≤ b ∧ b < inicio j + bytesABloques c a.config.tamanioArchivo
  dentro : ∀ j a, j ≠ i → s.listaArchivos[j]? = some a →
    0 ≤ inicio j ∧ inicio j + bytesABloques c a.config.tamanioArchivo ≤ l
  cabe : 0 ≤ l ∧ l + bytesABloques c n ≤ c.blockCount
  bitmap : ∀ b, 0 ≤ b → b < c.blockCount →
    (s'.bitmap b = true ↔ b < l ∨ (l ≤ b ∧ b < l + bytesABloques c n))

/-! ### The loop -/

/-- Running the loop goes through its heads, up to one where no file is to be moved. -/
theorem compactarOcupados_enLazo {fuel : ℕ} {s₀ s' : Estado} (hs : EnLazo c s₀ s)
    (h : compactarOcupados c fuel s = some s') : EnLazo c s₀ s' ∧ bloqueAMover c s' = -1 := by
  induction fuel generalizing s with
  | zero => cases h
  | succ fuel ih =>
    change (if bloqueAMover c s = -1 then some s
      else (moverArchivo c s (posicionBloqueLibre c s) (bloqueAMover c s)).bind
        (compactarOcupados c fuel)) = some s' at h
    rcases ite_eq_iff.1 h with ⟨hfin, h⟩ | ⟨hsigue, h⟩
    · cases h
      exact ⟨hs, hfin⟩
    · obtain ⟨t, hmover, h⟩ := Option.bind_eq_some_iff.1 h
      exact ih (hs.iteracion hsigue hmover) h

/-- Every head of the loop satisfies its invariant. -/
theorem EnLazo.compactando (hc : c.Valida) {s₀ : Estado} (h₀ : Compactando c N x i viejo ext s₀)
    (h : EnLazo c s₀ t) : ∃ ext', Compactando c N x i viejo ext' t := by
  induction h with
  | inicio => exact ⟨ext, h₀⟩
  | @iteracion t t' _ hsigue hmover ih =>
    obtain ⟨ext', hinv⟩ := ih
    rcases bloqueAMover_spec hc t with ⟨hneg, -⟩ | ⟨h0, hlb, hb, hprimero, hlibres, hocupado⟩
    · exact absurd hneg hsigue
    · obtain ⟨t'', y, -, hmover', hinv', -⟩ :=
        hinv.moverArchivo hc h0 hlb hb hprimero hlibres hocupado
      rw [hmover] at hmover'
      cases hmover'
      exact ⟨_, hinv'⟩

/-- At every head of the loop the search finds a file that begins at the block looked for. -/
theorem Compactando.encuentraOtro (hc : c.Valida) (h : Compactando c N x i viejo ext t)
    (hsigue : bloqueAMover c t ≠ -1) : EncuentraOtro t i x (bloqueAMover c t) := by
  rcases bloqueAMover_spec hc t with ⟨hneg, -⟩ | ⟨h0, hlb, hb, -, hlibres, hocupado⟩
  · exact absurd hneg hsigue
  · obtain ⟨j, y, hy, hstart, hobt, hget⟩ :=
      h.porBloqueInicial (by omega) hb hocupado (hlibres _ (by omega) (by omega))
    have hyx : y ≠ x := (Finset.mem_erase.1 hy).1
    refine ⟨j, _, hobt, hget, hstart, ?_, hyx⟩
    rintro rfl
    rw [h.posicion] at hget
    exact hyx (congrArg Archivo.nombreArchivo (Option.some.inj hget)).symm

/-- The loop begins with the bytes of the file zeroed and its blocks free. -/
theorem Invariante.antesDelLazo_eq (hc : c.Valida) (h : Invariante c N ext s) (hx : x ∈ N) :
    antesDelLazo c s ⟨x, metadataDe (ext x)⟩ = some
      { s with
        datosBloques := fun j =>
          if (ext x).start * c.blockSize ≤ j ∧
            j < (ext x).start * c.blockSize + (ext x).bytes.length then 0 else s.datosBloques j
        bitmap := bitmapCleanNBits s.bitmap (ext x).start (ext x).width } := by
  have hlimpiar := limpiarNBytesBloques_eq s.datosBloques (enMapeo_bytes hc (h.guarda.sound x hx))
  unfold antesDelLazo
  show (limpiarNBytesBloques c s.datosBloques ((ext x).start * c.blockSize)
    (ext x).bytes.length).map _ = _
  rw [hlimpiar, h.anchos x hx]
  rfl

/-! ### The files at the end -/

/-- Where a listed file begins in the extents `ext`. -/
def inicioEn (ext : Cadena → Extent UInt8) (s : Estado) (j : ℕ) : ℤ :=
  (s.listaArchivos[j]?.map fun a => (ext a.nombreArchivo).start).getD 0

theorem inicioEn_eq {j : ℕ} {a : Archivo} (ha : s.listaArchivos[j]? = some a) :
    inicioEn ext s j = (ext a.nombreArchivo).start := by
  simp [inicioEn, ha]

/-- The listed files of an ordered disk other than the `i`-th are those of `N` other than `x`. -/
theorem Invariante.mem_erase (h : Invariante c N ext s)
    (hi : s.listaArchivos[i]? = some ⟨x, metadataDe (ext x)⟩) {j : ℕ} {a : Archivo} (hj : j ≠ i)
    (ha : s.listaArchivos[j]? = some a) : a.nombreArchivo ∈ N.erase x := by
  refine Finset.mem_erase.2 ⟨?_, ((h.catalogo.lista a).1 (List.mem_of_getElem? ha)).1⟩
  intro hax
  exact hj (Keyed.index_unique h.catalogo.nodup ha hi hax)

/-- The blocks of a listed file are as many as its extent has. -/
theorem Invariante.bytesABloques_eq (h : Invariante c N ext s) {a : Archivo}
    (ha : a ∈ s.listaArchivos) :
    bytesABloques c a.config.tamanioArchivo = (ext a.nombreArchivo).width := by
  obtain ⟨hn, hconf⟩ := (h.catalogo.lista a).1 ha
  rw [h.anchos _ hn, hconf]
  rfl

theorem Empaquetado.width_eq {ext' : Cadena → Extent UInt8} {l : ℤ} {s₁ : Estado}
    (h : Invariante c N ext s) (hfin : Empaquetado c N x i viejo ext ext' l s₁) {n : Cadena}
    (hn : n ∈ N.erase x) : (ext' n).width = (ext n).width := by
  rw [hfin.compactando.anchos n hn, hfin.bytes n, h.anchos n (Finset.mem_of_mem_erase hn)]

/-- The list at the end of the loop: the other files have the starts of `ext'`. -/
theorem Empaquetado.archivo {ext' : Cadena → Extent UInt8} {l : ℤ} {s₁ : Estado}
    (h : Invariante c N ext s) (hi : s.listaArchivos[i]? = some ⟨x, metadataDe (ext x)⟩)
    (hfin : Empaquetado c N x i viejo ext ext' l s₁)
    (hnombres : s₁.listaArchivos.map Archivo.nombreArchivo =
      s.listaArchivos.map Archivo.nombreArchivo)
    {j : ℕ} {a : Archivo} (hj : j ≠ i) (ha : s.listaArchivos[j]? = some a) :
    s₁.listaArchivos[j]? =
      some { a with config := ⟨inicioEn ext' s j, a.config.tamanioArchivo⟩ } := by
  have hmap : s₁.listaArchivos[j]?.map Archivo.nombreArchivo = some a.nombreArchivo := by
    rw [← List.getElem?_map, hnombres, List.getElem?_map, ha, Option.map_some]
  obtain ⟨a₁, ha₁, hnombre⟩ := Option.map_eq_some_iff.1 hmap
  have hx : a.nombreArchivo ≠ x := (Finset.mem_erase.1 (h.mem_erase hi hj ha)).1
  have hconf₁ := ((hfin.compactando.catalogo.lista a₁).1 (List.mem_of_getElem? ha₁)).2
  have hconf := ((h.catalogo.lista a).1 (List.mem_of_getElem? ha)).2
  rw [hnombre, Function.update_of_ne hx] at hconf₁
  have htamanio : a.config.tamanioArchivo = (ext' a.nombreArchivo).bytes.length := by
    rw [hconf, hfin.bytes]
    rfl
  rw [ha₁, inicioEn_eq ha, htamanio]
  calc some a₁ = some ⟨a₁.nombreArchivo, a₁.config⟩ := rfl
    _ = _ := by rw [hnombre, hconf₁]; rfl

/-- **The layout at the end of a compaction.** -/
theorem Empaquetado.compactado (hc : c.Valida) {ext' : Cadena → Extent UInt8} {l n : ℤ}
    {s₁ : Estado} (h : Invariante c N ext s)
    (hi : s.listaArchivos[i]? = some ⟨x, metadataDe (ext x)⟩)
    (hfin : Empaquetado c N x i viejo ext ext' l s₁)
    (hnombres : s₁.listaArchivos.map Archivo.nombreArchivo =
      s.listaArchivos.map Archivo.nombreArchivo)
    (hcabe : l + bytesABloques c n ≤ maxBit c) (datos : ℤ → UInt8) :
    Compactado c s i n (inicioEn ext' s) l (guardarConfig
      { s₁ with
        datosBloques := datos
        bitmap := bitmapSetNBits s₁.bitmap l (bytesABloques c n) }
      i ⟨x, metadataDe (ext x)⟩ ⟨l, n⟩) := by
  have hinv := hfin.compactando.guarda
  have hlong : s₁.listaArchivos.length = s.listaArchivos.length := by
    simpa using congrArg List.length hnombres
  -- the blocks of a listed file after the compaction
  have howns : ∀ j a, j ≠ i → s.listaArchivos[j]? = some a → ∀ b,
      (ext' a.nombreArchivo).Owns b ↔ inicioEn ext' s j ≤ b ∧
        b < inicioEn ext' s j + bytesABloques c a.config.tamanioArchivo := by
    intro j a hj ha b
    rw [inicioEn_eq ha, h.bytesABloques_eq (List.mem_of_getElem? ha),
      ← hfin.width_eq h (h.mem_erase hi hj ha)]
    rfl
  constructor
  · apply List.ext_getElem?
    intro j
    show (s₁.listaArchivos.set i ⟨x, ⟨l, n⟩⟩)[j]? = _
    rw [List.getElem?_mapIdx]
    by_cases hj : j = i
    · obtain ⟨hlt, -⟩ := List.getElem?_eq_some_iff.1 hi
      rw [hj, List.getElem?_set_self (by omega), hi, Option.map_some, if_pos rfl]
    · rw [List.getElem?_set_ne (Ne.symm hj)]
      cases ha : s.listaArchivos[j]? with
      | none =>
        rw [List.getElem?_eq_none_iff] at ha
        rw [Option.map_none, List.getElem?_eq_none (by omega)]
      | some a => rw [hfin.archivo h hi hnombres hj ha, Option.map_some, if_neg hj]
  · intro j k a b hj hk ha hb
    have horden := hfin.orden _ (h.mem_erase hi hj ha) _ (h.mem_erase hi hk hb)
    have hconfa := ((h.catalogo.lista a).1 (List.mem_of_getElem? ha)).2
    have hconfb := ((h.catalogo.lista b).1 (List.mem_of_getElem? hb)).2
    rw [inicioEn_eq ha, inicioEn_eq hb, hconfa, hconfb]
    exact horden
  · intro b h0 hb
    have hle := hfin.le
    obtain ⟨m, hm, hown⟩ := (hinv.marked b h0 (by omega)).1 (hfin.ocupados b h0 hb)
    obtain ⟨hmx, hmN⟩ := Finset.mem_erase.1 hm
    obtain ⟨j, ha⟩ := List.mem_iff_getElem?.1 (h.catalogo.mem hmN)
    have hj : j ≠ i := by
      rintro rfl
      rw [hi] at ha
      exact hmx (congrArg Archivo.nombreArchivo (Option.some.inj ha)).symm
    refine ⟨j, ⟨hj, _, ha, (howns j _ hj ha b).1 hown⟩, ?_⟩
    rintro k ⟨hk, a, hak, hocupa⟩
    have hmk := hinv.disjoint _ (h.mem_erase hi hk hak) m hm b ((howns k a hk hak b).2 hocupa) hown
    exact Keyed.index_unique h.catalogo.nodup hak ha hmk
  · intro j a hj ha
    have hm := h.mem_erase hi hj ha
    have hsound := hinv.sound _ hm
    have hpos := hsound.width_pos
    have hwidth := hfin.width_eq h hm
    have hstart := hsound.start_nonneg
    rw [inicioEn_eq ha, h.bytesABloques_eq (List.mem_of_getElem? ha), ← hwidth]
    refine ⟨hstart, ?_⟩
    -- the last block of the file is marked, so it is one of the first `l`
    have hlast : (ext' a.nombreArchivo).Owns
        ((ext' a.nombreArchivo).start + (ext' a.nombreArchivo).width - 1) :=
      ⟨by omega, by omega⟩
    have hmark := hinv.mark_of_owns hm hlast
    have hrange := hinv.range hm hlast
    by_contra hlt
    rw [hfin.libres _ (by omega) hrange.2] at hmark
    cases hmark
  · exact ⟨hfin.nonneg, by rw [← hc.maxBit_eq]; exact hcabe⟩
  · intro b h0 hb
    show bitmapSetNBits _ l _ b = true ↔ _
    rw [bitmapSetNBits_apply]
    by_cases hnuevo : l ≤ b ∧ b < l + bytesABloques c n
    · rw [if_pos hnuevo]
      simp [hnuevo]
    · rw [if_neg hnuevo, or_iff_left hnuevo]
      by_cases hbl : b < l
      · exact iff_of_true (hfin.ocupados b h0 hbl) hbl
      · refine iff_of_false ?_ hbl
        rw [hfin.libres b (by omega) (by rw [hc.maxBit_eq]; exact hb)]
        decide

/-- **A compaction ends and packs the disk**: in every ordered disk, for every listed file whose new
size fits in the free blocks and its own, each search of the loop finds another file that begins at
the block looked for, the loop ends, and the other files are then on the first blocks in their order,
followed by the file. -/
theorem compactarFileSystem_empaqueta (c : InoutConfig) (hc : c.Valida) (s : Estado)
    (h : Ordenado c s) (i : ℕ) (a : Archivo) (hi : s.listaArchivos[i]? = some a) (n : ℤ)
    (hcabe : bytesABloques c n ≤
      cantidadBloquesLibres c s + bytesABloques c a.config.tamanioArchivo) :
    (∃ s₀, antesDelLazo c s a = some s₀ ∧
      (∀ t, EnLazo c s₀ t → bloqueAMover c t ≠ -1 →
        EncuentraOtro t i a.nombreArchivo (bloqueAMover c t)) ∧
      ∃ t, EnLazo c s₀ t ∧ bloqueAMover c t = -1) ∧
    ∃ s' inicio l, compactarFileSystem c s i a n = some s' ∧ Compactado c s i n inicio l s' := by
  obtain ⟨N, ext, hinv⟩ := h
  obtain ⟨hx, hconf⟩ := (hinv.catalogo.lista a).1 (List.mem_of_getElem? hi)
  have ha : a = ⟨a.nombreArchivo, metadataDe (ext a.nombreArchivo)⟩ := by
    calc a = ⟨a.nombreArchivo, a.config⟩ := rfl
      _ = _ := by rw [hconf]
  have hwidth := hinv.bytesABloques_eq (List.mem_of_getElem? hi)
  rw [hwidth] at hcabe
  generalize a.nombreArchivo = x at ha hx hcabe
  subst ha
  have hlazo := hinv.compactando hc hx hi
  constructor
  · refine ⟨_, hinv.antesDelLazo_eq hc hx, fun t ht hsigue => ?_, ?_⟩
    · obtain ⟨ext', hinv'⟩ := ht.compactando hc hlazo
      exact hinv'.encuentraOtro hc hsigue
    · obtain ⟨s', ext', l, hrun, -⟩ :=
        compactarOcupados_spec hc ((maxBit c).toNat + 1) 0 hlazo hc.maxBit_pos.le
          (fun b h1 h2 => by omega) (by have := hc.maxBit_pos; push_cast; omega)
      exact ⟨s', compactarOcupados_enLazo .inicio hrun⟩
  · obtain ⟨s₁, ext', l, hfin, hnombres, hnuevo, hcompactar⟩ :=
      hinv.compactarFileSystem_eq hc hx hi hcabe
    exact ⟨_, _, l, hcompactar, hfin.compactado hc hinv hi hnombres hnuevo _⟩

/-- The first of two files is enlarged past the second. -/
theorem compactarFileSystem_empaqueta_dos_archivos :
    ∃ s' inicio l,
      compactarFileSystem ⟨['F'], 2, 8⟩
        (ioFsCreate ⟨['F'], 2, 8⟩
          (ioFsCreate ⟨['F'], 2, 8⟩ (iniciarFileSystem ⟨['F'], 2, 8⟩) ['a']) ['b'])
        0 ⟨['a'], ⟨0, 0⟩⟩ 3 = some s' ∧
      Compactado ⟨['F'], 2, 8⟩
        (ioFsCreate ⟨['F'], 2, 8⟩
          (ioFsCreate ⟨['F'], 2, 8⟩ (iniciarFileSystem ⟨['F'], 2, 8⟩) ['a']) ['b'])
        0 3 inicio l s' := by
  have hc : InoutConfig.Valida ⟨['F'], 2, 8⟩ := ⟨by decide, by decide, by decide, by decide⟩
  have hinv : Invariante ⟨['F'], 2, 8⟩ ∅ (fun _ => ⟨0, 1, []⟩) (iniciarFileSystem ⟨['F'], 2, 8⟩) :=
    Invariante.vacio
  obtain ⟨l₁, hinv₁⟩ := hinv.ioFsCreate_alta (x := ['a']) hc (by decide) (by decide) (by decide)
  obtain ⟨l₂, hinv₂⟩ := hinv₁.ioFsCreate_alta (x := ['b']) hc (by decide) (by decide) (by decide)
  exact (compactarFileSystem_empaqueta _ hc _ ⟨_, _, hinv₂⟩ 0 ⟨['a'], ⟨0, 0⟩⟩ rfl 3
    (by decide)).2

end SimuladorSO.DialFS
