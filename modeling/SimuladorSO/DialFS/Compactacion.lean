import SimuladorSO.DialFS.Invariante

/-!
# The compaction of DialFS

`Compactando c N x i viejo ext s` is the invariant of the loop of `compactar_file_system`: the file
`x` that is enlarged has given its blocks back but is still listed with its old metadata, and every
other file is where `ext` says.

* `moverArchivo`: the file found at the first occupied block after the first free one is one that
  begins there, never `x`, and moving it keeps the invariant and the order of the files;
* `compactarOcupados_spec`: the loop ends `Empaquetado`, with every occupied block before every free
  one;
* `Invariante.compactarFileSystem_eq`: the state it ends in, for every new size that fits;
* `Invariante.compactarFileSystem`: the whole of it keeps the files and resizes `x`.
-/

namespace SimuladorSO.DialFS

open Extents

variable {c : InoutConfig} {s : Estado} {N : Finset Cadena} {ext : Cadena → Extent UInt8}
  {x : Cadena} {i : ℕ} {viejo : Metadata}

/-- The loop invariant of the compaction that enlarges `x`, the `i`-th file. -/
structure Compactando (c : InoutConfig) (N : Finset Cadena) (x : Cadena) (i : ℕ) (viejo : Metadata)
    (ext : Cadena → Extent UInt8) (s : Estado) : Prop where
  guarda : Stores c.blockSize (maxBit c) (N.erase x) ext s.bitmap s.datosBloques
  anchos : ∀ n ∈ N.erase x, (ext n).width = bytesABloques c (ext n).bytes.length
  catalogo : Catalogo c N (Function.update (fun n => metadataDe (ext n)) x viejo) s
  posicion : s.listaArchivos[i]? = some ⟨x, viejo⟩
  -- a file moved to where `x` was begins there, but nothing before it is free any more
  inicio : ∀ n ∈ N.erase x, (ext n).start = viejo.bloqueInicial →
    ∀ b, 0 ≤ b → b < (ext n).start → s.bitmap b = true

/-- The search by first block finds a file that begins at the occupied block. -/
theorem Compactando.porBloqueInicial (h : Compactando c N x i viejo ext s) {b : ℤ} (h0 : 0 < b)
    (hb : b < maxBit c) (hocupado : s.bitmap b = true) (hprev : s.bitmap (b - 1) = false) :
    ∃ j, ∃ y ∈ N.erase x, (ext y).start = b ∧
      obtenerArchivoPorBloqueInicial s b = some (j, ⟨y, metadataDe (ext y)⟩) ∧
      s.listaArchivos[j]? = some ⟨y, metadataDe (ext y)⟩ := by
  obtain ⟨n, hn, hstart⟩ := h.guarda.exists_start h0 hb hocupado hprev
  obtain ⟨hnx, hnN⟩ := Finset.mem_erase.1 hn
  obtain ⟨j, y, hy, hyb, hobt, hget⟩ := h.catalogo.porBloqueInicial (b := b)
    ⟨n, hnN, by rw [Function.update_of_ne hnx]; exact hstart⟩
  have hyx : y ≠ x := by
    rintro rfl
    rw [Function.update_self] at hyb
    have hmarked := h.inicio n hn (by rw [hyb, hstart]) (b - 1) (by omega) (by omega)
    rw [hprev] at hmarked
    cases hmarked
  rw [Function.update_of_ne hyx] at hyb hobt hget
  exact ⟨j, y, Finset.mem_erase.2 ⟨hyx, hy⟩, hyb, hobt, hget⟩

/-- One iteration of the loop moves a file that is not `x` to the first free block. -/
theorem Compactando.moverArchivo (hc : c.Valida) (h : Compactando c N x i viejo ext s) {l b : ℤ}
    (hl0 : 0 ≤ l) (hlb : l < b) (hb : b < maxBit c) (hbelow : ∀ d, 0 ≤ d → d < l → s.bitmap d = true)
    (hfree : ∀ d, l ≤ d → d < b → s.bitmap d = false) (hocupado : s.bitmap b = true) :
    ∃ s', ∃ y ∈ N.erase x, moverArchivo c s l b = some s' ∧
      Compactando c N x i viejo (Function.update ext y { ext y with start := l }) s' ∧
      (∀ d, 0 ≤ d → d < l + 1 → s'.bitmap d = true) ∧
      s'.listaArchivos.map Archivo.nombreArchivo = s.listaArchivos.map Archivo.nombreArchivo ∧
      SameOrder (N.erase x) ext (Function.update ext y { ext y with start := l }) := by
  obtain ⟨j, y, hy, hstart, hobt, hget⟩ :=
    h.porBloqueInicial (by omega) hb hocupado (hfree _ (by omega) (by omega))
  obtain ⟨hyx, hyN⟩ := Finset.mem_erase.1 hy
  have hbs : 0 < c.blockSize := hc.blockSize_pos
  have hancho := h.anchos y hy
  have hpos := (h.guarda.sound y hy).width_pos
  have hbit : ∀ d, bitmapSetNBits (bitmapCleanNBits s.bitmap b (ext y).width) l (ext y).width d =
      if l ≤ d ∧ d < l + (ext y).width then true
      else if (ext y).start ≤ d ∧ d < (ext y).start + (ext y).width then false else s.bitmap d := by
    intro d
    rw [bitmapSetNBits_apply, bitmapCleanNBits_apply, hstart]
  have hsound := h.guarda.sound y hy
  have hleer : leerBloques c s.datosBloques (b * c.blockSize) (ext y).bytes.length =
      some (ext y).bytes := by
    rw [← hstart]
    exact leerBloques_stored hc h.guarda hy
  have hmapeo : EnMapeo c (b * c.blockSize) (ext y).bytes.length := by
    rw [← hstart]
    exact enMapeo_bytes hc hsound
  have hmapeo' : EnMapeo c (l * c.blockSize) (ext y).bytes.length :=
    enMapeo_bytes (e := { ext y with start := l }) hc
      ⟨hpos, hl0, by have := hsound.le_count; show l + (ext y).width ≤ _; omega, hsound.fits⟩
  have hmover : DialFS.moverArchivo c s l b = some (guardarConfig
      { s with
        datosBloques := fun d =>
          if l * c.blockSize ≤ d ∧ d < l * c.blockSize + (ext y).bytes.length then
            (ext y).bytes.getD (d - l * c.blockSize).toNat 0
          else if b * c.blockSize ≤ d ∧ d < b * c.blockSize + (ext y).bytes.length then 0
          else s.datosBloques d
        bitmap := bitmapSetNBits (bitmapCleanNBits s.bitmap b (ext y).width) l (ext y).width }
      j ⟨y, metadataDe (ext y)⟩ ⟨l, (ext y).bytes.length⟩) := by
    unfold DialFS.moverArchivo
    rw [hobt]
    simp only [Option.bind_eq_bind, Option.bind_some]
    show (leerBloques c s.datosBloques (b * c.blockSize) (ext y).bytes.length).bind _ = _
    rw [hleer, hancho]
    show (limpiarNBytesBloques c s.datosBloques (b * c.blockSize) (ext y).bytes.length).bind _ = _
    rw [limpiarNBytesBloques_eq _ hmapeo]
    show (escribirBloques c _ (l * c.blockSize) (ext y).bytes (ext y).bytes.length).bind _ = _
    rw [escribirBloques_length _ hmapeo']
    rfl
  refine ⟨_, y, hy, hmover, ⟨?_, ?_, ?_, ?_, ?_⟩, ?_, ?_, ?_⟩
  · refine h.guarda.move hbs hy hl0 (by omega) ?_ hbit ?_
    · intro d h1 h2
      exact hfree d h1 (by omega)
    · intro d
      rw [hstart]
      rfl
  · exact anchos_update (fun n hn _ => hn) h.anchos hancho
  · rw [metadataDe_update, Function.update_comm hyx]
    exact h.catalogo.guardar hget _ rfl rfl
  · have hji : j ≠ i := by
      rintro rfl
      rw [h.posicion] at hget
      exact hyx (congrArg Archivo.nombreArchivo (Option.some.inj hget)).symm
    show (s.listaArchivos.set j _)[i]? = _
    rw [List.getElem?_set_ne hji]
    exact h.posicion
  · intro n hn hinicio d h0 hd
    show bitmapSetNBits _ l _ d = true
    rw [hbit d]
    by_cases hny : n = y
    · rw [hny, Function.update_self] at hd
      have hd : d < l := hd
      rw [if_neg (by omega), if_neg (by omega)]
      exact hbelow d h0 hd
    · rw [Function.update_of_ne hny] at hinicio hd
      have hmarked := h.inicio n hn hinicio
      -- everything before `n` is occupied, so the free block `l` is not before it
      have hle : (ext n).start ≤ l := by
        by_contra hlt
        have hocupado' := hmarked l hl0 (by omega)
        rw [hfree l le_rfl hlb] at hocupado'
        cases hocupado'
      rw [if_neg (by omega), if_neg (by omega)]
      exact hmarked d h0 hd
  · intro d h0 hd
    show bitmapSetNBits _ l _ d = true
    rw [hbit d]
    by_cases hdl : d < l
    · rw [if_neg (by omega), if_neg (by omega)]
      exact hbelow d h0 hdl
    · rw [if_pos (by omega)]
  · exact Keyed.map_set (b := (⟨y, ⟨l, (ext y).bytes.length⟩⟩ : Archivo)) hget rfl
  · exact h.guarda.sameOrder_move hy (by omega) fun d h1 h2 => hfree d h1 (by omega)

/-- The occupied block that the loop looks for, or `-1` when the loop ends. -/
def bloqueAMover (c : InoutConfig) (s : Estado) : ℤ :=
  if posicionBloqueLibre c s = -1 then -1 else bloqueOcupadoDesde c s (posicionBloqueLibre c s)

/-- Either the occupied blocks are the first ones of the device and the loop ends, or the block
looked for is the first occupied one after the first free one. -/
theorem bloqueAMover_spec (hc : c.Valida) (s : Estado) :
    (bloqueAMover c s = -1 ∧ ∃ l, 0 ≤ l ∧ l ≤ maxBit c ∧
      (∀ b, 0 ≤ b → b < l → s.bitmap b = true) ∧
      ∀ b, l ≤ b → b < maxBit c → s.bitmap b = false) ∨
    (0 ≤ posicionBloqueLibre c s ∧ posicionBloqueLibre c s < bloqueAMover c s ∧
      bloqueAMover c s < maxBit c ∧
      (∀ b, 0 ≤ b → b < posicionBloqueLibre c s → s.bitmap b = true) ∧
      (∀ b, posicionBloqueLibre c s ≤ b → b < bloqueAMover c s → s.bitmap b = false) ∧
      s.bitmap (bloqueAMover c s) = true) := by
  unfold bloqueAMover
  rcases posicionBloqueLibre_spec hc s with ⟨hneg, hall⟩ | ⟨h0, hlt, hlibre, hprimero⟩
  · rw [if_pos hneg]
    refine Or.inl ⟨rfl, maxBit c, hc.maxBit_pos.le, le_rfl, hall, ?_⟩
    intro b h1 h2
    omega
  · rw [if_neg (by omega)]
    generalize posicionBloqueLibre c s = l at *
    rcases bloqueOcupadoDesde_spec hlt.le s with ⟨hneg, hnone⟩ | ⟨h1, h2, h3, h4⟩
    · exact Or.inl ⟨hneg, l, h0, hlt.le, hprimero, hnone⟩
    · have hlb : l ≠ bloqueOcupadoDesde c s l := by
        intro heq
        rw [← heq, hlibre] at h3
        cases h3
      exact Or.inr ⟨h0, by omega, h2, hprimero, h4, h3⟩

/-- The loop has ended: every file but `x` is among the first `l` blocks, the rest are free, and the
contents and the order of the files are those of `ext`. -/
structure Empaquetado (c : InoutConfig) (N : Finset Cadena) (x : Cadena) (i : ℕ) (viejo : Metadata)
    (ext ext' : Cadena → Extent UInt8) (l : ℤ) (s' : Estado) : Prop where
  compactando : Compactando c N x i viejo ext' s'
  bytes : ∀ n, (ext' n).bytes = (ext n).bytes
  orden : SameOrder (N.erase x) ext ext'
  nonneg : 0 ≤ l
  le : l ≤ maxBit c
  ocupados : ∀ b, 0 ≤ b → b < l → s'.bitmap b = true
  libres : ∀ b, l ≤ b → b < maxBit c → s'.bitmap b = false

/-- **The loop of the compaction ends**, with the occupied blocks at the beginning of the device and
the content of every file as it was. -/
theorem compactarOcupados_spec (hc : c.Valida) (fuel : ℕ) (k : ℤ)
    (h : Compactando c N x i viejo ext s) (hk : k ≤ maxBit c)
    (hbelow : ∀ b, 0 ≤ b → b < k → s.bitmap b = true) (hfuel : maxBit c + 1 ≤ k + fuel) :
    ∃ s' ext' l, compactarOcupados c fuel s = some s' ∧
      Empaquetado c N x i viejo ext ext' l s' ∧
      s'.listaArchivos.map Archivo.nombreArchivo = s.listaArchivos.map Archivo.nombreArchivo := by
  induction fuel generalizing k s ext with
  | zero => omega
  | succ fuel ih =>
    show ∃ s' ext' l, (if bloqueAMover c s = -1 then some s
      else (DialFS.moverArchivo c s (posicionBloqueLibre c s) (bloqueAMover c s)).bind
        (compactarOcupados c fuel)) = some s' ∧ _
    rcases bloqueAMover_spec hc s with ⟨hneg, l, h0, hl, hocupados, hlibres⟩ |
      ⟨h0, hlb, hb, hprimero, hlibres, hocupado⟩
    · rw [if_pos hneg]
      exact ⟨s, ext, l, rfl,
        ⟨h, fun n => rfl, SameOrder.refl _ _, h0, hl, hocupados, hlibres⟩, rfl⟩
    · rw [if_neg (by omega)]
      generalize posicionBloqueLibre c s = l at *
      generalize bloqueAMover c s = b at *
      have hkl : k ≤ l := by
        by_contra hge
        have hmarcado := hbelow l h0 (by omega)
        rw [hlibres l le_rfl hlb] at hmarcado
        cases hmarcado
      obtain ⟨s₁, y, -, hmover, hinv, hbelow₁, hnombres₁, horden₁⟩ :=
        h.moverArchivo hc h0 hlb hb hprimero hlibres hocupado
      obtain ⟨s', ext', l', hrun, hempaquetado, hnombres⟩ :=
        ih (l + 1) hinv (by omega) hbelow₁ (by push_cast at hfuel; omega)
      refine ⟨s', ext', l', ?_, { hempaquetado with bytes := ?_, orden := ?_ }, ?_⟩
      · rw [hmover, Option.bind_some]
        exact hrun
      · intro n
        rw [hempaquetado.bytes n]
        by_cases hny : n = y
        · rw [hny, Function.update_self]
        · rw [Function.update_of_ne hny]
      · exact horden₁.trans hempaquetado.orden
      · rw [hnombres, hnombres₁]

/-- Giving the blocks of `x` back begins a compaction. -/
theorem Invariante.compactando (hc : c.Valida) (h : Invariante c N ext s) (hx : x ∈ N)
    (hi : s.listaArchivos[i]? = some ⟨x, metadataDe (ext x)⟩) :
    Compactando c N x i (metadataDe (ext x)) ext
      { s with
        datosBloques := fun j =>
          if (ext x).start * c.blockSize ≤ j ∧
            j < (ext x).start * c.blockSize + (ext x).bytes.length then 0 else s.datosBloques j
        bitmap := bitmapCleanNBits s.bitmap (ext x).start (ext x).width } where
  guarda := h.guarda.clear hc.blockSize_pos hx (fun _ => bitmapCleanNBits_apply _ _ _ _)
    (fun _ => rfl)
  anchos n hn := h.anchos n (Finset.mem_of_mem_erase hn)
  catalogo := by
    have hself : Function.update (fun n => metadataDe (ext n)) x (metadataDe (ext x)) =
        fun n => metadataDe (ext n) := Function.update_eq_self x _
    rw [hself]
    exact h.catalogo.congr_estado rfl rfl
  posicion := hi
  inicio n hn hstart := by
    obtain ⟨hnx, hnN⟩ := Finset.mem_erase.1 hn
    have hown := (h.guarda.sound n hnN).owns_start
    rw [hstart] at hown
    exact absurd (h.guarda.disjoint n hnN x hx _ hown (h.guarda.sound x hx).owns_start) hnx

/-- **Where the compaction ends**: whenever the free blocks and its own are enough, `x` is written
after the other files, with the metadata of the new size. -/
theorem Invariante.compactarFileSystem_eq (hc : c.Valida) (h : Invariante c N ext s) (hx : x ∈ N)
    (hi : s.listaArchivos[i]? = some ⟨x, metadataDe (ext x)⟩) {n : ℤ}
    (hcabe : bytesABloques c n ≤ cantidadBloquesLibres c s + (ext x).width) :
    ∃ s₁ ext' l, Empaquetado c N x i (metadataDe (ext x)) ext ext' l s₁ ∧
      s₁.listaArchivos.map Archivo.nombreArchivo = s.listaArchivos.map Archivo.nombreArchivo ∧
      l + bytesABloques c n ≤ maxBit c ∧
      compactarFileSystem c s i ⟨x, metadataDe (ext x)⟩ n = some (guardarConfig
        { s₁ with
          datosBloques := fun d =>
            if l * c.blockSize ≤ d ∧ d < l * c.blockSize + (ext x).bytes.length then
              (ext x).bytes.getD (d - l * c.blockSize).toNat 0
            else s₁.datosBloques d
          bitmap := bitmapSetNBits s₁.bitmap l (bytesABloques c n) }
        i ⟨x, metadataDe (ext x)⟩ ⟨l, n⟩) := by
  have hbs : 0 < c.blockSize := hc.blockSize_pos
  have hancho := h.anchos x hx
  obtain ⟨s₁, ext', l, hrun, hfin, hnombres⟩ :=
    compactarOcupados_spec hc ((maxBit c).toNat + 1) 0 (h.compactando hc hx hi)
      hc.maxBit_pos.le (fun b h1 h2 => by omega) (by have := hc.maxBit_pos; push_cast; omega)
  have hinv := hfin.compactando
  have h0 := hfin.nonneg
  -- the other files take the first `l` blocks, so `x` fits after them with its old and new blocks
  have hsum := hinv.guarda.sum_of_packed h0 hfin.le hfin.ocupados hfin.libres
  have hsum' : ∑ m ∈ N.erase x, (ext' m).width = ∑ m ∈ N.erase x, (ext m).width := by
    refine Finset.sum_congr rfl fun m hm => ?_
    rw [hinv.anchos m hm, hfin.bytes m, h.anchos m (Finset.mem_of_mem_erase hm)]
  have hlibres := h.guarda.free_add_sum hc.maxBit_pos.le
  rw [← cantidadBloquesLibres_eq hc, ← Finset.add_sum_erase N _ hx] at hlibres
  have hnuevo : l + bytesABloques c n ≤ maxBit c := by omega
  have hpropios : l + (ext x).width ≤ maxBit c := by
    have hnonneg : 0 ≤ cantidadBloquesLibres c s := by
      rw [cantidadBloquesLibres_eq hc]
      exact Int.natCast_nonneg _
    omega
  have hsound := h.guarda.sound x hx
  have hpos := hsound.width_pos
  have hultimo : posicionBloqueLibre c s₁ = l := by
    rcases posicionBloqueLibre_spec hc s₁ with ⟨-, hall⟩ | ⟨h1, h2, hlibre, hprimero⟩
    · have hocupado := hall l h0 (by omega)
      rw [hfin.libres l le_rfl (by omega)] at hocupado
      cases hocupado
    · apply le_antisymm
      · by_contra hlt
        have hocupado := hprimero l h0 (by omega)
        rw [hfin.libres l le_rfl (by omega)] at hocupado
        cases hocupado
      · by_contra hlt
        rw [hfin.ocupados _ h1 (by omega)] at hlibre
        cases hlibre
  have hmapeo : EnMapeo c (l * c.blockSize) (ext x).bytes.length :=
    enMapeo_bytes (e := { ext x with start := l }) hc ⟨hpos, h0, hpropios, hsound.fits⟩
  refine ⟨s₁, ext', l, hfin, hnombres, hnuevo, ?_⟩
  unfold DialFS.compactarFileSystem
  simp only [Option.bind_eq_bind]
  show (leerBloques c s.datosBloques ((ext x).start * c.blockSize) (ext x).bytes.length).bind _ = _
  rw [leerBloques_stored hc h.guarda hx, Option.bind_some]
  show (limpiarNBytesBloques c s.datosBloques ((ext x).start * c.blockSize)
    (ext x).bytes.length).bind _ = _
  rw [limpiarNBytesBloques_eq _ (enMapeo_bytes hc hsound), Option.bind_some]
  rw [hancho] at hrun
  show (compactarOcupados c _ { s with
    datosBloques := fun j =>
      if (ext x).start * c.blockSize ≤ j ∧
        j < (ext x).start * c.blockSize + (ext x).bytes.length then 0 else s.datosBloques j
    bitmap := bitmapCleanNBits s.bitmap (ext x).start
      (bytesABloques c (ext x).bytes.length) }).bind _ = _
  rw [hrun, Option.bind_some, hultimo]
  show (escribirBloques c _ (l * c.blockSize) (ext x).bytes (ext x).bytes.length).bind _ = _
  rw [escribirBloques_length _ hmapeo]
  rfl

/-- **The compaction** keeps every other file and resizes `x`, whenever the free blocks and its own
are enough. -/
theorem Invariante.compactarFileSystem (hc : c.Valida) (h : Invariante c N ext s) (hx : x ∈ N)
    (hi : s.listaArchivos[i]? = some ⟨x, metadataDe (ext x)⟩) {n : ℕ}
    (hn : (ext x).bytes.length ≤ n)
    (hcabe : bytesABloques c n ≤ cantidadBloquesLibres c s + (ext x).width) :
    ∃ s' ext', compactarFileSystem c s i ⟨x, metadataDe (ext x)⟩ n = some s' ∧
      Invariante c N ext' s' ∧ (∀ m, m ≠ x → (ext' m).bytes = (ext m).bytes) ∧
      (ext' x).bytes = resize n (ext x).bytes := by
  obtain ⟨s₁, ext', l, hfin, -, hnuevo, hcompactar⟩ := h.compactarFileSystem_eq hc hx hi hcabe
  have hinv := hfin.compactando
  have hlen : (resize n (ext x).bytes).length = n := length_resize n _
  have hsound : Extent.Sound c.blockSize (maxBit c)
      ⟨l, bytesABloques c n, resize n (ext x).bytes⟩ :=
    ⟨bytesABloques_pos hc (by omega), hfin.nonneg, hnuevo,
      by rw [hlen]; exact le_bytesABloques_mul hc (by omega)⟩
  refine ⟨_, Function.update ext' x ⟨l, bytesABloques c n, resize n (ext x).bytes⟩, hcompactar,
    ⟨?_, ?_, ?_⟩, ?_, ?_⟩
  · have hplace := hinv.guarda.place hc.blockSize_pos (Finset.notMem_erase x N) hsound hn rfl
      (fun b hb => hfin.libres b hb.1 (lt_of_lt_of_le hb.2 hnuevo))
      (fun b => bitmapSetNBits_apply _ _ _ b) (fun j => rfl)
    rw [Finset.insert_erase hx] at hplace
    exact hplace
  · refine anchos_update (fun m hm hne => Finset.mem_erase.2 ⟨hne, hm⟩) hinv.anchos ?_
    rw [hlen]
  · rw [metadataDe_update, metadataDe_resize,
      ← Function.update_idem (metadataDe (ext x)) _ (fun n => metadataDe (ext' n))]
    exact hinv.catalogo.guardar hinv.posicion _ rfl rfl
  · intro m hm
    rw [Function.update_of_ne hm, hfin.bytes m]
  · rw [Function.update_self]

end SimuladorSO.DialFS
