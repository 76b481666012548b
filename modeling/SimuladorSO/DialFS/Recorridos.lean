import SimuladorSO.DialFS.Compactacion

/-!
# The disks a compaction comes back on

The loop of `compactar_file_system` on any disk.  It reads the bitmap it began with from left to
right: what it packs is left behind, and what it has not reached is as it was.  So whether it comes
back is read off the bitmap and the list of files before it begins.

* `Recorre c s desde archivos`: the files that the bitmap meets from a block on;
* `Compactable`: when a compaction comes back;
* `EnRecorrido c s₀ l d t`: the invariant of the loop, which has packed up to the block `l` and read
  up to the block `d`;
* `compactarOcupados_iff`, `compactarFileSystem_isSome_iff`: the loop, and the compaction, come back
  exactly on those disks.
-/

namespace SimuladorSO.DialFS

open Loops CInt

variable {c : InoutConfig} {s s₀ t : Estado}

/-- Read from the block `desde` on, the bitmap meets these files: an occupied block is taken for the
first one of the file that the search by first block answers, whose bytes from there on are in the
mapping, and the reading goes on after the blocks of that file. -/
def Recorre (c : InoutConfig) (s : Estado) : ℤ → List Archivo → Prop
  | desde, [] => bloqueOcupadoDesde c s desde = -1
  | desde, a :: archivos =>
    bloqueOcupadoDesde c s desde ≠ -1 ∧
    (∃ i, obtenerArchivoPorBloqueInicial s (bloqueOcupadoDesde c s desde) = some (i, a)) ∧
    0 ≤ a.config.tamanioArchivo ∧
    EnMapeo c (bloqueOcupadoDesde c s desde * c.blockSize) a.config.tamanioArchivo ∧
    Recorre c s (bloqueOcupadoDesde c s desde + bytesABloques c a.config.tamanioArchivo) archivos

/-- The blocks of some files. -/
def bloquesDe (c : InoutConfig) (archivos : List Archivo) : ℤ :=
  (archivos.map fun a => bytesABloques c a.config.tamanioArchivo).sum

/-- The disk with the blocks of a file free. -/
def sinBloques (c : InoutConfig) (s : Estado) (a : Archivo) : Estado :=
  { s with
    bitmap := bitmapCleanNBits s.bitmap a.config.bloqueInicial
      (bytesABloques c a.config.tamanioArchivo) }

/-- The state in which the loop of `compactar_file_system` begins: the bytes of the file are zeroed
and its blocks are free. -/
def antesDelLazo (c : InoutConfig) (s : Estado) (archivoTruncado : Archivo) : Option Estado :=
  (limpiarNBytesBloques c s.datosBloques (archivoTruncado.config.bloqueInicial * c.blockSize)
    archivoTruncado.config.tamanioArchivo).map fun limpios =>
      { s with
        datosBloques := limpios
        bitmap := bitmapCleanNBits s.bitmap archivoTruncado.config.bloqueInicial
          (bytesABloques c archivoTruncado.config.tamanioArchivo) }

/-- When a compaction that enlarges a file comes back: its bytes are in the mapping where they are
and, unless no block is free once its own are, the bitmap read from the first free block on meets
files, after which, packed, the bytes of the file are still in the mapping. -/
def Compactable (c : InoutConfig) (s : Estado) (a : Archivo) : Prop :=
  0 ≤ a.config.tamanioArchivo ∧
  EnMapeo c (a.config.bloqueInicial * c.blockSize) a.config.tamanioArchivo ∧
  (posicionBloqueLibre c (sinBloques c s a) = -1 ∨
    ∃ archivos, Recorre c (sinBloques c s a) (posicionBloqueLibre c (sinBloques c s a)) archivos ∧
      EnMapeo c ((posicionBloqueLibre c (sinBloques c s a) + bloquesDe c archivos) * c.blockSize)
        a.config.tamanioArchivo)

/-! ### The searches -/

/-- The first free block is the only one that is free with all those before it occupied. -/
theorem posicionBloqueLibre_eq (hc : c.Valida) {l : ℤ} (h0 : 0 ≤ l) (hl : l < maxBit c)
    (hocupados : ∀ b, 0 ≤ b → b < l → s.bitmap b = true) (hlibre : s.bitmap l = false) :
    posicionBloqueLibre c s = l := by
  rcases posicionBloqueLibre_spec hc s with ⟨-, hall⟩ | ⟨h1, -, hfree, hprimero⟩
  · rw [hall l h0 hl] at hlibre
    cases hlibre
  · apply le_antisymm
    · by_contra hlt
      rw [hprimero l h0 (by omega)] at hlibre
      cases hlibre
    · by_contra hlt
      rw [hocupados _ h1 (by omega)] at hfree
      cases hfree

/-- The search for an occupied block passes over the free ones, and depends on the rest. -/
theorem bloqueOcupadoDesde_eq {l d : ℤ} (hld : l ≤ d) (hd : d ≤ maxBit c)
    (hlibres : ∀ b, l ≤ b → b < d → t.bitmap b = false)
    (hresto : ∀ b, d ≤ b → t.bitmap b = s.bitmap b) :
    bloqueOcupadoDesde c t l = bloqueOcupadoDesde c s d := by
  rcases bloqueOcupadoDesde_spec (hld.trans hd) t with ⟨hl, hnone⟩ | ⟨h1, h2, h3, h4⟩ <;>
    rcases bloqueOcupadoDesde_spec hd s with ⟨hd', hnone'⟩ | ⟨h1', h2', h3', h4'⟩
  · rw [hl, hd']
  · have hlibre := hnone _ (by omega) h2'
    rw [hresto _ h1', h3'] at hlibre
    cases hlibre
  · have hdl : d ≤ bloqueOcupadoDesde c t l := by
      by_contra hlt
      rw [hlibres _ h1 (by omega)] at h3
      cases h3
    rw [hresto _ hdl, hnone' _ hdl h2] at h3
    cases h3
  · have hdl : d ≤ bloqueOcupadoDesde c t l := by
      by_contra hlt
      rw [hlibres _ h1 (by omega)] at h3
      cases h3
    apply le_antisymm
    · by_contra hlt
      have hlibre := h4 _ (by omega) (not_le.1 hlt)
      rw [hresto _ h1', h3'] at hlibre
      cases hlibre
    · by_contra hlt
      have hlibre := h4' _ hdl (not_le.1 hlt)
      rw [← hresto _ hdl, h3] at hlibre
      cases hlibre

/-- The position that a search answers is that of the first file it looks for among all but the last
one, or the last position. -/
theorem getD_findIdx? {α : Type*} (p : α → Bool) (lista : List α) :
    (lista.findIdx? p).getD (lista.length - 1) = lista.dropLast.findIdx p := by
  induction lista with
  | nil => rfl
  | cons a lista ih =>
    cases lista with
    | nil => cases hp : p a <;> simp [hp]
    | cons b lista =>
      rw [List.findIdx?_cons, List.dropLast_cons_cons, List.findIdx_cons]
      cases hp : p a with
      | true => rfl
      | false =>
        simp only [Bool.false_eq_true, if_false, cond_false]
        rw [← ih]
        cases (b :: lista).findIdx? p <;> simp

/-- A search answers the file at the position it stops at. -/
theorem obtenerArchivo_eq (p : Archivo → Bool) (lista : List Archivo) :
    obtenerArchivo p lista =
      lista[lista.dropLast.findIdx p]?.map fun a => (lista.dropLast.findIdx p, a) := by
  rw [← getD_findIdx?]
  rfl

/-- The file that begins at a block. -/
abbrev empiezaEn (b : ℤ) (a : Archivo) : Bool := decide (a.config.bloqueInicial = b)

theorem obtenerArchivoPorBloqueInicial_eq_some {b : ℤ} {i : ℕ} {a : Archivo} :
    obtenerArchivoPorBloqueInicial s b = some (i, a) ↔
      s.listaArchivos.dropLast.findIdx (empiezaEn b) = i ∧ s.listaArchivos[i]? = some a := by
  unfold obtenerArchivoPorBloqueInicial
  rw [obtenerArchivo_eq, Option.map_eq_some_iff]
  constructor
  · rintro ⟨a', ha', heq⟩
    obtain ⟨rfl, rfl⟩ := Prod.mk.inj heq
    exact ⟨rfl, ha'⟩
  · rintro ⟨rfl, ha⟩
    exact ⟨a, ha, rfl⟩

/-- Giving the file found for a block another first block does not change where the search for a
third block stops: the file was found at its own block, or is the last one, which that search does
not test. -/
theorem findIdx_guardar {lista : List Archivo} {b b' : ℤ} {a a' : Archivo}
    (h : lista[lista.dropLast.findIdx (empiezaEn b)]? = some a) (hb : b ≠ b')
    (ha' : a'.config.bloqueInicial ≠ b') :
    (lista.set (lista.dropLast.findIdx (empiezaEn b)) a').dropLast.findIdx (empiezaEn b') =
      lista.dropLast.findIdx (empiezaEn b') := by
  have hmap : (lista.set (lista.dropLast.findIdx (empiezaEn b)) a').dropLast.map (empiezaEn b') =
      lista.dropLast.map (empiezaEn b') := by
    apply List.ext_getElem?
    intro j
    simp only [List.getElem?_map, List.getElem?_dropLast, List.length_set]
    split_ifs with hj
    · by_cases hij : lista.dropLast.findIdx (empiezaEn b) = j
      · have hlt : lista.dropLast.findIdx (empiezaEn b) < lista.dropLast.length := by
          rw [List.length_dropLast]
          omega
        have hempieza : empiezaEn b a = true := by
          have hget : lista.dropLast[lista.dropLast.findIdx (empiezaEn b)]? = some a := by
            rw [List.getElem?_dropLast, if_pos (by rwa [List.length_dropLast] at hlt)]
            exact h
          exact List.findIdx_of_getElem?_eq_some hget
        have hab : a.config.bloqueInicial = b := of_decide_eq_true hempieza
        rw [← hij, List.getElem?_set_self (List.getElem?_eq_some_iff.1 h).1, h, Option.map_some,
          Option.map_some, empiezaEn, empiezaEn, decide_eq_false ha',
          decide_eq_false (by rw [hab]; exact hb)]
      · rw [List.getElem?_set_ne hij]
    · rfl
  calc _ = (List.map (empiezaEn b') _).findIdx id := (List.findIdx_map _ _ _).symm
    _ = (List.map (empiezaEn b') _).findIdx id := by rw [hmap]
    _ = _ := List.findIdx_map _ _ _

/-! ### One iteration -/

/-- Moving a file back comes back exactly when the search answers one whose bytes are in the mapping
from the block looked for on. -/
theorem moverArchivo_eq (hc : c.Valida) {l b : ℤ} (hl0 : 0 ≤ l) (hlb : l ≤ b) {i : ℕ} {a : Archivo}
    (hobt : obtenerArchivoPorBloqueInicial t b = some (i, a)) (h0 : 0 ≤ a.config.tamanioArchivo)
    (hmapeo : EnMapeo c (b * c.blockSize) a.config.tamanioArchivo) :
    ∃ t', moverArchivo c t l b = some t' ∧
      t'.bitmap = bitmapSetNBits (bitmapCleanNBits t.bitmap b
        (bytesABloques c a.config.tamanioArchivo)) l (bytesABloques c a.config.tamanioArchivo) ∧
      t'.listaArchivos =
        t.listaArchivos.set i ⟨a.nombreArchivo, ⟨l, a.config.tamanioArchivo⟩⟩ := by
  have hbs := hc.blockSize_pos
  have hmapeo' : EnMapeo c (l * c.blockSize) a.config.tamanioArchivo := by
    intro hpos
    have hle : l * c.blockSize ≤ b * c.blockSize := mul_le_mul_of_nonneg_right hlb (by omega)
    have hnonneg : 0 ≤ l * c.blockSize := mul_nonneg hl0 (by omega)
    exact ⟨hnonneg, by have := (hmapeo hpos).2; omega⟩
  have hlong : a.config.tamanioArchivo ≤
      (((List.range a.config.tamanioArchivo.toNat).map
        fun k : ℕ => t.datosBloques (b * c.blockSize + k)).length : ℤ) := by
    rw [List.length_map, List.length_range]
    omega
  unfold moverArchivo leerBloques limpiarNBytesBloques escribirBloques
  rw [hobt]
  simp only [Option.bind_eq_bind, Option.bind_some]
  rw [if_pos ⟨h0, hmapeo⟩, if_pos hmapeo]
  simp only [Option.bind_some]
  rw [if_pos ⟨⟨h0, hlong⟩, hmapeo'⟩]
  exact ⟨_, rfl, rfl, rfl⟩

theorem moverArchivo_isSome {l b : ℤ} {t' : Estado} (h : moverArchivo c t l b = some t') :
    ∃ i a, obtenerArchivoPorBloqueInicial t b = some (i, a) ∧ 0 ≤ a.config.tamanioArchivo ∧
      EnMapeo c (b * c.blockSize) a.config.tamanioArchivo := by
  unfold moverArchivo at h
  obtain ⟨⟨i, a⟩, hobt, h⟩ := Option.bind_eq_some_iff.1 h
  obtain ⟨datosArchivo, hleer, -⟩ := Option.bind_eq_some_iff.1 h
  unfold leerBloques at hleer
  rcases ite_eq_iff.1 hleer with ⟨⟨h0, hmapeo⟩, -⟩ | ⟨-, h⟩
  · exact ⟨i, a, hobt, h0, hmapeo⟩
  · cases h

/-- The blocks of a file whose bytes are in the mapping are blocks of the bitmap. -/
theorem add_bytesABloques_le (hc : c.Valida) {b n : ℤ} (hb : b < maxBit c) (h0 : 0 ≤ n)
    (hmapeo : EnMapeo c (b * c.blockSize) n) : b + bytesABloques c n ≤ maxBit c := by
  have hbs : 0 < c.blockSize := hc.blockSize_pos
  unfold bytesABloques
  split_ifs with hn
  · omega
  · have hfin := (hmapeo (by omega)).2
    have hle : ceilDiv n c.blockSize ≤ c.blockCount - b := by
      rw [ceilDiv_le_iff hbs, sub_mul, mul_comm c.blockCount]
      omega
    rw [hc.maxBit_eq]
    omega

/-! ### The loop -/

/-- The head of a loop that begins in `s₀`, once it has packed up to the block `l` and read up to
the block `d`. -/
structure EnRecorrido (c : InoutConfig) (s₀ : Estado) (l d : ℤ) (t : Estado) : Prop where
  nonneg : 0 ≤ l
  lt : l < maxBit c
  le : l ≤ d
  le_max : d ≤ maxBit c
  ocupados : ∀ b, 0 ≤ b → b < l → t.bitmap b = true
  libre : t.bitmap l = false
  libres : ∀ b, l ≤ b → b < d → t.bitmap b = false
  resto : ∀ b, d ≤ b → t.bitmap b = s₀.bitmap b
  tamanios : t.listaArchivos.map (fun a => a.config.tamanioArchivo) =
    s₀.listaArchivos.map fun a => a.config.tamanioArchivo
  busqueda : ∀ b, d ≤ b → t.listaArchivos.dropLast.findIdx (empiezaEn b) =
    s₀.listaArchivos.dropLast.findIdx (empiezaEn b)

/-- The loop begins at the first free block. -/
theorem EnRecorrido.inicio (hc : c.Valida) (h : posicionBloqueLibre c s₀ ≠ -1)
    (hbitmap : t.bitmap = s₀.bitmap) (hlista : t.listaArchivos = s₀.listaArchivos) :
    EnRecorrido c s₀ (posicionBloqueLibre c s₀) (posicionBloqueLibre c s₀) t := by
  rcases posicionBloqueLibre_spec hc s₀ with ⟨hneg, -⟩ | ⟨h0, hlt, hlibre, hprimero⟩
  · exact absurd hneg h
  · rw [← hbitmap] at hlibre hprimero
    exact ⟨h0, hlt, le_rfl, hlt.le, hprimero, hlibre, fun b h1 h2 => by omega,
      fun _ _ => by rw [hbitmap], by rw [hlista], fun _ _ => by rw [hlista]⟩

variable {l d : ℤ}

theorem EnRecorrido.posicion (hc : c.Valida) (h : EnRecorrido c s₀ l d t) :
    posicionBloqueLibre c t = l :=
  posicionBloqueLibre_eq hc h.nonneg h.lt h.ocupados h.libre

/-- The block looked for is the first occupied one that was not read. -/
theorem EnRecorrido.bloqueAMover_eq (hc : c.Valida) (h : EnRecorrido c s₀ l d t) :
    bloqueAMover c t = bloqueOcupadoDesde c s₀ d := by
  unfold bloqueAMover
  rw [h.posicion hc, if_neg (by have := h.nonneg; omega)]
  exact bloqueOcupadoDesde_eq h.le h.le_max h.libres h.resto

/-- A search for a block that was not read answers the file it answered before the loop, which may
have moved but has its size. -/
theorem EnRecorrido.obtener_iff (h : EnRecorrido c s₀ l d t) {b : ℤ} (hb : d ≤ b) (i : ℕ) (n : ℤ) :
    (∃ a, obtenerArchivoPorBloqueInicial t b = some (i, a) ∧ a.config.tamanioArchivo = n) ↔
      ∃ a, obtenerArchivoPorBloqueInicial s₀ b = some (i, a) ∧ a.config.tamanioArchivo = n := by
  have hget : (t.listaArchivos[i]?).map (fun a => a.config.tamanioArchivo) =
      (s₀.listaArchivos[i]?).map fun a => a.config.tamanioArchivo := by
    rw [← List.getElem?_map, h.tamanios, List.getElem?_map]
  have hiff : (∃ a, t.listaArchivos[i]? = some a ∧ a.config.tamanioArchivo = n) ↔
      ∃ a, s₀.listaArchivos[i]? = some a ∧ a.config.tamanioArchivo = n := by
    rw [← Option.map_eq_some_iff, hget, Option.map_eq_some_iff]
  simp only [obtenerArchivoPorBloqueInicial_eq_some, h.busqueda b hb, and_assoc, exists_and_left,
    hiff]

/-- **One iteration** moves the file that the disk had at the block looked for, and reads on after
it. -/
theorem EnRecorrido.moverArchivo (hc : c.Valida) (h : EnRecorrido c s₀ l d t) {b : ℤ} (hdb : d ≤ b)
    (hb : b < maxBit c) (hocupado : s₀.bitmap b = true)
    (hlibres : ∀ j, d ≤ j → j < b → s₀.bitmap j = false) {i : ℕ} {a : Archivo}
    (hobt : obtenerArchivoPorBloqueInicial s₀ b = some (i, a)) (h0 : 0 ≤ a.config.tamanioArchivo)
    (hmapeo : EnMapeo c (b * c.blockSize) a.config.tamanioArchivo) :
    ∃ t', moverArchivo c t l b = some t' ∧
      EnRecorrido c s₀ (l + bytesABloques c a.config.tamanioArchivo)
        (b + bytesABloques c a.config.tamanioArchivo) t' := by
  obtain ⟨a', hobt', htamanio⟩ := (h.obtener_iff hdb i _).2 ⟨a, hobt, rfl⟩
  obtain ⟨hi, hget⟩ := obtenerArchivoPorBloqueInicial_eq_some.1 hobt'
  have hl0 := h.nonneg
  have hk := bytesABloques_pos hc h0
  have hfin := add_bytesABloques_le hc hb h0 hmapeo
  -- the gap between what is packed and what is read
  have hlb : l < b := by
    rcases lt_or_eq_of_le (h.le.trans hdb) with hlt | heq
    · exact hlt
    · have hlibre := h.libre
      rw [heq, h.resto b hdb, hocupado] at hlibre
      cases hlibre
  have hhueco : ∀ j, l ≤ j → j < b → t.bitmap j = false := by
    intro j h1 h2
    by_cases hj : j < d
    · exact h.libres j h1 hj
    · rw [h.resto j (by omega)]
      exact hlibres j (by omega) h2
  rw [← htamanio] at h0 hmapeo hk hfin ⊢
  obtain ⟨t', hmover, hbitmap, hlista⟩ := moverArchivo_eq hc hl0 hlb.le hobt' h0 hmapeo
  have hbit : ∀ j, t'.bitmap j =
      if l ≤ j ∧ j < l + bytesABloques c a'.config.tamanioArchivo then true
      else if b ≤ j ∧ j < b + bytesABloques c a'.config.tamanioArchivo then false
      else t.bitmap j := by
    intro j
    rw [hbitmap, bitmapSetNBits_apply, bitmapCleanNBits_apply]
  refine ⟨t', hmover, by omega, by omega, by omega, hfin, ?_, ?_, ?_, ?_, ?_, ?_⟩
  · intro j h1 h2
    rw [hbit j]
    by_cases hj : l ≤ j
    · rw [if_pos ⟨hj, h2⟩]
    · rw [if_neg (by omega), if_neg (by omega)]
      exact h.ocupados j h1 (by omega)
  · rw [hbit, if_neg (by omega)]
    split_ifs with hj
    · rfl
    · exact hhueco _ (by omega) (by omega)
  · intro j h1 h2
    rw [hbit j, if_neg (by omega)]
    split_ifs with hj
    · rfl
    · exact hhueco j (by omega) (by omega)
  · intro j hj
    rw [hbit j, if_neg (by omega), if_neg (by omega)]
    exact h.resto j (by omega)
  · rw [hlista, ← h.tamanios]
    exact Keyed.map_set hget rfl
  · intro j hj
    rw [← hi] at hget
    rw [hlista, ← hi, ← h.busqueda j (by omega)]
    exact findIdx_guardar hget (by omega) (show l ≠ j by omega)

/-- A file is read as the code does before it is moved. -/
theorem recorre_cons {a : Archivo} {archivos : List Archivo} :
    Recorre c s d (a :: archivos) ↔
      bloqueOcupadoDesde c s d ≠ -1 ∧
      (∃ i, obtenerArchivoPorBloqueInicial s (bloqueOcupadoDesde c s d) = some (i, a)) ∧
      0 ≤ a.config.tamanioArchivo ∧
      EnMapeo c (bloqueOcupadoDesde c s d * c.blockSize) a.config.tamanioArchivo ∧
      Recorre c s (bloqueOcupadoDesde c s d + bytesABloques c a.config.tamanioArchivo) archivos :=
  Iff.rfl

/-- **The loop comes back exactly when the bitmap it has to read meets files**, and then the first
free block is the one after them. -/
theorem compactarOcupados_iff (hc : c.Valida) (fuel : ℕ) (h : EnRecorrido c s₀ l d t)
    (hfuel : maxBit c ≤ l + fuel) (m : ℤ) :
    (∃ t', compactarOcupados c fuel t = some t' ∧ posicionBloqueLibre c t' = m) ↔
      ∃ archivos, Recorre c s₀ d archivos ∧ l + bloquesDe c archivos = m := by
  induction fuel generalizing l d t with
  | zero => have := h.lt; omega
  | succ fuel ih =>
    have hpaso : compactarOcupados c (fuel + 1) t = if bloqueAMover c t = -1 then some t
      else (moverArchivo c t (posicionBloqueLibre c t) (bloqueAMover c t)).bind
        (compactarOcupados c fuel) := rfl
    rw [hpaso, h.bloqueAMover_eq hc, h.posicion hc]
    rcases bloqueOcupadoDesde_spec h.le_max s₀ with ⟨hfin, -⟩ | ⟨hdb, hb, hocupado, hlibres⟩
    · rw [if_pos hfin]
      constructor
      · rintro ⟨t', ht', hm⟩
        cases ht'
        exact ⟨[], hfin, by rw [← hm, h.posicion hc]; exact add_zero l⟩
      · rintro ⟨archivos, hrecorre, hm⟩
        cases archivos with
        | nil => exact ⟨t, rfl, by rw [h.posicion hc, ← hm]; exact (add_zero l).symm⟩
        | cons a archivos => exact absurd hfin (recorre_cons.1 hrecorre).1
    · have hsigue : bloqueOcupadoDesde c s₀ d ≠ -1 := by
        have := h.nonneg
        have := h.le
        omega
      rw [if_neg hsigue]
      constructor
      · rintro ⟨t', ht', hm⟩
        obtain ⟨t₁, hmover, hrun⟩ := Option.bind_eq_some_iff.1 ht'
        obtain ⟨i, a', hobt', h0, hmapeo⟩ := moverArchivo_isSome hmover
        obtain ⟨a, hobt, htamanio⟩ := (h.obtener_iff hdb i _).1 ⟨a', hobt', rfl⟩
        rw [← htamanio] at h0 hmapeo
        obtain ⟨t₁', hmover', h₁⟩ :=
          h.moverArchivo hc hdb hb hocupado hlibres hobt h0 hmapeo
        rw [hmover] at hmover'
        cases hmover'
        have hk := bytesABloques_pos hc h0
        obtain ⟨archivos, hrecorre, hm'⟩ :=
          (ih h₁ (by push_cast at hfuel; omega)).1 ⟨t', hrun, hm⟩
        refine ⟨a :: archivos, recorre_cons.2 ⟨hsigue, ⟨_, hobt⟩, h0, hmapeo, hrecorre⟩, ?_⟩
        rw [← hm']
        unfold bloquesDe
        rw [List.map_cons, List.sum_cons]
        ring
      · rintro ⟨archivos, hrecorre, hm⟩
        cases archivos with
        | nil => exact absurd hrecorre hsigue
        | cons a archivos =>
          obtain ⟨-, ⟨i, hobt⟩, h0, hmapeo, hrecorre⟩ := recorre_cons.1 hrecorre
          obtain ⟨t₁, hmover, h₁⟩ := h.moverArchivo hc hdb hb hocupado hlibres hobt h0 hmapeo
          have hk := bytesABloques_pos hc h0
          rw [hmover, Option.bind_some]
          refine (ih h₁ (by push_cast at hfuel; omega)).2 ⟨archivos, hrecorre, ?_⟩
          rw [← hm]
          unfold bloquesDe
          rw [List.map_cons, List.sum_cons]
          ring

/-! ### The compaction -/

/-- A disk with no free block, once those of a file are, is one where the file has no bytes. -/
theorem enMapeo_of_lleno (hc : c.Valida) {a : Archivo}
    (hmapeo : EnMapeo c (a.config.bloqueInicial * c.blockSize) a.config.tamanioArchivo)
    (hlleno : posicionBloqueLibre c (sinBloques c s a) = -1) :
    ¬ 0 < a.config.tamanioArchivo := by
  intro hpos
  have hbs : 0 < c.blockSize := hc.blockSize_pos
  obtain ⟨h0, hfin⟩ := hmapeo hpos
  have hb0 : 0 ≤ a.config.bloqueInicial := nonneg_of_mul_nonneg_left h0 hbs
  have hb : a.config.bloqueInicial < maxBit c := by
    rw [hc.maxBit_eq]
    refine lt_of_mul_lt_mul_right ?_ hbs.le
    rw [mul_comm c.blockCount]
    omega
  have hk := bytesABloques_pos hc hpos.le
  rcases posicionBloqueLibre_spec hc (sinBloques c s a) with ⟨-, hall⟩ | ⟨h1, -⟩
  · have hocupado := hall _ hb0 hb
    unfold sinBloques at hocupado
    simp only [bitmapCleanNBits_apply] at hocupado
    rw [if_pos ⟨le_rfl, by omega⟩] at hocupado
    cases hocupado
  · omega

/-- With no free block the loop has nothing to move. -/
theorem compactarOcupados_lleno {fuel : ℕ} (h : posicionBloqueLibre c t = -1) :
    compactarOcupados c (fuel + 1) t = some t := by
  have hpaso : compactarOcupados c (fuel + 1) t = if bloqueAMover c t = -1 then some t
    else (moverArchivo c t (posicionBloqueLibre c t) (bloqueAMover c t)).bind
      (compactarOcupados c fuel) := rfl
  rw [hpaso]
  exact if_pos (if_pos h)

/-- A range of the mapping is read into a buffer of its size. -/
theorem leerBloques_eq_some (datos : ℤ → UInt8) {b n : ℤ} (h0 : 0 ≤ n) (h : EnMapeo c b n) :
    ∃ bytes, leerBloques c datos b n = some bytes ∧ n ≤ bytes.length := by
  refine ⟨_, if_pos ⟨h0, h⟩, ?_⟩
  rw [List.length_map, List.length_range]
  omega

/-- A compaction comes back when its loop does, and leaves room for the bytes of the file. -/
theorem compactarFileSystem_isSome_lazo {i : ℕ} {a : Archivo} {n : ℤ} :
    (∃ s', compactarFileSystem c s i a n = some s') ↔
      0 ≤ a.config.tamanioArchivo ∧ ∃ s₀ t, antesDelLazo c s a = some s₀ ∧
        compactarOcupados c ((maxBit c).toNat + 1) s₀ = some t ∧
        EnMapeo c (posicionBloqueLibre c t * c.blockSize) a.config.tamanioArchivo := by
  constructor
  · rintro ⟨s', h⟩
    unfold compactarFileSystem at h
    obtain ⟨bytes, hleer, h⟩ := Option.bind_eq_some_iff.1 h
    obtain ⟨limpios, hlimpiar, h⟩ := Option.bind_eq_some_iff.1 h
    obtain ⟨t, hrun, h⟩ := Option.bind_eq_some_iff.1 h
    obtain ⟨datos, hescribir, -⟩ := Option.bind_eq_some_iff.1 h
    have h0 : 0 ≤ a.config.tamanioArchivo := by
      rcases ite_eq_iff.1 hleer with ⟨⟨h0, -⟩, -⟩ | ⟨-, h⟩
      · exact h0
      · cases h
    refine ⟨h0, _, t, Option.map_eq_some_iff.2 ⟨limpios, hlimpiar, rfl⟩, hrun, ?_⟩
    rcases ite_eq_iff.1 hescribir with ⟨⟨-, h⟩, -⟩ | ⟨-, h⟩
    · exact h
    · cases h
  · rintro ⟨h0, s₀, t, hantes, hrun, h⟩
    obtain ⟨limpios, hlimpiar, rfl⟩ := Option.map_eq_some_iff.1 hantes
    have hmapeo : EnMapeo c (a.config.bloqueInicial * c.blockSize) a.config.tamanioArchivo := by
      rcases ite_eq_iff.1 hlimpiar with ⟨hmapeo, -⟩ | ⟨-, h⟩
      · exact hmapeo
      · cases h
    obtain ⟨bytes, hleer, hlong⟩ := leerBloques_eq_some s.datosBloques h0 hmapeo
    unfold compactarFileSystem
    simp only [Option.bind_eq_bind]
    rw [hleer, Option.bind_some, hlimpiar, Option.bind_some, hrun, Option.bind_some]
    exact ⟨_, Option.bind_eq_some_iff.2 ⟨_, if_pos ⟨⟨h0, hlong⟩, h⟩, rfl⟩⟩

/-- The loop begins with the bitmap and the files of `sinBloques`. -/
theorem antesDelLazo_eq_some {a : Archivo}
    (hmapeo : EnMapeo c (a.config.bloqueInicial * c.blockSize) a.config.tamanioArchivo) :
    ∃ s₀, antesDelLazo c s a = some s₀ ∧ s₀.bitmap = (sinBloques c s a).bitmap ∧
      s₀.listaArchivos = s.listaArchivos :=
  ⟨_, Option.map_eq_some_iff.2 ⟨_, if_pos hmapeo, rfl⟩, rfl, rfl⟩

/-- **A compaction comes back exactly on the disks that are `Compactable`.** -/
theorem compactarFileSystem_isSome_iff (hc : c.Valida) {i : ℕ} {a : Archivo} {n : ℤ} :
    (∃ s', compactarFileSystem c s i a n = some s') ↔ Compactable c s a := by
  rw [compactarFileSystem_isSome_lazo]
  refine and_congr_right fun h0 => ?_
  by_cases hmapeo : EnMapeo c (a.config.bloqueInicial * c.blockSize) a.config.tamanioArchivo
  · rw [and_iff_right hmapeo]
    obtain ⟨s₀, hantes, hbitmap, hlista⟩ := antesDelLazo_eq_some (s := s) hmapeo
    by_cases hlleno : posicionBloqueLibre c (sinBloques c s a) = -1
    · have hlleno' : posicionBloqueLibre c s₀ = -1 := by
        unfold posicionBloqueLibre at hlleno ⊢
        rw [hbitmap]
        exact hlleno
      refine iff_of_true ⟨s₀, s₀, hantes, compactarOcupados_lleno hlleno', ?_⟩ (Or.inl hlleno)
      exact fun hbytes => absurd hbytes (enMapeo_of_lleno hc hmapeo hlleno)
    · rw [or_iff_right hlleno]
      have hinicio := EnRecorrido.inicio hc hlleno hbitmap hlista
      have hlazo := compactarOcupados_iff hc ((maxBit c).toNat + 1) hinicio
        (by have := hinicio.nonneg; have := hc.maxBit_pos; push_cast; omega)
      constructor
      · rintro ⟨s₀', t', hantes', hrun, h⟩
        rw [hantes] at hantes'
        cases hantes'
        obtain ⟨archivos, hrecorre, hm⟩ := (hlazo _).1 ⟨t', hrun, rfl⟩
        exact ⟨archivos, hrecorre, by rw [hm]; exact h⟩
      · rintro ⟨archivos, hrecorre, h⟩
        obtain ⟨t', hrun, hm⟩ := (hlazo _).2 ⟨archivos, hrecorre, rfl⟩
        exact ⟨s₀, t', hantes, hrun, by rw [hm]; exact h⟩
  · refine iff_of_false ?_ fun h => hmapeo h.1
    rintro ⟨s₀, t, hantes, -⟩
    obtain ⟨limpios, hlimpiar, -⟩ := Option.map_eq_some_iff.1 hantes
    unfold limpiarNBytesBloques at hlimpiar
    rw [if_neg hmapeo] at hlimpiar
    cases hlimpiar

/-- An ordered disk is compactable for every file. -/
theorem Invariante.compactable (hc : c.Valida) {N : Finset Cadena}
    {ext : Cadena → Extents.Extent UInt8} {x : Cadena} {i : ℕ} (h : Invariante c N ext s) (hx : x ∈ N)
    (hi : s.listaArchivos[i]? = some ⟨x, metadataDe (ext x)⟩) :
    Compactable c s ⟨x, metadataDe (ext x)⟩ := by
  have hcabe : bytesABloques c (ext x).bytes.length ≤
      cantidadBloquesLibres c s + (ext x).width := by
    rw [h.anchos x hx, cantidadBloquesLibres_eq hc]
    omega
  obtain ⟨s₁, ext', l, -, -, -, hcompactar⟩ := h.compactarFileSystem_eq hc hx hi hcabe
  exact (compactarFileSystem_isSome_iff hc).1 ⟨_, hcompactar⟩

end SimuladorSO.DialFS
