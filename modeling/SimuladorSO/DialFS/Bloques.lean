import SimuladorSO.DialFS.Estado
import SimuladorSO.Library.Extents

/-!
# What the loops of DialFS compute

The searches and counts over the bitmap, the loops over the mappings cell by cell, and the number of
blocks of a file, for a valid configuration.
-/

namespace SimuladorSO.DialFS

open CInt Loops Extents

/-- The configurations of a file system: blocks of at least one byte, a positive number of them that
fills whole bytes of the bitmap, and a size that is an `int`. -/
structure InoutConfig.Valida (c : InoutConfig) : Prop where
  blockSize_pos : 1 ≤ c.blockSize
  blockCount_pos : 0 < c.blockCount
  blockCount_dvd : 8 ∣ c.blockCount
  tamanio_int : c.blockSize * c.blockCount < 2 ^ 31

variable {c : InoutConfig} {s : Estado}

theorem InoutConfig.Valida.maxBit_eq (hc : c.Valida) : maxBit c = c.blockCount := by
  unfold maxBit
  have := hc.blockCount_dvd
  omega

theorem InoutConfig.Valida.maxBit_pos (hc : c.Valida) : 0 < maxBit c := by
  rw [hc.maxBit_eq]
  exact hc.blockCount_pos

/-! ### Cells -/

@[simp] theorem bitmapCleanNBits_apply (bitmap : ℤ → Bool) (a n b : ℤ) :
    bitmapCleanNBits bitmap a n b = if a ≤ b ∧ b < a + n then false else bitmap b := by
  unfold bitmapCleanNBits
  rw [iterate_update]
  refine if_congr ?_ rfl rfl
  omega

@[simp] theorem bitmapSetNBits_apply (bitmap : ℤ → Bool) (a n b : ℤ) :
    bitmapSetNBits bitmap a n b = if a ≤ b ∧ b < a + n then true else bitmap b := by
  unfold bitmapSetNBits
  rw [iterate_update]
  refine if_congr ?_ rfl rfl
  omega

/-- The bytes of a range of the mapping, zeroed. -/
theorem limpiarNBytesBloques_eq (datos : ℤ → UInt8) {a n : ℤ} (h : EnMapeo c a n) :
    limpiarNBytesBloques c datos a n = some fun j => if a ≤ j ∧ j < a + n then 0 else datos j := by
  unfold limpiarNBytesBloques
  rw [if_pos h]
  congr 1
  funext j
  rw [iterate_update]
  refine if_congr ?_ rfl rfl
  omega

/-- A buffer is written whole, inside the mapping. -/
theorem escribirBloques_length (datos : ℤ → UInt8) {a : ℤ} {origen : List UInt8}
    (h : EnMapeo c a origen.length) :
    escribirBloques c datos a origen origen.length =
      some fun j =>
        if a ≤ j ∧ j < a + origen.length then origen.getD (j - a).toNat 0 else datos j :=
  if_pos ⟨⟨by omega, le_rfl⟩, h⟩

/-- The first `n` bytes of a buffer are written. -/
theorem escribirBloques_of_le (datos : ℤ → UInt8) {a : ℤ} {origen : List UInt8} {n : ℕ}
    (hn : n ≤ origen.length) (h : EnMapeo c a n) :
    escribirBloques c datos a origen n =
      some fun j =>
        if a ≤ j ∧ j < a + n then (origen.take n).getD (j - a).toNat 0 else datos j := by
  unfold escribirBloques
  rw [if_pos ⟨⟨by omega, by omega⟩, h⟩]
  congr 1
  funext j
  split_ifs with hj
  · rw [List.getD_eq_getElem?_getD, List.getD_eq_getElem?_getD, List.getElem?_take_of_lt (by omega)]
  · rfl

/-- The content of an extent of the device is inside the mapping, and so is every part of it. -/
theorem enMapeo_of_sound (hc : c.Valida) {e : Extent UInt8}
    (he : e.Sound c.blockSize (maxBit c)) {p n : ℤ} (hp : 0 ≤ p) (hn : p + n ≤ e.bytes.length) :
    EnMapeo c (e.start * c.blockSize + p) n := by
  intro _
  have hbs : 0 < c.blockSize := hc.blockSize_pos
  have h0 := he.start_nonneg
  have hle := he.le_count
  have hfits := he.fits
  rw [hc.maxBit_eq] at hle
  have hstart : 0 ≤ e.start * c.blockSize := mul_nonneg h0 hbs.le
  have hfin : (e.start + e.width) * c.blockSize ≤ c.blockCount * c.blockSize :=
    mul_le_mul_of_nonneg_right hle hbs.le
  rw [add_mul, mul_comm c.blockCount] at hfin
  exact ⟨by omega, by omega⟩

theorem enMapeo_bytes (hc : c.Valida) {e : Extent UInt8} (he : e.Sound c.blockSize (maxBit c)) :
    EnMapeo c (e.start * c.blockSize) e.bytes.length := by
  have h := enMapeo_of_sound hc he le_rfl (n := e.bytes.length) (by omega)
  rwa [add_zero] at h

/-- A stored file is read whole. -/
theorem leerBloques_stored {ν : Type*} {N : Finset ν} {ext : ν → Extent UInt8} {mark : ℤ → Bool}
    {data : ℤ → UInt8} {x : ν} (hc : c.Valida)
    (h : Stores c.blockSize (maxBit c) N ext mark data) (hx : x ∈ N) :
    leerBloques c data ((ext x).start * c.blockSize) (ext x).bytes.length =
      some (ext x).bytes := by
  unfold leerBloques
  rw [if_pos ⟨by omega, enMapeo_bytes hc (h.sound x hx)⟩, Int.toNat_natCast,
    h.read hc.blockSize_pos hx]

/-! ### Searches -/

/-- Either no block is free, or the answer is the first one that is. -/
theorem posicionBloqueLibre_spec (hc : c.Valida) (s : Estado) :
    (posicionBloqueLibre c s = -1 ∧ ∀ b, 0 ≤ b → b < maxBit c → s.bitmap b = true) ∨
    (0 ≤ posicionBloqueLibre c s ∧ posicionBloqueLibre c s < maxBit c ∧
      s.bitmap (posicionBloqueLibre c s) = false ∧
      ∀ b, 0 ≤ b → b < posicionBloqueLibre c s → s.bitmap b = true) := by
  have hpos := hc.maxBit_pos
  unfold posicionBloqueLibre
  rcases firstFrom_spec (fun b => !s.bitmap b) 0 (maxBit c).toNat with
    ⟨h, hnone⟩ | ⟨h1, h2, h3, h4⟩
  · exact Or.inl ⟨h, fun b h0 hb => by simpa using hnone b h0 (by omega)⟩
  · exact Or.inr ⟨h1, by omega, by simpa using h3, fun b h0 hb => by simpa using h4 b h0 hb⟩

/-- Either every block from `desde` on is free, or the answer is the first one that is not. -/
theorem bloqueOcupadoDesde_spec {desde : ℤ} (hd : desde ≤ maxBit c) (s : Estado) :
    (bloqueOcupadoDesde c s desde = -1 ∧
      ∀ b, desde ≤ b → b < maxBit c → s.bitmap b = false) ∨
    (desde ≤ bloqueOcupadoDesde c s desde ∧ bloqueOcupadoDesde c s desde < maxBit c ∧
      s.bitmap (bloqueOcupadoDesde c s desde) = true ∧
      ∀ b, desde ≤ b → b < bloqueOcupadoDesde c s desde → s.bitmap b = false) := by
  unfold bloqueOcupadoDesde
  rcases firstFrom_spec s.bitmap desde (maxBit c - desde).toNat with
    ⟨h, hnone⟩ | ⟨h1, h2, h3, h4⟩
  · exact Or.inl ⟨h, fun b h0 hb => hnone b h0 (by omega)⟩
  · exact Or.inr ⟨h1, by omega, h3, h4⟩

theorem cantidadBloquesLibres_eq (hc : c.Valida) (s : Estado) :
    cantidadBloquesLibres c s = (free (maxBit c) s.bitmap).card := by
  unfold cantidadBloquesLibres free
  rw [iterate_count, Int.toNat_of_nonneg hc.maxBit_pos.le]

/-! ### Blocks of a file -/

/-- The blocks of a file are the fewest that hold its bytes, and at least one. -/
theorem bytesABloques_eq_max (hc : c.Valida) {n : ℤ} (hn : 0 ≤ n) :
    bytesABloques c n = max 1 (ceilDiv n c.blockSize) := by
  have hbs := hc.blockSize_pos
  unfold bytesABloques
  split_ifs with h
  · rw [h]
    simp [ceilDiv]
  · have := ceilDiv_pos (b := c.blockSize) (by omega) (a := n) (by omega)
    omega

theorem bytesABloques_pos (hc : c.Valida) {n : ℤ} (hn : 0 ≤ n) : 0 < bytesABloques c n := by
  rw [bytesABloques_eq_max hc hn]
  omega

theorem le_bytesABloques_mul (hc : c.Valida) {n : ℤ} (hn : 0 ≤ n) :
    n ≤ bytesABloques c n * c.blockSize := by
  have hbs : 0 < c.blockSize := hc.blockSize_pos
  rw [bytesABloques_eq_max hc hn]
  calc n ≤ ceilDiv n c.blockSize * c.blockSize := le_ceilDiv_mul hbs n
    _ ≤ max 1 (ceilDiv n c.blockSize) * c.blockSize :=
      mul_le_mul_of_nonneg_right (le_max_right _ _) hbs.le

theorem bytesABloques_mono (hc : c.Valida) {n n' : ℤ} (hn : 0 ≤ n) (h : n ≤ n') :
    bytesABloques c n ≤ bytesABloques c n' := by
  rw [bytesABloques_eq_max hc hn, bytesABloques_eq_max hc (hn.trans h)]
  exact max_le_max le_rfl (ceilDiv_mono (by have := hc.blockSize_pos; omega) h)

end SimuladorSO.DialFS
