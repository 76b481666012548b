import SimuladorSO.DialFS.Bloques
import SimuladorSO.DialFS.Catalogo

/-!
# The invariant of DialFS

`Invariante c N ext s` ties the three copies of what is stored together: the extents `ext` of the
files of `N` are on the mappings, they have the blocks their sizes take, and the list of files and
the directory describe them.  The operations other than the compaction keep it:

* `ioFsCreate_alta`, `ioFsCreate_nada`, `ioFsDelete`, `ioFsWrite`;
* `ampliarArchivo_contiguo`, `achicarArchivo`: the branches of `io_fs_truncate` in place.
-/

namespace SimuladorSO.DialFS

open CInt Dictionary Extents

variable {c : InoutConfig} {s s' : Estado} {N : Finset Cadena} {ext : Cadena → Extent UInt8}
  {x : Cadena}

/-- The metadata of a file stored in an extent. -/
def metadataDe (e : Extent UInt8) : Metadata := ⟨e.start, e.bytes.length⟩

theorem metadataDe_update (ext : Cadena → Extent UInt8) (x : Cadena) (e : Extent UInt8) :
    (fun n => metadataDe (Function.update ext x e n)) =
      Function.update (fun n => metadataDe (ext n)) x (metadataDe e) := by
  funext n
  by_cases hn : n = x
  · rw [hn, Function.update_self, Function.update_self]
  · rw [Function.update_of_ne hn, Function.update_of_ne hn]

/-- The mappings, the list of files and the directory hold the files of `N` in the extents `ext`. -/
structure Invariante (c : InoutConfig) (N : Finset Cadena) (ext : Cadena → Extent UInt8)
    (s : Estado) : Prop where
  guarda : Stores c.blockSize (maxBit c) N ext s.bitmap s.datosBloques
  anchos : ∀ n ∈ N, (ext n).width = bytesABloques c (ext n).bytes.length
  catalogo : Catalogo c N (fun n => metadataDe (ext n)) s

/-- The number of blocks survives a change of one extent to one with the right number. -/
theorem anchos_update {M : Finset Cadena} (hM : ∀ n ∈ M, n ≠ x → n ∈ N)
    (h : ∀ n ∈ N, (ext n).width = bytesABloques c (ext n).bytes.length) {e : Extent UInt8}
    (he : e.width = bytesABloques c e.bytes.length) :
    ∀ n ∈ M, (Function.update ext x e n).width =
      bytesABloques c (Function.update ext x e n).bytes.length := by
  intro n hn
  by_cases hnx : n = x
  · rw [hnx, Function.update_self]
    exact he
  · rw [Function.update_of_ne hnx]
    exact h n (hM n hn hnx)

/-- Messages do not matter. -/
theorem Invariante.enviarMensaje (h : Invariante c N ext s) (texto : String) :
    Invariante c N ext (enviarMensaje s texto) :=
  ⟨h.guarda, h.anchos, h.catalogo.nodup, h.catalogo.lista, h.catalogo.directorio,
    h.catalogo.ajenos, h.catalogo.propios⟩

/-- The start-up state holds no file. -/
theorem Invariante.vacio : Invariante c ∅ ext (iniciarFileSystem c) where
  guarda := Stores.empty (fun _ _ _ => rfl) (fun _ => rfl)
  anchos := by simp
  catalogo := Catalogo.vacio

/-- An extent with the blocks its content takes lies on the device when its last block does. -/
theorem sound_of_le (hc : c.Valida) {l : ℤ} (bytes : List UInt8) (h0 : 0 ≤ l)
    (hl : l + bytesABloques c bytes.length ≤ maxBit c) :
    Extent.Sound c.blockSize (maxBit c) ⟨l, bytesABloques c bytes.length, bytes⟩ :=
  ⟨bytesABloques_pos hc (by omega), h0, hl, le_bytesABloques_mul hc (by omega)⟩

/-- The free blocks are those the files do not take. -/
theorem Invariante.libres (hc : c.Valida) (h : Invariante c N ext s) :
    cantidadBloquesLibres c s =
      c.blockCount - ∑ n ∈ N, bytesABloques c (ext n).bytes.length := by
  have hsum := h.guarda.free_add_sum hc.maxBit_pos.le
  rw [Finset.sum_congr rfl h.anchos] at hsum
  rw [cantidadBloquesLibres_eq hc, ← hc.maxBit_eq]
  omega

theorem posicionBloqueLibre_eq_neg_one_iff (hc : c.Valida) (s : Estado) :
    posicionBloqueLibre c s = -1 ↔ ¬ 0 < cantidadBloquesLibres c s := by
  rw [cantidadBloquesLibres_eq hc, Nat.cast_pos, Finset.card_pos]
  rcases posicionBloqueLibre_spec hc s with ⟨h, hnone⟩ | ⟨h0, hlt, hfree, -⟩
  · refine iff_of_true h ?_
    rintro ⟨b, hb⟩
    obtain ⟨hrange, hfalse⟩ := Finset.mem_filter.1 hb
    obtain ⟨hb0, hbc⟩ := Finset.mem_Ico.1 hrange
    rw [hnone b hb0 hbc] at hfalse
    cases hfalse
  · refine iff_of_false (by omega) (not_not.2 ⟨posicionBloqueLibre c s, ?_⟩)
    exact Finset.mem_filter.2 ⟨Finset.mem_Ico.2 ⟨h0, hlt⟩, hfree⟩

/-! ### Create and delete -/

/-- A create with a new name and a free block stores an empty file. -/
theorem Invariante.ioFsCreate_alta (hc : c.Valida) (h : Invariante c N ext s)
    (hr : ¬ Reservado c x) (hx : x ∉ N) (hlibre : 0 < cantidadBloquesLibres c s) :
    ∃ l, Invariante c (insert x N) (Function.update ext x ⟨l, bytesABloques c 0, []⟩)
      (ioFsCreate c s x) := by
  have hpos : ¬ posicionBloqueLibre c s = -1 :=
    fun hneg => (posicionBloqueLibre_eq_neg_one_iff hc s).1 hneg hlibre
  have hnone := h.catalogo.get_eq_none_iff.2 ⟨hx, hr⟩
  rcases posicionBloqueLibre_spec hc s with ⟨hneg, -⟩ | ⟨h0, hlt, hfree, -⟩
  · exact absurd hneg hpos
  · refine ⟨posicionBloqueLibre c s, ?_⟩
    unfold ioFsCreate
    simp only [if_neg hpos, hnone]
    refine Invariante.enviarMensaje ⟨?_, ?_, ?_⟩ _
    · have huno : bytesABloques c 0 = 1 := rfl
      refine h.guarda.place (d := []) (n := 0) hc.blockSize_pos hx
        (sound_of_le hc [] h0
          (by show posicionBloqueLibre c s + bytesABloques c 0 ≤ maxBit c; omega))
        (by simp) rfl ?_ ?_ ?_
      · intro b hb
        have hb : posicionBloqueLibre c s ≤ b ∧ b < posicionBloqueLibre c s + bytesABloques c 0 := hb
        rw [huno] at hb
        rw [show b = posicionBloqueLibre c s by omega]
        exact hfree
      · intro b
        show Function.update s.bitmap _ true b =
          if posicionBloqueLibre c s ≤ b ∧ b < posicionBloqueLibre c s + bytesABloques c 0 then true
          else s.bitmap b
        rw [Function.update_apply, huno]
        refine if_congr ?_ rfl rfl
        omega
      · intro j
        rw [if_neg (by simp)]
    · exact anchos_update (fun n hn hne => (Finset.mem_insert.1 hn).resolve_left hne) h.anchos rfl
    · rw [metadataDe_update]
      exact h.catalogo.alta hx hr _ rfl rfl

/-- A create without a free block, or with a name that exists, stores nothing. -/
theorem Invariante.ioFsCreate_nada (hc : c.Valida) (h : Invariante c N ext s)
    (hno : ¬ (x ∉ N ∧ ¬ Reservado c x ∧ 0 < cantidadBloquesLibres c s)) :
    Invariante c N ext (ioFsCreate c s x) := by
  unfold ioFsCreate
  by_cases hpos : posicionBloqueLibre c s = -1
  · simp only [if_pos hpos]
    exact h
  · simp only [if_neg hpos]
    have hlibre := not_not.1 (mt (posicionBloqueLibre_eq_neg_one_iff hc s).2 hpos)
    have hget : get s.directorio x ≠ none :=
      fun hnone => hno ⟨(h.catalogo.get_eq_none_iff.1 hnone).1,
        (h.catalogo.get_eq_none_iff.1 hnone).2, hlibre⟩
    obtain ⟨entrada, hentrada⟩ := Option.ne_none_iff_exists'.1 hget
    rw [hentrada]
    exact h.enviarMensaje _

/-- A delete removes exactly that file. -/
theorem Invariante.ioFsDelete (hc : c.Valida) (h : Invariante c N ext s) (hx : x ∈ N) :
    ∃ s', ioFsDelete c s x = some s' ∧ Invariante c (N.erase x) ext s' := by
  obtain ⟨i, hobt, hi⟩ := h.catalogo.porNombre hx
  have hlimpiar := limpiarNBytesBloques_eq s.datosBloques (enMapeo_bytes hc (h.guarda.sound x hx))
  unfold DialFS.ioFsDelete
  rw [hobt]
  simp only [Option.bind_eq_bind, Option.bind_some]
  show ∃ s', (limpiarNBytesBloques c s.datosBloques ((ext x).start * c.blockSize)
    (ext x).bytes.length).bind _ = some s' ∧ _
  rw [hlimpiar]
  refine ⟨_, rfl, Invariante.enviarMensaje ⟨?_, ?_, ?_⟩ _⟩
  · refine h.guarda.clear hc.blockSize_pos hx ?_ (fun j => rfl)
    intro b
    rw [h.anchos x hx]
    exact bitmapCleanNBits_apply _ _ _ _
  · exact fun n hn => h.anchos n (Finset.mem_of_mem_erase hn)
  · exact h.catalogo.baja hx hi rfl rfl

/-! ### Write -/

/-- The bytes of a file end before the end of the device, so its sizes are `int`s. -/
theorem Invariante.tamanio_lt (hc : c.Valida) (h : Invariante c N ext s) (hx : x ∈ N) :
    (ext x).width * c.blockSize ≤ c.blockSize * c.blockCount := by
  have hs := h.guarda.sound x hx
  have hbs := hc.blockSize_pos
  have hle : (ext x).width ≤ c.blockCount := by
    rw [← hc.maxBit_eq]
    have h1 := hs.start_nonneg
    have h2 := hs.le_count
    omega
  calc (ext x).width * c.blockSize ≤ c.blockCount * c.blockSize :=
        mul_le_mul_of_nonneg_right hle (by omega)
    _ = c.blockSize * c.blockCount := mul_comm _ _

/-- A write of the first `tamanio` bytes of `mensaje` at `puntero` changes those bytes of the file
when it has them, and nothing otherwise. -/
theorem Invariante.ioFsWrite (hc : c.Valida) (h : Invariante c N ext s) (hx : x ∈ N) (pid : Cadena)
    (direccion : ℤ) (puntero : ℕ) {tamanio : ℕ} {mensaje : List UInt8} (hm : tamanio ≤ mensaje.length)
    (hint : (puntero : ℤ) + tamanio < 2 ^ 31) :
    ∃ s', ioFsWrite c s pid x direccion tamanio puntero (.paquete mensaje) = some s' ∧
      Invariante c N
        (if puntero + tamanio ≤ (ext x).bytes.length then
          Function.update ext x
            { ext x with bytes := splice puntero (mensaje.take tamanio) (ext x).bytes }
        else ext) s' := by
  obtain ⟨i, hobt, hi⟩ := h.catalogo.porNombre hx
  have hsuma : int32 ((puntero : ℤ) + tamanio) = puntero + tamanio :=
    int32_of_inRange ⟨by omega, hint⟩
  have htake : (mensaje.take tamanio).length = tamanio := by simp [hm]
  unfold DialFS.ioFsWrite
  rw [hobt]
  simp only [Option.bind_eq_bind, Option.bind_some, hsuma]
  by_cases hcabe : puntero + tamanio ≤ (ext x).bytes.length
  · have hsplice : puntero + (mensaje.take tamanio).length ≤ (ext x).bytes.length := by
      rw [htake]
      exact hcabe
    have hmapeo := enMapeo_of_sound hc (h.guarda.sound x hx) (p := puntero) (n := tamanio)
      (by omega) (by omega)
    rw [if_pos hcabe, if_pos (by show (puntero : ℤ) + tamanio ≤ (ext x).bytes.length; omega)]
    show ∃ s', (escribirBloques c s.datosBloques ((ext x).start * c.blockSize + puntero) mensaje
      tamanio).bind _ = some s' ∧ _
    rw [escribirBloques_of_le _ hm hmapeo]
    refine ⟨_, rfl, Invariante.enviarMensaje ⟨?_, ?_, ?_⟩ _⟩
    · refine h.guarda.overwrite hc.blockSize_pos hx hsplice fun j => ?_
      rw [htake]
    · refine anchos_update (fun n hn _ => hn) h.anchos ?_
      rw [length_splice hsplice]
      exact h.anchos x hx
    · refine (h.catalogo.congr fun n hn => ?_).congr_estado rfl rfl
      by_cases hnx : n = x
      · rw [hnx, Function.update_self]
        unfold metadataDe
        rw [length_splice hsplice]
      · rw [Function.update_of_ne hnx]
  · rw [if_neg hcabe, if_neg (by show ¬ (puntero : ℤ) + tamanio ≤ (ext x).bytes.length; omega)]
    exact ⟨_, rfl, h.enviarMensaje _⟩

/-! ### Truncate in place -/

/-- The metadata of a resized file. -/
theorem metadataDe_resize (l w : ℤ) (n : ℕ) (bytes : List UInt8) :
    metadataDe ⟨l, w, resize n bytes⟩ = ⟨l, n⟩ := by
  unfold metadataDe
  rw [length_resize]

/-- Enlarging a file over the free blocks that follow it. -/
theorem Invariante.ampliar_contiguo (hc : c.Valida) (h : Invariante c N ext s) (hx : x ∈ N) {i : ℕ}
    (hi : s.listaArchivos[i]? = some ⟨x, metadataDe (ext x)⟩) {n : ℕ}
    (hn : (ext x).bytes.length ≤ n)
    (hcount : (ext x).start + bytesABloques c n ≤ maxBit c)
    (hfree : ∀ b, (ext x).start + (ext x).width ≤ b → b < (ext x).start + bytesABloques c n →
      s.bitmap b = false) :
    Invariante c N
      (Function.update ext x ⟨(ext x).start, bytesABloques c n, resize n (ext x).bytes⟩)
      (guardarConfig
        { s with
          bitmap := bitmapSetNBits s.bitmap ((ext x).start + (ext x).width)
            (bytesABloques c n - (ext x).width) }
        i ⟨x, metadataDe (ext x)⟩ ⟨(ext x).start, n⟩) := by
  have hmono : bytesABloques c (ext x).bytes.length ≤ bytesABloques c n :=
    bytesABloques_mono hc (by omega) (by omega)
  refine ⟨?_, ?_, ?_⟩
  · refine h.guarda.grow hc.blockSize_pos hx hn (by rw [h.anchos x hx]; exact hmono) hcount
      (le_bytesABloques_mul hc (by omega)) hfree fun b => ?_
    show bitmapSetNBits _ _ _ b = _
    rw [bitmapSetNBits_apply]
    refine if_congr ?_ rfl rfl
    omega
  · refine anchos_update (fun n hn _ => hn) h.anchos ?_
    rw [length_resize]
  · rw [metadataDe_update, metadataDe_resize]
    exact h.catalogo.guardar hi _ rfl rfl

/-- Reducing a file. -/
theorem Invariante.achicarArchivo (hc : c.Valida) (h : Invariante c N ext s) (hx : x ∈ N) {i : ℕ}
    (hi : s.listaArchivos[i]? = some ⟨x, metadataDe (ext x)⟩) {n : ℕ}
    (hn : n ≤ (ext x).bytes.length) :
    ∃ s', achicarArchivo c s i ⟨x, metadataDe (ext x)⟩ n = some s' ∧ Invariante c N
      (Function.update ext x ⟨(ext x).start, bytesABloques c n, resize n (ext x).bytes⟩) s' := by
  have hmono : bytesABloques c n ≤ bytesABloques c (ext x).bytes.length :=
    bytesABloques_mono hc (by omega) (by omega)
  have hancho := h.anchos x hx
  have htamanio := h.tamanio_lt hc hx
  have hsound := h.guarda.sound x hx
  have hfits := hsound.fits
  have hint := hc.tamanio_int
  have hpos := bytesABloques_pos hc (n := n) (by omega)
  have hbs := hc.blockSize_pos
  have hle : (ext x).width ≤ (ext x).width * c.blockSize :=
    le_mul_of_one_le_right (by omega) hbs
  have hbytes : int32 (((ext x).bytes.length : ℤ) - n) = (ext x).bytes.length - n :=
    int32_of_inRange ⟨by omega, by omega⟩
  have hbloques : int32 (bytesABloques c (ext x).bytes.length - bytesABloques c n) =
      bytesABloques c (ext x).bytes.length - bytesABloques c n :=
    int32_of_inRange ⟨by omega, by omega⟩
  have hmapeo := enMapeo_of_sound hc hsound (p := n) (n := (ext x).bytes.length - n)
    (by omega) (by omega)
  unfold DialFS.achicarArchivo
  show ∃ s', (limpiarNBytesBloques c s.datosBloques (c.blockSize * (ext x).start + n)
    (int32 (((ext x).bytes.length : ℤ) - n))).map _ = some s' ∧ _
  rw [hbytes, mul_comm c.blockSize, limpiarNBytesBloques_eq _ hmapeo]
  refine ⟨_, rfl, ?_, ?_, ?_⟩
  · refine h.guarda.shrink hc.blockSize_pos hx hpos (by rw [hancho]; exact hmono)
      (le_bytesABloques_mul hc (by omega)) ?_ ?_
    · intro b
      show bitmapCleanNBits _ _ (int32 (bytesABloques c (ext x).bytes.length - _)) b = _
      rw [hbloques, bitmapCleanNBits_apply]
      refine if_congr ?_ rfl rfl
      show (ext x).start + _ ≤ b ∧ b < (ext x).start + _ + _ ↔ _
      omega
    · intro j
      refine if_congr ?_ rfl rfl
      omega
  · refine anchos_update (fun n hn _ => hn) h.anchos ?_
    rw [length_resize]
  · rw [metadataDe_update, metadataDe_resize]
    exact h.catalogo.guardar hi _ rfl rfl

end SimuladorSO.DialFS
