import SimuladorSO.DialFS.Ausentes

/-!
# Operands of any sign and size

What `io_fs_write` and `io_fs_truncate` touch on an ordered disk, for every value of the operands:
their only guards are a comparison of the wrapped sum of the pointer and the size in the first, and
one of the sizes in the second.

* `CambiaSolo`, `EscribeLoSuyo`: a write changes only bytes of the file, and none when the range is
  not one of the file;
* `Respeta`, `TruncaLoSuyo`: a truncate keeps the other files, and changes nothing when the size is
  negative or there is no room for it;
* `operandos_iff`: exactly when they do.
-/

namespace SimuladorSO.DialFS

open CInt Dictionary Extents Transitions

variable {c : InoutConfig} {s s' : Estado} {N : Finset Cadena} {ext : Cadena → Extent UInt8}
  {x pid : Cadena} {direccion tamanio puntero n : ℤ} {i : ℕ} {a : Archivo} {respuesta : Respuesta}

/-! ### Write -/

/-- Only bytes of the file may have changed. -/
structure CambiaSolo (c : InoutConfig) (a : Archivo) (s s' : Estado) : Prop where
  archivos : s'.listaArchivos = s.listaArchivos
  directorio : ∀ n, get s'.directorio n = get s.directorio n
  bitmap : s'.bitmap = s.bitmap
  datos : ∀ j, ¬ a.Contiene c j → s'.datosBloques j = s.datosBloques j

theorem SinCambios.cambiaSolo (h : SinCambios s s') : CambiaSolo c a s s' :=
  ⟨h.archivos, h.directorio, h.bitmap, fun j _ => congrFun h.datos j⟩

/-- The write comes back, changes only bytes of the file, and nothing when the range is not one of
the file. -/
def EscribeLoSuyo (c : InoutConfig) (s : Estado) (a : Archivo) (pid : Cadena)
    (direccion tamanio puntero : ℤ) (respuesta : Respuesta) : Prop :=
  ∃ s', ioFsWrite c s pid a.nombreArchivo direccion tamanio puntero respuesta = some s' ∧
    CambiaSolo c a s s' ∧ (¬ EnArchivo a tamanio puntero → SinCambios s s')

/-- A write that is not rejected has a range of the file, or one of the mapping with the bytes that
are to be written; and memoria answers at least as many bytes as were asked for. -/
def EscrituraPropia (c : InoutConfig) (s : Estado) (a : Archivo) (tamanio puntero : ℤ)
    (respuesta : Respuesta) : Prop :=
  int32 (puntero + tamanio) ≤ a.config.tamanioArchivo →
    ∃ bytes, respuesta = .paquete bytes ∧ 0 ≤ tamanio ∧ tamanio ≤ bytes.length ∧
      (EnArchivo a tamanio puntero ∨
        EnMapeo c (a.config.bloqueInicial * c.blockSize + puntero) tamanio ∧
          YaEscrito s.datosBloques (a.config.bloqueInicial * c.blockSize + puntero) tamanio bytes)

/-- A listed file is found by its name. -/
theorem Invariante.buscar (h : Invariante c N ext s) (ha : a ∈ s.listaArchivos) :
    a.nombreArchivo ∈ N ∧
      a = ⟨a.nombreArchivo, metadataDe (ext a.nombreArchivo)⟩ ∧
      ∃ i, obtenerArchivoPorNombre s a.nombreArchivo = some (i, a) ∧
        s.listaArchivos[i]? = some a := by
  obtain ⟨hn, hconf⟩ := (h.catalogo.lista a).1 ha
  have heq : a = ⟨a.nombreArchivo, metadataDe (ext a.nombreArchivo)⟩ := by
    calc a = ⟨a.nombreArchivo, a.config⟩ := rfl
      _ = _ := by rw [hconf]
  obtain ⟨i, hobt, hi⟩ := h.catalogo.porNombre hn
  exact ⟨hn, heq, i, hobt.trans (by rw [← heq]), hi.trans (by rw [← heq])⟩

/-- The sizes and the ranges of the files are `int`s. -/
theorem Invariante.tamanioArchivo_lt (hc : c.Valida) (h : Invariante c N ext s)
    (ha : a ∈ s.listaArchivos) :
    0 ≤ a.config.tamanioArchivo ∧ a.config.tamanioArchivo < 2 ^ 31 := by
  obtain ⟨hn, hconf⟩ := (h.catalogo.lista a).1 ha
  have hfits := (h.guarda.sound _ hn).fits
  have htamanio := h.tamanio_lt hc hn
  have hint := hc.tamanio_int
  have hlong : a.config.tamanioArchivo = (ext a.nombreArchivo).bytes.length := by
    rw [hconf]
    rfl
  omega

/-- **When a write touches only its file.** -/
theorem Invariante.escribeLoSuyo_iff (hc : c.Valida) (h : Invariante c N ext s)
    (ha : a ∈ s.listaArchivos) :
    EscribeLoSuyo c s a pid direccion tamanio puntero respuesta ↔
      EscrituraPropia c s a tamanio puntero respuesta := by
  obtain ⟨hn, heq, i, hobt, -⟩ := h.buscar ha
  have hlt := (h.tamanioArchivo_lt hc ha).2
  by_cases hrango : EnArchivo a tamanio puntero
  · obtain ⟨hp, ht, hle⟩ := hrango
    have hguarda : int32 (puntero + tamanio) ≤ a.config.tamanioArchivo := by
      rw [int32_of_inRange ⟨by omega, by omega⟩]
      exact hle
    have hmapeo : EnMapeo c (a.config.bloqueInicial * c.blockSize + puntero) tamanio := by
      rw [heq] at hle ⊢
      exact enMapeo_of_sound hc (h.guarda.sound _ hn) hp hle
    constructor
    · rintro ⟨s', hwrite, -⟩ -
      obtain ⟨bytes, hrespuesta, h0, hlong, -⟩ := (ioFsWrite_eq_some_iff hobt hguarda).1 hwrite
      exact ⟨bytes, hrespuesta, h0, hlong, Or.inl ⟨hp, ht, hle⟩⟩
    · intro hcond
      obtain ⟨bytes, hrespuesta, h0, hlong, -⟩ := hcond hguarda
      refine ⟨_, (ioFsWrite_eq_some_iff hobt hguarda).2
        ⟨bytes, hrespuesta, h0, hlong, hmapeo, rfl⟩, ⟨rfl, fun _ => rfl, rfl, ?_⟩,
        fun hno => absurd ⟨hp, ht, hle⟩ hno⟩
      intro j hj
      refine if_neg fun hrange => hj ?_
      unfold Archivo.Contiene
      omega
  · have hsin : EscribeLoSuyo c s a pid direccion tamanio puntero respuesta ↔
        ∃ s', DialFS.ioFsWrite c s pid a.nombreArchivo direccion tamanio puntero respuesta =
          some s' ∧ SinCambios s s' := by
      constructor
      · rintro ⟨s', hwrite, -, hno⟩
        exact ⟨s', hwrite, hno hrango⟩
      · rintro ⟨s', hwrite, hno⟩
        exact ⟨s', hwrite, hno.cambiaSolo, fun _ => hno⟩
    rw [hsin, ioFsWrite_sinCambios_iff hobt]
    unfold EscrituraPropia
    simp only [hrango, false_or]

/-! ### Truncate -/

/-- Each other file is listed with its size, its content and its blocks; and unless the truncate
compacts, it is where it was, with its bits and all the bytes of its blocks. -/
def Respeta (c : InoutConfig) (a : Archivo) (n : ℤ) (s s' : Estado) : Prop :=
  ∀ b ∈ s.listaArchivos, b.nombreArchivo ≠ a.nombreArchivo →
    (∃ b' ∈ s'.listaArchivos, b'.nombreArchivo = b.nombreArchivo ∧
      b'.config.tamanioArchivo = b.config.tamanioArchivo ∧
      contenidoDe c s' b' = contenidoDe c s b ∧ ∀ k, b'.Ocupa c k → s'.bitmap k = true) ∧
    (¬ NecesitaCompactar c s a n → b ∈ s'.listaArchivos ∧
      (∀ k, b.Ocupa c k → s'.bitmap k = s.bitmap k) ∧
      ∀ j, b.Ocupa c (j / c.blockSize) → s'.datosBloques j = s.datosBloques j)

/-- The size is negative, or the free blocks and those of the file are not enough for it. -/
def FueraDeRango (c : InoutConfig) (s : Estado) (a : Archivo) (n : ℤ) : Prop :=
  n < 0 ∨ a.config.tamanioArchivo < n ∧
    ¬ bytesABloques c n ≤ cantidadBloquesLibres c s + bytesABloques c a.config.tamanioArchivo

/-- The truncate comes back, keeps the other files, and changes nothing when the size is out of
range. -/
def TruncaLoSuyo (c : InoutConfig) (s : Estado) (a : Archivo) (n : ℤ) : Prop :=
  ∃ s', ioFsTruncate c s a.nombreArchivo n = some s' ∧ Respeta c a n s s' ∧
    (FueraDeRango c s a n → SinCambios s s')

/-- The other files keep their extents in a truncate that does not compact. -/
theorem Invariante.ioFsTruncate_enLugar (hc : c.Valida) (h : Invariante c N ext s) (hx : x ∈ N)
    (n : ℕ) (hno : ¬ NecesitaCompactar c s ⟨x, metadataDe (ext x)⟩ n) :
    ∃ s' ext', DialFS.ioFsTruncate c s x n = some s' ∧ Invariante c N ext' s' ∧
      ∀ m, m ≠ x → ext' m = ext m := by
  obtain ⟨i, hobt, hi⟩ := h.catalogo.porNombre hx
  have hancho := h.anchos x hx
  have hotros : ∀ e m, m ≠ x → Function.update ext x e m = ext m :=
    fun e m hm => Function.update_of_ne hm _ _
  rw [ioFsTruncate_eq hobt]
  by_cases hcrece : (metadataDe (ext x)).tamanioArchivo < n
  · have hlong : (ext x).bytes.length < n := by
      have hcrece : ((ext x).bytes.length : ℤ) < n := hcrece
      omega
    rw [if_pos hcrece]
    by_cases hcabe : bytesABloques c n ≤
        cantidadBloquesLibres c s + bytesABloques c (ext x).bytes.length
    · have hcontiguo : (ext x).start + bytesABloques c n ≤
          proxBloqInicial c s ((ext x).start + (ext x).width) := by
        by_contra hlejos
        refine hno ⟨hcrece, hcabe, ?_⟩
        show ¬ bytesABloques c n ≤ proxBloqInicial c s
          ((ext x).start + bytesABloques c (ext x).bytes.length) -
            ((ext x).start + bytesABloques c (ext x).bytes.length) +
              bytesABloques c (ext x).bytes.length
        rw [← hancho]
        omega
      obtain ⟨s', hampliar, hinv⟩ := h.ampliarArchivo_enLugar hc hx hi hlong hcabe hcontiguo
      rw [hampliar]
      exact ⟨_, _, rfl, hinv.enviarMensaje _, hotros _⟩
    · have hampliar : DialFS.ampliarArchivo c s i ⟨x, metadataDe (ext x)⟩ n = some s := if_neg hcabe
      rw [hampliar]
      exact ⟨_, ext, rfl, h.enviarMensaje _, fun m _ => rfl⟩
  · have hlong : n ≤ (ext x).bytes.length := by
      have hcrece : ¬ ((ext x).bytes.length : ℤ) < n := hcrece
      omega
    rw [if_neg hcrece]
    obtain ⟨s', hachicar, hinv⟩ := h.achicarArchivo hc hx hi hlong
    rw [hachicar]
    exact ⟨_, _, rfl, hinv.enviarMensaje _, hotros _⟩

/-- A file that keeps its extent keeps its bits and the bytes of its blocks. -/
theorem Invariante.enLugar (hc : c.Valida) {ext' : Cadena → Extent UInt8} {b : Archivo}
    (h : Invariante c N ext s) (h' : Invariante c N ext' s') (hb : b ∈ s.listaArchivos)
    (hext : ext' b.nombreArchivo = ext b.nombreArchivo) :
    b ∈ s'.listaArchivos ∧ (∀ k, b.Ocupa c k → s'.bitmap k = s.bitmap k) ∧
      ∀ j, b.Ocupa c (j / c.blockSize) → s'.datosBloques j = s.datosBloques j := by
  obtain ⟨hn, hconf⟩ := (h.catalogo.lista b).1 hb
  refine ⟨(h'.catalogo.lista b).2 ⟨hn, by rw [hconf, hext]⟩, fun k hk => ?_, fun j hj => ?_⟩
  · have hown := (h.ocupa_iff hc hb k).1 hk
    rw [h.guarda.mark_of_owns hn hown, h'.guarda.mark_of_owns hn (by rw [hext]; exact hown)]
  · have hown := (h.ocupa_iff hc hb _).1 hj
    rw [h.guarda.bytes _ hn j hown, h'.guarda.bytes _ hn j (by rw [hext]; exact hown), hext]

/-- A truncate to a size that is not negative touches only its file. -/
theorem Invariante.truncaLoSuyo (hc : c.Valida) (h : Invariante c N ext s)
    (ha : a ∈ s.listaArchivos) (n : ℕ) : TruncaLoSuyo c s a n := by
  obtain ⟨hx, heq, i, hobt, -⟩ := h.buscar ha
  obtain ⟨s', ext', htruncate, hinv, hbytes, -⟩ := h.ioFsTruncate hc hx n
  refine ⟨s', htruncate, fun b hb hne => ⟨?_, fun hno => ?_⟩, ?_⟩
  · obtain ⟨hbN, hconf⟩ := (h.catalogo.lista b).1 hb
    have hmem := hinv.catalogo.mem hbN
    refine ⟨_, hmem, rfl, ?_, ?_, fun k hk => ?_⟩
    · rw [hconf]
      show ((ext' b.nombreArchivo).bytes.length : ℤ) = (ext b.nombreArchivo).bytes.length
      rw [hbytes _ hne]
    · rw [hinv.contenidoDe_eq hc hmem, h.contenidoDe_eq hc hb]
      exact hbytes _ hne
    · exact hinv.guarda.mark_of_owns hbN ((hinv.ocupa_iff hc hmem k).1 hk)
  · obtain ⟨s'', ext'', htruncate', hinv', hext⟩ :=
      h.ioFsTruncate_enLugar hc hx n (by rw [← heq]; exact hno)
    rw [htruncate] at htruncate'
    cases htruncate'
    exact h.enLugar hc hinv' hb (hext _ hne)
  · rintro (hneg | ⟨hcrece, hcabe⟩)
    · omega
    · have hcambia := (ioFsTruncate_sinCambios_iff hobt).2 (Or.inl ⟨hcrece, hcabe⟩)
      obtain ⟨s'', htruncate', hsin⟩ := hcambia
      rw [htruncate] at htruncate'
      cases htruncate'
      exact hsin

/-- A truncate to a negative size changes the metadata. -/
theorem Invariante.not_truncaLoSuyo (hc : c.Valida) (h : Invariante c N ext s)
    (ha : a ∈ s.listaArchivos) (hn : n < 0) : ¬ TruncaLoSuyo c s a n := by
  obtain ⟨-, -, i, hobt, -⟩ := h.buscar ha
  have h0 := (h.tamanioArchivo_lt hc ha).1
  rintro ⟨s', htruncate, -, hfuera⟩
  rcases (ioFsTruncate_sinCambios_iff hobt).1 ⟨s', htruncate, hfuera (Or.inl hn)⟩ with
    ⟨hcrece, -⟩ | ⟨hmismo, -⟩
  · omega
  · omega

/-- **When an operation touches only its own file**, on an ordered disk: a write, when it is rejected
or its range is one of the file, or else when it writes what is there; a truncate, when the size is
not negative. -/
theorem operandos_iff (c : InoutConfig) (hc : c.Valida) (s : Estado) (h : Ordenado c s)
    (a : Archivo) (ha : a ∈ s.listaArchivos) (pid : Cadena) (direccion tamanio puntero n : ℤ)
    (respuesta : Respuesta) :
    (EscribeLoSuyo c s a pid direccion tamanio puntero respuesta ↔
      EscrituraPropia c s a tamanio puntero respuesta) ∧
    (TruncaLoSuyo c s a n ↔ 0 ≤ n) := by
  obtain ⟨N, ext, hinv⟩ := h
  refine ⟨hinv.escribeLoSuyo_iff hc ha, ?_⟩
  by_cases hn : 0 ≤ n
  · refine iff_of_true ?_ hn
    obtain ⟨n, rfl⟩ := Int.eq_ofNat_of_zero_le hn
    exact hinv.truncaLoSuyo hc ha n
  · exact iff_of_false (hinv.not_truncaLoSuyo hc ha (by omega)) hn

/-- Two files of one block each, with their two bytes. -/
def dosArchivos : List Operacion :=
  [.create [] ['a'], .truncate [] ['a'] 2, .create [] ['b'], .truncate [] ['b'] 2,
    .write [] ['a'] 0 2 0 [7, 8], .write [] ['b'] 0 2 0 [5, 6]]

theorem dosArchivos_ordenado :
    ∃ s, run (paso ⟨['F'], 2, 8⟩) (iniciarFileSystem ⟨['F'], 2, 8⟩) dosArchivos = some s ∧
      Ordenado ⟨['F'], 2, 8⟩ s :=
  run_of_admits (Invariante.paso ⟨by decide, by decide, by decide, by decide⟩)
    ⟨∅, fun _ => ⟨0, 1, []⟩, Invariante.vacio⟩ (by decide)

/-- A write and a truncate of the second file with operands in range. -/
theorem operandos_iff_dos_archivos :
    ∃ s, run (paso ⟨['F'], 2, 8⟩) (iniciarFileSystem ⟨['F'], 2, 8⟩) dosArchivos = some s ∧
      EscribeLoSuyo ⟨['F'], 2, 8⟩ s ⟨['b'], ⟨1, 2⟩⟩ [] 0 2 0 (.paquete [1, 1]) ∧
      TruncaLoSuyo ⟨['F'], 2, 8⟩ s ⟨['b'], ⟨1, 2⟩⟩ 1 := by
  obtain ⟨s, hs, horden⟩ := dosArchivos_ordenado
  have hlista : s.listaArchivos = [⟨['a'], ⟨0, 2⟩⟩, ⟨['b'], ⟨1, 2⟩⟩] := by
    rw [← Option.some.inj hs]
    rfl
  obtain ⟨hwrite, htruncate⟩ := operandos_iff ⟨['F'], 2, 8⟩
    ⟨by decide, by decide, by decide, by decide⟩ s horden ⟨['b'], ⟨1, 2⟩⟩
    (by rw [hlista]; decide) [] 0 2 0 1 (.paquete [1, 1])
  exact ⟨s, hs, hwrite.2 fun _ => ⟨[1, 1], rfl, by decide, by decide, Or.inl (by decide)⟩,
    htruncate.2 (by decide)⟩

/-- **A negative pointer overwrites the previous file, and a negative size erases it**: the write of
two bytes at `-2` and the truncate to `-2` of the second file. -/
theorem operandos_negativos :
    ∃ s, run (paso ⟨['F'], 2, 8⟩) (iniciarFileSystem ⟨['F'], 2, 8⟩) dosArchivos = some s ∧
      Ordenado ⟨['F'], 2, 8⟩ s ∧ ⟨['b'], ⟨1, 2⟩⟩ ∈ s.listaArchivos ∧
      s.datosBloques 0 = 7 ∧ s.bitmap 0 = true ∧
      (∃ s', ioFsWrite ⟨['F'], 2, 8⟩ s [] ['b'] 0 2 (-2) (.paquete [1, 1]) = some s' ∧
        s'.datosBloques 0 = 1) ∧
      ¬ EscribeLoSuyo ⟨['F'], 2, 8⟩ s ⟨['b'], ⟨1, 2⟩⟩ [] 0 2 (-2) (.paquete [1, 1]) ∧
      (∃ s', ioFsTruncate ⟨['F'], 2, 8⟩ s ['b'] (-2) = some s' ∧
        s'.datosBloques 0 = 0 ∧ s'.bitmap 0 = false) ∧
      ¬ TruncaLoSuyo ⟨['F'], 2, 8⟩ s ⟨['b'], ⟨1, 2⟩⟩ (-2) := by
  obtain ⟨s, hs, horden⟩ := dosArchivos_ordenado
  refine ⟨s, hs, horden, ?_⟩
  obtain rfl := Option.some.inj hs
  refine ⟨by decide, rfl, rfl, ⟨_, rfl, rfl⟩, ?_, ⟨_, rfl, rfl, rfl⟩, ?_⟩
  · rintro ⟨s', hwrite, hsolo, -⟩
    have hbyte := hsolo.datos 0 (by unfold Archivo.Contiene; decide)
    rw [← Option.some.inj hwrite] at hbyte
    exact absurd hbyte (by decide)
  · rintro ⟨s', htruncate, hrespeta, -⟩
    obtain ⟨-, henLugar⟩ := hrespeta ⟨['a'], ⟨0, 2⟩⟩ (by decide) (by decide)
    have hbit := (henLugar fun hcompacta => absurd hcompacta.1 (by decide)).2.1 0
      (by unfold Archivo.Ocupa Almacen.bloques; decide)
    rw [← Option.some.inj htruncate] at hbit
    exact absurd hbit (by decide)

end SimuladorSO.DialFS
