import SimuladorSO.DialFS.Lecturas

/-!
# Operations on a name that no file has

The search by name answers the last file of the list when none has the name, and an uninitialised
pointer when there are no files, so the operations go on with a file that was not asked for.

* `obtenerArchivoPorNombre_ausente`: what the search answers then;
* `SinCambios`: the list of files, the metadata, the bitmap and the bytes are as they were;
* `ioFsTruncate_sinCambios_iff`, `ioFsWrite_sinCambios_iff`: when an operation on the file that was
  found changes nothing;
* `operaciones_ausente_iff`: when each operation on a name that no file has changes nothing.
-/

namespace SimuladorSO.DialFS

open CInt Dictionary Transitions

variable {c : InoutConfig} {s s' : Estado} {pid nombre : Cadena}
  {direccion tamanio puntero n : ℤ} {i : ℕ} {a : Archivo}

/-- The file system is as it was. -/
structure SinCambios (s s' : Estado) : Prop where
  archivos : s'.listaArchivos = s.listaArchivos
  directorio : ∀ n, get s'.directorio n = get s.directorio n
  bitmap : s'.bitmap = s.bitmap
  datos : s'.datosBloques = s.datosBloques

theorem SinCambios.refl (s : Estado) : SinCambios s s := ⟨rfl, fun _ => rfl, rfl, rfl⟩

theorem SinCambios.enviarMensaje (h : SinCambios s s') (texto : String) :
    SinCambios s (DialFS.enviarMensaje s' texto) :=
  ⟨h.archivos, h.directorio, h.bitmap, h.datos⟩

/-- No listed file has the name. -/
def Ausente (s : Estado) (nombre : Cadena) : Prop :=
  ∀ a ∈ s.listaArchivos, a.nombreArchivo ≠ nombre

/-- **The search for a name that no file has** answers the last file. -/
theorem obtenerArchivoPorNombre_ausente (h : Ausente s nombre) :
    obtenerArchivoPorNombre s nombre =
      s.listaArchivos.getLast?.map fun a => (s.listaArchivos.length - 1, a) := by
  have hfind : s.listaArchivos.findIdx? (fun a => decide (a.nombreArchivo = nombre)) = none := by
    rw [List.findIdx?_eq_none_iff]
    intro a ha
    exact decide_eq_false (h a ha)
  unfold obtenerArchivoPorNombre obtenerArchivo
  rw [hfind, List.getLast?_eq_getElem?]
  rfl

/-! ### Delete -/

/-- A delete that completes leaves one file less. -/
theorem ioFsDelete_length (h : ioFsDelete c s nombre = some s') :
    s'.listaArchivos.length + 1 = s.listaArchivos.length := by
  obtain ⟨⟨i, a⟩, hobt, h⟩ := Option.bind_eq_some_iff.1 h
  obtain ⟨datos, -, h⟩ := Option.bind_eq_some_iff.1 h
  rw [← Option.some.inj h]
  show (s.listaArchivos.eraseIdx i).length + 1 = _
  obtain ⟨hlt, -⟩ := List.getElem?_eq_some_iff.1 (obtenerArchivoPorNombre_getElem hobt)
  rw [List.length_eraseIdx_of_lt hlt]
  omega

/-! ### Truncate -/

/-- The `i`-th file has the size `n`. -/
def TieneTamanio (s : Estado) (i : ℕ) (n : ℤ) : Prop :=
  ∃ a, s.listaArchivos[i]? = some a ∧ a.config.tamanioArchivo = n

theorem tieneTamanio_guardar {config : Metadata} (hi : i < s.listaArchivos.length) :
    TieneTamanio (guardarConfig s i a config) i config.tamanioArchivo :=
  ⟨_, List.getElem?_set_self hi, rfl⟩

/-- A compaction saves the new size. -/
theorem compactarFileSystem_tamanio (hi : i < s.listaArchivos.length)
    (h : compactarFileSystem c s i a n = some s') : TieneTamanio s' i n := by
  unfold compactarFileSystem at h
  obtain ⟨datosArchivo, -, h⟩ := Option.bind_eq_some_iff.1 h
  obtain ⟨limpios, -, h⟩ := Option.bind_eq_some_iff.1 h
  obtain ⟨s₁, hcompactar, h⟩ := Option.bind_eq_some_iff.1 h
  obtain ⟨datosBloques, -, h⟩ := Option.bind_eq_some_iff.1 h
  have hlong := (compactarOcupados_frame hcompactar).2
  rw [← Option.some.inj h]
  exact tieneTamanio_guardar (by rw [hlong]; exact hi)

/-- Enlarging a file saves the new size when there is room for it, and changes nothing when there is
not. -/
theorem ampliarArchivo_tamanio (hi : i < s.listaArchivos.length)
    (h : ampliarArchivo c s i a n = some s') :
    (¬ bytesABloques c n ≤ cantidadBloquesLibres c s + bytesABloques c a.config.tamanioArchivo ∧
      s' = s) ∨
    (bytesABloques c n ≤ cantidadBloquesLibres c s + bytesABloques c a.config.tamanioArchivo ∧
      TieneTamanio s' i n) := by
  unfold ampliarArchivo at h
  rcases ite_eq_iff.1 h with ⟨hcabe, h⟩ | ⟨hno, h⟩
  · refine Or.inr ⟨hcabe, ?_⟩
    rcases ite_eq_iff.1 h with ⟨-, h⟩ | ⟨-, h⟩
    · rw [← Option.some.inj h]
      exact tieneTamanio_guardar hi
    · exact compactarFileSystem_tamanio hi h
  · exact Or.inl ⟨hno, (Option.some.inj h).symm⟩

theorem achicarArchivo_tamanio (hi : i < s.listaArchivos.length)
    (h : achicarArchivo c s i a n = some s') : TieneTamanio s' i n := by
  obtain ⟨datosBloques, -, h⟩ := Option.map_eq_some_iff.1 h
  rw [← h]
  exact tieneTamanio_guardar hi

/-- A truncate of a file to its own size only saves its metadata again. -/
theorem achicarArchivo_mismo (hi : s.listaArchivos[i]? = some a)
    (hdir : get s.directorio a.nombreArchivo = some (.metadata a.config)) :
    ∃ s', achicarArchivo c s i a a.config.tamanioArchivo = some s' ∧ SinCambios s s' := by
  have hcero : int32 0 = 0 := by decide
  unfold achicarArchivo
  simp only [sub_self, hcero]
  rw [limpiarNBytesBloques_eq _ (show EnMapeo c _ 0 from fun h => absurd h (by omega))]
  refine ⟨_, rfl, ?_, fun m => ?_, ?_, ?_⟩
  · show s.listaArchivos.set i a = _
    apply List.ext_getElem?
    intro j
    by_cases hij : i = j
    · rw [← hij, List.getElem?_set_self (List.getElem?_eq_some_iff.1 hi).1, hi]
    · rw [List.getElem?_set_ne hij]
  · show get (put s.directorio a.nombreArchivo (.metadata a.config)) m = _
    rw [get_put]
    split_ifs with hm
    · rw [hm, hdir]
    · rfl
  · funext b
    show bitmapCleanNBits s.bitmap (a.config.bloqueInicial +
      bytesABloques c a.config.tamanioArchivo) 0 b = _
    rw [bitmapCleanNBits_apply, if_neg (by omega)]
  · funext j
    exact if_neg (by omega)

/-- **When a truncate changes nothing**: when the file it finds is to be enlarged and there is no
room for that, or when it has that size already and its metadata are on disk. -/
theorem ioFsTruncate_sinCambios_iff (hobt : obtenerArchivoPorNombre s nombre = some (i, a)) :
    (∃ s', ioFsTruncate c s nombre n = some s' ∧ SinCambios s s') ↔
      (a.config.tamanioArchivo < n ∧ ¬ bytesABloques c n ≤
        cantidadBloquesLibres c s + bytesABloques c a.config.tamanioArchivo) ∨
      (n = a.config.tamanioArchivo ∧
        get s.directorio a.nombreArchivo = some (.metadata a.config)) := by
  have hi := obtenerArchivoPorNombre_getElem hobt
  have hlt := (List.getElem?_eq_some_iff.1 hi).1
  -- a file whose size was saved keeps its record only if that was its size
  have hmismo : ∀ {s'}, TieneTamanio s' i n → s'.listaArchivos = s.listaArchivos →
      n = a.config.tamanioArchivo := by
    rintro s' ⟨a', ha', rfl⟩ hlista
    rw [hlista, hi] at ha'
    cases ha'
    rfl
  rw [ioFsTruncate_eq hobt]
  constructor
  · rintro ⟨s', h, hsin⟩
    obtain ⟨s₁, hs₁, rfl⟩ := Option.map_eq_some_iff.1 h
    have hlista : s₁.listaArchivos = s.listaArchivos := hsin.archivos
    rcases ite_eq_iff.1 hs₁ with ⟨hcrece, h⟩ | ⟨hcrece, h⟩
    · rcases ampliarArchivo_tamanio hlt h with ⟨hno, -⟩ | ⟨-, htamanio⟩
      · exact Or.inl ⟨hcrece, hno⟩
      · have heq := hmismo htamanio hlista
        omega
    · have heq := hmismo (achicarArchivo_tamanio hlt h) hlista
      refine Or.inr ⟨heq, ?_⟩
      obtain ⟨datos, -, h⟩ := Option.map_eq_some_iff.1 h
      have hdir : get s₁.directorio a.nombreArchivo = get s.directorio a.nombreArchivo :=
        hsin.directorio a.nombreArchivo
      rw [← hdir, ← h]
      show get (put s.directorio a.nombreArchivo (.metadata { a.config with tamanioArchivo := n })) _ = _
      rw [get_put_self, heq]
  · rintro (⟨hcrece, hno⟩ | ⟨rfl, hdir⟩)
    · rw [if_pos hcrece]
      unfold ampliarArchivo
      rw [if_neg hno]
      exact ⟨_, rfl, (SinCambios.refl s).enviarMensaje _⟩
    · rw [if_neg (lt_irrefl _)]
      obtain ⟨s', hachicar, hsin⟩ := achicarArchivo_mismo (c := c) hi hdir
      rw [hachicar]
      exact ⟨_, rfl, hsin.enviarMensaje _⟩

/-! ### Write -/

/-- The bytes that are to be written are on the mapping already. -/
def YaEscrito (datos : ℤ → UInt8) (byteInicial tamanio : ℤ) (bytes : List UInt8) : Prop :=
  ∀ j, byteInicial ≤ j → j < byteInicial + tamanio → bytes.getD (j - byteInicial).toNat 0 = datos j

/-- A write that is not rejected is defined when memoria answers at least the bytes asked for and the
range is one of the mapping. -/
theorem ioFsWrite_eq_some_iff (hobt : obtenerArchivoPorNombre s nombre = some (i, a))
    (hguarda : int32 (puntero + tamanio) ≤ a.config.tamanioArchivo) {respuesta : Respuesta} :
    ioFsWrite c s pid nombre direccion tamanio puntero respuesta = some s' ↔
      ∃ bytes, respuesta = .paquete bytes ∧ 0 ≤ tamanio ∧ tamanio ≤ bytes.length ∧
        EnMapeo c (a.config.bloqueInicial * c.blockSize + puntero) tamanio ∧
        s' = DialFS.enviarMensaje
          { s with
            peticiones := s.peticiones ++ [.lectura pid direccion tamanio]
            datosBloques := fun j =>
              if a.config.bloqueInicial * c.blockSize + puntero ≤ j ∧
                j < a.config.bloqueInicial * c.blockSize + puntero + tamanio then
                bytes.getD (j - (a.config.bloqueInicial * c.blockSize + puntero)).toNat 0
              else s.datosBloques j }
          "END_OF_IO_FS_WRITE" := by
  unfold ioFsWrite
  rw [hobt]
  simp only [Option.bind_eq_bind, Option.bind_some, if_pos hguarda]
  cases respuesta with
  | mensaje => simp [peticionLecturaMemoria]
  | paquete bytes =>
    simp only [peticionLecturaMemoria, Option.bind_some, Respuesta.paquete.injEq, exists_eq_left']
    unfold escribirBloques
    by_cases hcond : (0 ≤ tamanio ∧ tamanio ≤ bytes.length) ∧
        EnMapeo c (a.config.bloqueInicial * c.blockSize + puntero) tamanio
    · rw [if_pos hcond]
      simp only [Option.bind_some, Option.some.injEq, hcond.1.1, hcond.1.2, hcond.2, true_and]
      exact eq_comm
    · rw [if_neg hcond]
      simp only [Option.bind_none, reduceCtorEq, false_iff]
      rintro ⟨h0, hle, hmapeo, -⟩
      exact hcond ⟨⟨h0, hle⟩, hmapeo⟩

/-- A write that is rejected is only answered. -/
theorem ioFsWrite_rechazada (hobt : obtenerArchivoPorNombre s nombre = some (i, a))
    (hguarda : ¬ int32 (puntero + tamanio) ≤ a.config.tamanioArchivo) {respuesta : Respuesta} :
    ioFsWrite c s pid nombre direccion tamanio puntero respuesta =
      some (DialFS.enviarMensaje s "END_OF_IO_FS_WRITE") := by
  unfold ioFsWrite
  rw [hobt]
  simp only [Option.bind_eq_bind, Option.bind_some, if_neg hguarda]

/-- **When a write changes nothing**: when it is rejected, or it is defined and the bytes are there
already. -/
theorem ioFsWrite_sinCambios_iff (hobt : obtenerArchivoPorNombre s nombre = some (i, a))
    {respuesta : Respuesta} :
    (∃ s', ioFsWrite c s pid nombre direccion tamanio puntero respuesta = some s' ∧
      SinCambios s s') ↔
      (int32 (puntero + tamanio) ≤ a.config.tamanioArchivo →
        ∃ bytes, respuesta = .paquete bytes ∧ 0 ≤ tamanio ∧ tamanio ≤ bytes.length ∧
          EnMapeo c (a.config.bloqueInicial * c.blockSize + puntero) tamanio ∧
          YaEscrito s.datosBloques (a.config.bloqueInicial * c.blockSize + puntero) tamanio
            bytes) := by
  by_cases hguarda : int32 (puntero + tamanio) ≤ a.config.tamanioArchivo
  · constructor
    · rintro ⟨s', h, hsin⟩ -
      obtain ⟨bytes, hrespuesta, h0, hle, hmapeo, rfl⟩ := (ioFsWrite_eq_some_iff hobt hguarda).1 h
      refine ⟨bytes, hrespuesta, h0, hle, hmapeo, fun j h1 h2 => ?_⟩
      rw [← congrFun hsin.datos j]
      exact (if_pos ⟨h1, h2⟩).symm
    · intro hcond
      obtain ⟨bytes, hrespuesta, h0, hle, hmapeo, hya⟩ := hcond hguarda
      refine ⟨_, (ioFsWrite_eq_some_iff hobt hguarda).2
        ⟨bytes, hrespuesta, h0, hle, hmapeo, rfl⟩, rfl, fun _ => rfl, rfl, ?_⟩
      funext j
      show (if _ ≤ j ∧ j < _ then _ else s.datosBloques j) = _
      split_ifs with hj
      · exact hya j hj.1 hj.2
      · rfl
  · refine iff_of_true ⟨_, ioFsWrite_rechazada hobt hguarda, (SinCambios.refl s).enviarMensaje _⟩ ?_
    exact fun h => absurd h hguarda

/-! ### The four operations -/

/-- A search that answers nothing ends the operation. -/
theorem sinCambios_iff_of_ausente {op : Option Estado} {Q : Archivo → Prop}
    (h : Ausente s nombre) (hnone : obtenerArchivoPorNombre s nombre = none → op = none)
    (hsome : ∀ i a, obtenerArchivoPorNombre s nombre = some (i, a) →
      ((∃ s', op = some s' ∧ SinCambios s s') ↔ Q a)) :
    (∃ s', op = some s' ∧ SinCambios s s') ↔ ∃ a, s.listaArchivos.getLast? = some a ∧ Q a := by
  have hobt := obtenerArchivoPorNombre_ausente h
  cases hlast : s.listaArchivos.getLast? with
  | none =>
    rw [hlast] at hobt
    rw [hnone hobt]
    simp
  | some a =>
    rw [hlast] at hobt
    rw [hsome _ a hobt]
    simp

/-- **When an operation on a name that no file has changes nothing.**  A delete never: it removes
another file, or uses an uninitialised pointer.  The others, when there is a last file and the
operation on it happens to change nothing, or to send no byte of a file. -/
theorem operaciones_ausente_iff (c : InoutConfig) (s : Estado) (nombre : Cadena)
    (h : Ausente s nombre) (pid : Cadena) (direccion tamanio puntero n : ℤ)
    (respuesta : Respuesta) (resto : List UInt8) :
    (¬ ∃ s', ioFsDelete c s nombre = some s' ∧ SinCambios s s') ∧
    ((∃ s', ioFsTruncate c s nombre n = some s' ∧ SinCambios s s') ↔
      ∃ a, s.listaArchivos.getLast? = some a ∧
        ((a.config.tamanioArchivo < n ∧ ¬ bytesABloques c n ≤
          cantidadBloquesLibres c s + bytesABloques c a.config.tamanioArchivo) ∨
        (n = a.config.tamanioArchivo ∧
          get s.directorio a.nombreArchivo = some (.metadata a.config)))) ∧
    ((∃ s', ioFsWrite c s pid nombre direccion tamanio puntero respuesta = some s' ∧
        SinCambios s s') ↔
      ∃ a, s.listaArchivos.getLast? = some a ∧
        (int32 (puntero + tamanio) ≤ a.config.tamanioArchivo →
          ∃ bytes, respuesta = .paquete bytes ∧ 0 ≤ tamanio ∧ tamanio ≤ bytes.length ∧
            EnMapeo c (a.config.bloqueInicial * c.blockSize + puntero) tamanio ∧
            YaEscrito s.datosBloques (a.config.bloqueInicial * c.blockSize + puntero) tamanio
              bytes)) ∧
    (NoEnviaArchivos c s pid nombre direccion tamanio puntero resto ↔
      ∃ a, s.listaArchivos.getLast? = some a ∧
        Copiable c (a.config.bloqueInicial * c.blockSize + puntero) tamanio ∧
        ∀ j ∈ offsetsEnviados s.datosBloques (a.config.bloqueInicial * c.blockSize + puntero)
          tamanio, ¬ EsDeArchivo c s j) := by
  refine ⟨?_, ?_, ?_, ?_⟩
  · rintro ⟨s', hdelete, hsin⟩
    have hlong := ioFsDelete_length hdelete
    rw [hsin.archivos] at hlong
    omega
  · refine sinCambios_iff_of_ausente h (fun hnone => ?_) fun i a hobt =>
      ioFsTruncate_sinCambios_iff hobt
    unfold ioFsTruncate
    rw [hnone]
    rfl
  · refine sinCambios_iff_of_ausente h (fun hnone => ?_) fun i a hobt =>
      ioFsWrite_sinCambios_iff hobt
    unfold ioFsWrite
    rw [hnone]
    rfl
  · have hobt := obtenerArchivoPorNombre_ausente h
    cases hlast : s.listaArchivos.getLast? with
    | none =>
      rw [hlast] at hobt
      refine iff_of_false ?_ (by simp)
      rintro ⟨i, a, s', basura, hobt', -⟩
      rw [hobt] at hobt'
      cases hobt'
    | some a =>
      rw [hlast] at hobt
      rw [noEnviaArchivos_iff hobt]
      simp

/-- With one file of two bytes, a name that no file has: a truncate to its size and a write that is
out of its range change nothing. -/
theorem operaciones_ausente_iff_un_archivo :
    ∃ s, run (paso ⟨['F'], 2, 8⟩) (iniciarFileSystem ⟨['F'], 2, 8⟩)
        [.create [] ['a'], .truncate [] ['a'] 2] = some s ∧
      (∃ s', ioFsTruncate ⟨['F'], 2, 8⟩ s ['b'] 2 = some s' ∧ SinCambios s s') ∧
      ∃ s', ioFsWrite ⟨['F'], 2, 8⟩ s [] ['b'] 0 2 1 .mensaje = some s' ∧ SinCambios s s' := by
  refine ⟨_, rfl, ?_, ?_⟩
  · exact (operaciones_ausente_iff ⟨['F'], 2, 8⟩ _ ['b'] (by unfold Ausente; decide) [] 0 2 1 2
      .mensaje []).2.1.2 ⟨⟨['a'], ⟨0, 2⟩⟩, rfl, Or.inr ⟨rfl, rfl⟩⟩
  · exact (operaciones_ausente_iff ⟨['F'], 2, 8⟩ _ ['b'] (by unfold Ausente; decide) [] 0 2 1 2
      .mensaje []).2.2.1.2 ⟨⟨['a'], ⟨0, 2⟩⟩, rfl, fun h => absurd h (by decide)⟩

/-- **Deleting a name that no file has deletes another file**, whose metadata stay on disk; truncating
it resizes that file, and writing it overwrites its bytes. -/
theorem operaciones_ausente_cambian :
    ∃ s, run (paso ⟨['F'], 2, 8⟩) (iniciarFileSystem ⟨['F'], 2, 8⟩)
        [.create [] ['a'], .truncate [] ['a'] 2] = some s ∧ Ausente s ['b'] ∧
      (∃ s', ioFsDelete ⟨['F'], 2, 8⟩ s ['b'] = some s' ∧ s'.listaArchivos = [] ∧
        get s'.directorio ['a'] = some (.metadata ⟨0, 2⟩) ∧ ¬ SinCambios s s') ∧
      (∃ s', ioFsTruncate ⟨['F'], 2, 8⟩ s ['b'] 5 = some s' ∧
        s'.listaArchivos = [⟨['a'], ⟨0, 5⟩⟩] ∧ ¬ SinCambios s s') ∧
      ∃ s', ioFsWrite ⟨['F'], 2, 8⟩ s [] ['b'] 0 1 0 (.paquete [7]) = some s' ∧
        s.datosBloques 0 = 0 ∧ s'.datosBloques 0 = 7 ∧ ¬ SinCambios s s' := by
  refine ⟨_, rfl, by unfold Ausente; decide, ⟨_, rfl, rfl, rfl, ?_⟩, ⟨_, rfl, rfl, ?_⟩,
    ⟨_, rfl, rfl, rfl, ?_⟩⟩
  · exact fun h => absurd h.archivos (by decide)
  · exact fun h => absurd h.archivos (by decide)
  · exact fun h => absurd (congrFun h.datos 0) (by decide)

end SimuladorSO.DialFS
