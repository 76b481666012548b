import SimuladorSO.DialFS.Lecturas

/-!
# What an interface asks memoria

The operations on the names and the sizes of the files ask memoria for nothing; the others ask once,
for what the text of a line, the content of the memory or the content of a file is.

* `Pedido.usaMemoria`, `atender_sin_memoria`: the requests of the first kind;
* `ioFsWrite_peticiones`: a write asks for the bytes when the file has room for them;
* `Almacen.texto`, `Refina.ioFsRead`: the string that a read of a file of the store sends.
-/

namespace SimuladorSO.DialFS

open CInt Dictionary Extents

variable {c : InoutConfig} {s s' : Estado} {pid nombre : Cadena} {e : Entorno}

/-! ### Operations without memoria -/

/-- The request moves bytes between memoria and the interface. -/
def Pedido.usaMemoria : Pedido → Bool
  | .stdinRead _ _ => true
  | .stdoutWrite _ _ => true
  | .fsWrite _ _ _ _ => true
  | .fsRead _ _ _ _ => true
  | _ => false

theorem moverArchivo_peticiones {l b : ℤ} (h : moverArchivo c s l b = some s') :
    s'.peticiones = s.peticiones := by
  unfold moverArchivo at h
  obtain ⟨⟨i, a⟩, -, h⟩ := Option.bind_eq_some_iff.1 h
  obtain ⟨datosArchivo, -, h⟩ := Option.bind_eq_some_iff.1 h
  obtain ⟨limpios, -, h⟩ := Option.bind_eq_some_iff.1 h
  obtain ⟨datosBloques, -, h⟩ := Option.bind_eq_some_iff.1 h
  rw [← Option.some.inj h]
  rfl

theorem compactarOcupados_peticiones {fuel : ℕ} (h : compactarOcupados c fuel s = some s') :
    s'.peticiones = s.peticiones := by
  induction fuel generalizing s with
  | zero => cases h
  | succ fuel ih =>
    unfold compactarOcupados at h
    rcases ite_eq_iff.1 h with ⟨-, h⟩ | ⟨-, h⟩
    · rw [Option.some.inj h]
    · obtain ⟨s₁, hmover, h⟩ := Option.bind_eq_some_iff.1 h
      exact (ih h).trans (moverArchivo_peticiones hmover)

theorem compactarFileSystem_peticiones {i : ℕ} {a : Archivo} {n : ℤ}
    (h : compactarFileSystem c s i a n = some s') : s'.peticiones = s.peticiones := by
  unfold compactarFileSystem at h
  obtain ⟨datosArchivo, -, h⟩ := Option.bind_eq_some_iff.1 h
  obtain ⟨limpios, -, h⟩ := Option.bind_eq_some_iff.1 h
  obtain ⟨s₁, hcompactar, h⟩ := Option.bind_eq_some_iff.1 h
  obtain ⟨datosBloques, -, h⟩ := Option.bind_eq_some_iff.1 h
  have hpeticiones := compactarOcupados_peticiones hcompactar
  rw [← Option.some.inj h]
  exact hpeticiones

theorem ampliarArchivo_peticiones {i : ℕ} {a : Archivo} {n : ℤ}
    (h : ampliarArchivo c s i a n = some s') : s'.peticiones = s.peticiones := by
  unfold ampliarArchivo at h
  rcases ite_eq_iff.1 h with ⟨-, h⟩ | ⟨-, h⟩
  · rcases ite_eq_iff.1 h with ⟨-, h⟩ | ⟨-, h⟩
    · rw [← Option.some.inj h]
      rfl
    · exact compactarFileSystem_peticiones h
  · rw [Option.some.inj h]

theorem ioFsTruncate_peticiones {n : ℤ} (h : ioFsTruncate c s nombre n = some s') :
    s'.peticiones = s.peticiones := by
  obtain ⟨⟨i, a⟩, hobt, -⟩ := Option.bind_eq_some_iff.1 h
  rw [ioFsTruncate_eq hobt] at h
  obtain ⟨s₁, hrama, rfl⟩ := Option.map_eq_some_iff.1 h
  show s₁.peticiones = _
  rcases ite_eq_iff.1 hrama with ⟨-, hrama⟩ | ⟨-, hrama⟩
  · exact ampliarArchivo_peticiones hrama
  · obtain ⟨datosBloques, -, hrama⟩ := Option.map_eq_some_iff.1 hrama
    rw [← hrama]
    rfl

theorem ioFsCreate_peticiones (c : InoutConfig) (s : Estado) (nombre : Cadena) :
    (ioFsCreate c s nombre).peticiones = s.peticiones := by
  unfold ioFsCreate
  dsimp only
  split_ifs with hlibre
  · rfl
  · cases get s.directorio nombre with
    | none => rfl
    | some entrada => rfl

theorem ioFsDelete_peticiones (h : ioFsDelete c s nombre = some s') :
    s'.peticiones = s.peticiones := by
  unfold ioFsDelete at h
  obtain ⟨⟨i, a⟩, -, h⟩ := Option.bind_eq_some_iff.1 h
  obtain ⟨datosBloques, -, h⟩ := Option.bind_eq_some_iff.1 h
  rw [← Option.some.inj h]
  rfl

/-- An operation that moves no bytes asks for nothing. -/
theorem atender_sin_memoria {p : Pedido} (hp : p.usaMemoria = false)
    (h : p.atender c s pid e = some s') : s'.peticiones = s.peticiones := by
  cases p with
  | genSleep unidades =>
    rw [← Option.some.inj h]
    rfl
  | fsCreate nombre =>
    rw [← Option.some.inj h]
    exact ioFsCreate_peticiones c s nombre
  | fsDelete nombre => exact ioFsDelete_peticiones h
  | fsTruncate nombre n => exact ioFsTruncate_peticiones h
  | stdinRead direccion tamanio => cases hp
  | stdoutWrite direccion tamanio => cases hp
  | fsWrite nombre direccion tamanio puntero => cases hp
  | fsRead nombre direccion tamanio puntero => cases hp

/-! ### Writes and reads of files -/

/-- A write asks for the bytes, unless they do not fit in the file. -/
theorem ioFsWrite_peticiones {direccion tamanio puntero : ℤ} {respuesta : Respuesta} {i : ℕ}
    {a : Archivo} (hobt : obtenerArchivoPorNombre s nombre = some (i, a))
    (h : ioFsWrite c s pid nombre direccion tamanio puntero respuesta = some s') :
    s'.peticiones = s.peticiones ++
      if int32 (puntero + tamanio) ≤ a.config.tamanioArchivo then
        [.lectura pid direccion tamanio] else [] := by
  unfold ioFsWrite at h
  rw [hobt] at h
  simp only [Option.bind_eq_bind, Option.bind_some] at h
  rcases ite_eq_iff.1 h with ⟨hcabe, h⟩ | ⟨hno, h⟩
  · rw [if_pos hcabe]
    obtain ⟨⟨s₁, mensaje⟩, hpedido, h⟩ := Option.bind_eq_some_iff.1 h
    obtain ⟨datosBloques, -, h⟩ := Option.bind_eq_some_iff.1 h
    rw [← Option.some.inj h]
    show s₁.peticiones = _
    cases respuesta with
    | mensaje => cases hpedido
    | paquete bytes => rw [← (Prod.mk.inj (Option.some.inj hpedido)).1]
  · rw [if_neg hno, List.append_nil, ← Option.some.inj h]
    rfl

/-- The string that a read sends: the bytes of the file and those after the buffer, up to the first
zero. -/
def Almacen.texto (m : Almacen) (n : Cadena) (tamanio puntero : ℤ) (resto : List UInt8) :
    List UInt8 :=
  (((m.contenido n).drop puntero.toNat).take tamanio.toNat ++ resto).takeWhile fun b => b ≠ 0

/-- The bytes of a range of a file. -/
theorem Invariante.bytesDesde_eq (hc : c.Valida) {N : Finset Cadena} {ext : Cadena → Extent UInt8}
    (h : Invariante c N ext s) {x : Cadena} (hx : x ∈ N) {puntero tamanio : ℕ}
    (hcabe : puntero + tamanio ≤ (ext x).bytes.length) :
    bytesDesde s.datosBloques ((ext x).start * c.blockSize + puntero) tamanio =
      ((ext x).bytes.drop puntero).take tamanio := by
  have hbs := hc.blockSize_pos
  apply List.ext_getElem
  · simp [bytesDesde]
    omega
  · intro i h1 h2
    have hi : i < tamanio := by simpa [bytesDesde] using h1
    have hown : (ext x).Owns (((ext x).start * c.blockSize + (puntero + i : ℕ)) / c.blockSize) :=
      (h.guarda.sound x hx).owns_of_lt (by omega) (by omega) (by push_cast; omega)
    have hbyte := h.guarda.bytes x hx _ hown
    unfold Extent.byteAt at hbyte
    rw [add_sub_cancel_left, Int.toNat_natCast, List.getD_eq_getElem _ _ (by omega)] at hbyte
    simp only [bytesDesde, List.getElem_map, List.getElem_range, List.getElem_take,
      List.getElem_drop]
    rw [← hbyte]
    congr 1
    push_cast
    ring

/-- A read of a range of a file of the store. -/
theorem Refina.ioFsRead (hc : c.Valida) {m : Almacen} (h : Refina c m s) (pid : Cadena)
    (hn : nombre ∈ m.nombres) (direccion : ℤ) {tamanio puntero : ℤ} (hp : 0 ≤ puntero)
    (ht : 0 ≤ tamanio) (hcabe : puntero + tamanio ≤ (m.contenido nombre).length)
    (resto : List UInt8) :
    DialFS.ioFsRead c s pid nombre direccion tamanio puntero resto = some (enviarMensaje
      (peticionEscrituraMemoria s pid direccion (m.texto nombre tamanio puntero resto))
        "END_OF_IO_FS_READ") := by
  obtain ⟨ext, hinv, hbytes⟩ := h
  obtain ⟨puntero, rfl⟩ := Int.eq_ofNat_of_zero_le hp
  obtain ⟨tamanio, rfl⟩ := Int.eq_ofNat_of_zero_le ht
  rw [← hbytes nombre hn] at hcabe
  obtain ⟨i, hobt, -⟩ := hinv.catalogo.porNombre hn
  have hmapeo := enMapeo_of_sound hc (hinv.guarda.sound nombre hn) (p := puntero) (n := tamanio)
    (by omega) (by have := (hinv.guarda.sound nombre hn).fits; omega)
  rw [ioFsRead_eq hobt ⟨ht, hmapeo⟩]
  unfold Almacen.texto
  rw [← hbytes nombre hn, Int.toNat_natCast, Int.toNat_natCast,
    ← hinv.bytesDesde_eq hc hn (by omega)]
  rfl

/-- What was sent does not matter to the files. -/
theorem Refina.congr {m : Almacen} (h : Refina c m s) (hdatos : s'.datosBloques = s.datosBloques)
    (hbitmap : s'.bitmap = s.bitmap) (hlista : s'.listaArchivos = s.listaArchivos)
    (hdir : s'.directorio = s.directorio) : Refina c m s' := by
  obtain ⟨ext, hinv, hbytes⟩ := h
  refine ⟨ext, ⟨?_, hinv.anchos, hinv.catalogo.congr_estado hlista hdir⟩, hbytes⟩
  rw [hbitmap, hdatos]
  exact hinv.guarda

end SimuladorSO.DialFS
