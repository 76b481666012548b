import SimuladorSO.DialFS.Almacen

/-!
# Restarting DialFS

`iniciar_file_system` in a directory that may have files of an earlier run.  The two mappings are
shared, so what the process leaves behind is in the two files they map, and `config_save` and
`config_create` write and read the two keys of the metadata.

* `Disco`, `Estado.disco`: the files of `PATH_BASE_DIALFS`, and those that a state leaves there;
* `iniciarFileSystemEn`, `obtenerArchivos`: the restart, for the order in which `readdir` lists the
  directory;
* `paso_redondeada`: the blocks past the last whole byte of the bitmap are never used;
* `Invariante.reinicio`: what the restart of a state that satisfies the invariant rebuilds;
* `reinicio_identidad`: the restart after any run.
-/

namespace SimuladorSO.DialFS

open CInt Dictionary Extents Loops Transitions

/-! ### The files of the directory -/

/-- The files of `PATH_BASE_DIALFS`: what each one is, the bytes of the blocks file and the bits of
the bitmap file, in the order in which the bitarray numbers them. -/
structure Disco where
  directorio : Dict Cadena Entrada
  bytesBloques : List UInt8
  bitsBitmap : List Bool

/-- An empty directory. -/
def Disco.vacio : Disco := ⟨[], [], []⟩

/-- The cells of a shared mapping of a file; those past its end are empty. -/
def mapear {α : Type*} (vacia : α) (contenido : List α) (j : ℤ) : α :=
  if 0 ≤ j then contenido.getD j.toNat vacia else vacia

/-- The first `n` cells of a shared mapping, which are the content of its file. -/
def volcar {α : Type*} (n : ℤ) (mapeo : ℤ → α) : List α :=
  (List.range n.toNat).map fun i : ℕ => mapeo i

variable (c : InoutConfig)

/-- What a state leaves in the directory. -/
def Estado.disco (s : Estado) : Disco where
  directorio := s.directorio
  bytesBloques := volcar (c.blockSize * c.blockCount) s.datosBloques
  bitsBitmap := volcar (maxBit c) s.bitmap

/-- The blocks file is created when it is missing, and it is given its size in any case. -/
def abrirArchivoBloques (d : Disco) : Disco :=
  match get d.directorio (nombreArchivoBloques c) with
  | none =>
    { d with
      directorio := put d.directorio (nombreArchivoBloques c) .bloques
      bytesBloques := resize (c.blockSize * c.blockCount).toNat [] }
  | some _ =>
    { d with bytesBloques := resize (c.blockSize * c.blockCount).toNat d.bytesBloques }

/-- The bitmap file is created and given its size when it is missing. -/
def abrirBitmap (d : Disco) : Disco :=
  match get d.directorio (nombreArchivoBitmap c) with
  | none =>
    { d with
      directorio := put d.directorio (nombreArchivoBitmap c) .bitmap
      bitsBitmap := List.replicate (maxBit c).toNat false }
  | some _ => d

/-- The names that `obtener_archivos` passes over: the directory itself, its parent and the
interface's own two files. -/
def Omitido (n : Cadena) : Prop :=
  (n = ".".toList ∨ n = "..".toList) ∨ n = nombreArchivoBloques c ∨ n = nombreArchivoBitmap c

instance (n : Cadena) : Decidable (Omitido c n) := inferInstanceAs (Decidable (_ ∨ _))

/-- One iteration of `obtener_archivos`; `none` where the file does not have the two keys. -/
def obtenerUnArchivo (s : Estado) (dName : Cadena) : Option Estado :=
  if Omitido c dName then some s
  else
    match get s.directorio dName with
    | some (.metadata config) =>
      some { s with
        listaArchivos := s.listaArchivos ++ [⟨dName, config⟩]
        bitmap :=
          bitmapSetNBits s.bitmap config.bloqueInicial (bytesABloques c config.tamanioArchivo) }
    | _ => none

/-- `obtener_archivos`, for the names that `readdir` answers one after another. -/
def obtenerArchivos (orden : List Cadena) (s : Estado) : Option Estado :=
  orden.foldlM (obtenerUnArchivo c) s

/-- `iniciar_file_system` on the files of a directory, in a process that has sent nothing. -/
def iniciarFileSystemEn (orden : List Cadena) (d : Disco) : Option Estado :=
  let d := abrirBitmap c (abrirArchivoBloques c d)
  obtenerArchivos c orden
    { datosBloques := mapear 0 d.bytesBloques
      bitmap := mapear false d.bitsBitmap
      listaArchivos := []
      directorio := d.directorio
      enviados := []
      peticiones := [] }

/-- The answers of `readdir`: the directory, its parent and each file once, in any order. -/
structure Enumera (orden : List Cadena) (directorio : Dict Cadena Entrada) : Prop where
  nodup : orden.Nodup
  mem : ∀ n, n ∈ orden ↔
    (n = ".".toList ∨ n = "..".toList) ∨ (get directorio n).isSome

theorem Enumera.existe (directorio : Dict Cadena Entrada) : ∃ orden, Enumera orden directorio := by
  refine ⟨(".".toList :: "..".toList :: directorio.map Prod.fst).dedup, List.nodup_dedup _, ?_⟩
  intro n
  rw [List.mem_dedup, List.mem_cons, List.mem_cons, get_isSome_iff, or_assoc]

variable {c}

theorem mapear_volcar {α : Type*} (vacia : α) (mapeo : ℤ → α) {n j : ℤ} (h0 : 0 ≤ j) (hj : j < n) :
    mapear vacia (volcar n mapeo) j = mapeo j := by
  have hlt : j.toNat < n.toNat := by omega
  unfold mapear volcar
  rw [if_pos h0, List.getD_eq_getElem _ _ (by simpa using hlt), List.getElem_map,
    List.getElem_range, Int.toNat_of_nonneg h0]

theorem mapear_replicate {α : Type*} (vacia : α) (n : ℕ) :
    mapear vacia (List.replicate n vacia) = fun _ => vacia := by
  funext j
  unfold mapear
  split_ifs
  · rw [List.getD_eq_getElem?_getD, List.getElem?_replicate]
    split_ifs <;> rfl
  · rfl

/-- The blocks file that a state leaves already has its size. -/
theorem resize_volcar (n : ℤ) (mapeo : ℤ → UInt8) :
    resize n.toNat (volcar n mapeo) = volcar n mapeo := by
  have hlen : (volcar n mapeo).length = n.toNat := by simp [volcar]
  unfold resize
  rw [hlen, Nat.sub_self, List.replicate_zero, List.append_nil, ← hlen, List.take_length]

/-! ### What the restart rebuilds -/

variable {s : Estado} {N : Finset Cadena} {ext : Cadena → Extent UInt8}

theorem nombreArchivoBloques_ne : nombreArchivoBloques c ≠ nombreArchivoBitmap c := by
  unfold nombreArchivoBloques nombreArchivoBitmap
  intro h
  have hsegundo := congrArg (fun l : Cadena => l[1]?) h
  simp at hsegundo

theorem obtenerArchivos_cons (n : Cadena) (orden : List Cadena) (s : Estado) :
    obtenerArchivos c (n :: orden) s =
      (obtenerUnArchivo c s n).bind (obtenerArchivos c orden) := by
  unfold obtenerArchivos
  rw [List.foldlM_cons]
  rfl

theorem obtenerUnArchivo_metadata {n : Cadena} {config : Metadata} (hn : ¬ Omitido c n)
    (h : get s.directorio n = some (.metadata config)) :
    obtenerUnArchivo c s n =
      some { s with
        listaArchivos := s.listaArchivos ++ [⟨n, config⟩]
        bitmap :=
          bitmapSetNBits s.bitmap config.bloqueInicial
            (bytesABloques c config.tamanioArchivo) } := by
  unfold obtenerUnArchivo
  rw [if_neg hn, h]

/-- The loop lists the files of the directory that it does not pass over, and sets their bits. -/
theorem obtenerArchivos_eq (s : Estado) (conf : Cadena → Metadata) {orden : List Cadena}
    (h : ∀ n ∈ orden, ¬ Omitido c n → get s.directorio n = some (.metadata (conf n))) :
    ∃ s', obtenerArchivos c orden s = some s' ∧
      s'.listaArchivos = s.listaArchivos ++
        (orden.filter fun n => ¬ Omitido c n).map (fun n => ⟨n, conf n⟩) ∧
      s'.datosBloques = s.datosBloques ∧ s'.directorio = s.directorio ∧
      ∀ b, s'.bitmap b = true ↔ s.bitmap b = true ∨ ∃ n ∈ orden, ¬ Omitido c n ∧
        (conf n).bloqueInicial ≤ b ∧
        b < (conf n).bloqueInicial + bytesABloques c (conf n).tamanioArchivo := by
  induction orden generalizing s with
  | nil => exact ⟨s, rfl, by simp, rfl, rfl, by simp⟩
  | cons n orden ih =>
    rw [obtenerArchivos_cons]
    by_cases hn : Omitido c n
    · have hsalta : obtenerUnArchivo c s n = some s := if_pos hn
      obtain ⟨s', hs', hlista, hdatos, hdir, hbits⟩ :=
        ih s fun k hk => h k (List.mem_cons_of_mem n hk)
      rw [hsalta, Option.bind_some]
      refine ⟨s', hs', ?_, hdatos, hdir, fun b => ?_⟩
      · rw [hlista, List.filter_cons_of_neg (by simpa using hn)]
      · rw [hbits]
        simp [hn]
    · obtain ⟨s', hs', hlista, hdatos, hdir, hbits⟩ :=
        ih { s with
          listaArchivos := s.listaArchivos ++ [⟨n, conf n⟩]
          bitmap :=
            bitmapSetNBits s.bitmap (conf n).bloqueInicial
              (bytesABloques c (conf n).tamanioArchivo) }
          fun k hk => h k (List.mem_cons_of_mem n hk)
      rw [obtenerUnArchivo_metadata hn (h n List.mem_cons_self hn), Option.bind_some]
      refine ⟨s', hs', ?_, hdatos, hdir, fun b => ?_⟩
      · rw [hlista, List.filter_cons_of_pos (by simpa using hn)]
        simp
      · rw [hbits]
        simp only [bitmapSetNBits_apply, List.mem_cons, exists_eq_or_imp, hn, not_false_eq_true,
          true_and]
        split_ifs with hb
        · simp [hb]
        · simp [hb]

/-- The two own files that a state leaves are opened as they are. -/
theorem abrir_disco (hpropios : ∀ n, Reservado c n → (get s.directorio n).isSome) :
    abrirBitmap c (abrirArchivoBloques c (s.disco c)) = s.disco c := by
  have hbloques : abrirArchivoBloques c (s.disco c) = s.disco c := by
    obtain ⟨entrada, hentrada⟩ := Option.isSome_iff_exists.1 (hpropios _ (Or.inl rfl))
    have hget : get (s.disco c).directorio (nombreArchivoBloques c) = some entrada := hentrada
    unfold abrirArchivoBloques
    rw [hget]
    show Disco.mk s.directorio (resize _ (volcar _ s.datosBloques)) (volcar _ s.bitmap) = _
    rw [resize_volcar]
    rfl
  obtain ⟨entrada, hentrada⟩ := Option.isSome_iff_exists.1 (hpropios _ (Or.inr rfl))
  have hget : get (s.disco c).directorio (nombreArchivoBitmap c) = some entrada := hentrada
  rw [hbloques]
  unfold abrirBitmap
  rw [hget]

variable (c) in
/-- The state `s'` is the state `s` read back from its files: the same files with the same metadata,
in any order, the same directory, and the same cells of the mappings. -/
structure Reinicia (s s' : Estado) : Prop where
  lista : s'.listaArchivos.Perm s.listaArchivos
  directorio : s'.directorio = s.directorio
  bitmap : ∀ b, 0 ≤ b → b < maxBit c → s'.bitmap b = s.bitmap b
  bytes : ∀ j, 0 ≤ j → j < c.blockSize * c.blockCount → s'.datosBloques j = s.datosBloques j

/-- Of the names that `readdir` answers, those of the files are not passed over. -/
theorem Invariante.enumera_iff (h : Invariante c N ext s)
    (hpuntos : ∀ n ∈ N, ¬ (n = ".".toList ∨ n = "..".toList)) {orden : List Cadena}
    (horden : Enumera orden s.directorio) (n : Cadena) : n ∈ orden ∧ ¬ Omitido c n ↔ n ∈ N := by
  rw [horden.mem]
  constructor
  · rintro ⟨hpresente, hno⟩
    have hpunto : ¬ (n = ".".toList ∨ n = "..".toList) := fun h => hno (Or.inl h)
    have hreservado : ¬ Reservado c n := fun h => hno (Or.inr h)
    have hsome := hpresente.resolve_left hpunto
    by_contra hn
    rw [h.catalogo.directorio n hreservado, if_neg hn] at hsome
    cases hsome
  · intro hn
    have hreservado := h.catalogo.ajenos n hn
    refine ⟨Or.inr ?_, ?_⟩
    · rw [h.catalogo.directorio n hreservado, if_pos hn]
      rfl
    · rintro (hpunto | hpropio)
      · exact hpuntos n hn hpunto
      · exact hreservado hpropio

/-- **One restart**: the list, the bitmap and the bytes are those that the files on disk describe,
and these are the ones the state had. -/
theorem Invariante.reinicio (h : Invariante c N ext s)
    (hpuntos : ∀ n ∈ N, ¬ (n = ".".toList ∨ n = "..".toList)) {orden : List Cadena}
    (horden : Enumera orden s.directorio) :
    ∃ s', iniciarFileSystemEn c orden (s.disco c) = some s' ∧ Reinicia c s s' := by
  have hmem := h.enumera_iff hpuntos horden
  unfold iniciarFileSystemEn
  rw [abrir_disco h.catalogo.propios]
  obtain ⟨s', hs', hlista, hdatos, hdir, hbits⟩ :=
    obtenerArchivos_eq
      { datosBloques := mapear 0 (s.disco c).bytesBloques
        bitmap := mapear false (s.disco c).bitsBitmap
        listaArchivos := []
        directorio := (s.disco c).directorio
        enviados := []
        peticiones := [] }
      (fun n => metadataDe (ext n))
      fun n hn hno => by
        have hN := (hmem n).1 ⟨hn, hno⟩
        show get s.directorio n = _
        rw [h.catalogo.directorio n (h.catalogo.ajenos n hN), if_pos hN]
  refine ⟨s', hs', ?_, hdir, fun b h0 hb => ?_, fun j h0 hj => ?_⟩
  · -- both lists have each file of `N` once
    have hnodup : s'.listaArchivos.Nodup := by
      rw [hlista, List.nil_append]
      refine (horden.nodup.filter _).map fun n n' heq => ?_
      exact congrArg Archivo.nombreArchivo heq
    rw [List.perm_ext_iff_of_nodup hnodup (List.Nodup.of_map _ h.catalogo.nodup)]
    intro a
    rw [h.catalogo.lista, hlista, List.nil_append, List.mem_map]
    constructor
    · rintro ⟨n, hn, rfl⟩
      obtain ⟨hn, hno⟩ := List.mem_filter.1 hn
      exact ⟨(hmem n).1 ⟨hn, by simpa using hno⟩, rfl⟩
    · rintro ⟨ha, hconf⟩
      obtain ⟨hn, hno⟩ := (hmem _).2 ha
      refine ⟨a.nombreArchivo, List.mem_filter.2 ⟨hn, by simpa using hno⟩, ?_⟩
      rw [← hconf]
  · -- the bits set again are those of blocks that are marked already
    rw [Bool.eq_iff_iff, hbits]
    show mapear false (volcar (maxBit c) s.bitmap) b = true ∨ _ ↔ _
    rw [mapear_volcar _ _ h0 hb]
    constructor
    · rintro (hb | ⟨n, hn, hno, hdesde, hhasta⟩)
      · exact hb
      · have hN := (hmem n).1 ⟨hn, hno⟩
        refine h.guarda.mark_of_owns hN ⟨hdesde, ?_⟩
        rw [h.anchos n hN]
        exact hhasta
    · exact Or.inl
  · rw [hdatos]
    exact mapear_volcar _ _ h0 hj

/-! ### Blocks that the bitmap does not cover -/

/-- The configurations with which DialFS can start: the sizes of both mappings are positive, and
that of the blocks file is an `int`. -/
structure InoutConfig.Mapeable (c : InoutConfig) : Prop where
  blockSize_pos : 1 ≤ c.blockSize
  blockCount_pos : 8 ≤ c.blockCount
  tamanio_int : c.blockSize * c.blockCount < 2 ^ 31

/-- The configuration with as many blocks as the bitmap has bits. -/
def InoutConfig.redondeada (c : InoutConfig) : InoutConfig := { c with blockCount := maxBit c }

@[simp] theorem maxBit_redondeada : maxBit c.redondeada = maxBit c := by
  show 8 * (8 * (c.blockCount / 8) / 8) = 8 * (c.blockCount / 8)
  omega

theorem InoutConfig.Mapeable.maxBit_le (hc : c.Mapeable) :
    c.blockSize * maxBit c ≤ c.blockSize * c.blockCount := by
  have hle : maxBit c ≤ c.blockCount := by
    unfold maxBit
    omega
  exact mul_le_mul_of_nonneg_left hle (by have := hc.blockSize_pos; omega)

theorem InoutConfig.Mapeable.redondeada (hc : c.Mapeable) : c.redondeada.Valida where
  blockSize_pos := hc.blockSize_pos
  blockCount_pos := by
    show 0 < 8 * (c.blockCount / 8)
    have := hc.blockCount_pos
    omega
  blockCount_dvd := Dvd.intro _ rfl
  tamanio_int := hc.maxBit_le.trans_lt hc.tamanio_int

theorem enMapeo_redondeada (hc : c.Mapeable) {a n : ℤ} (h : EnMapeo c.redondeada a n) :
    EnMapeo c a n := by
  intro hn
  obtain ⟨h0, hle⟩ := h hn
  have hle : a + n ≤ c.blockSize * maxBit c := hle
  exact ⟨h0, hle.trans hc.maxBit_le⟩

/-- A computation that completes does so too when its two parts are extended. -/
theorem bind_extendido {α β : Type*} {x y : Option α} {f g : α → Option β} {b : β}
    (hxy : ∀ a, x = some a → y = some a) (hfg : ∀ a, f a = some b → g a = some b)
    (h : x.bind f = some b) : y.bind g = some b := by
  obtain ⟨a, ha, hb⟩ := Option.bind_eq_some_iff.1 h
  rw [hxy a ha, Option.bind_some]
  exact hfg a hb

theorem limpiarNBytesBloques_redondeada (hc : c.Mapeable) {datos d : ℤ → UInt8} {a n : ℤ}
    (h : limpiarNBytesBloques c.redondeada datos a n = some d) :
    limpiarNBytesBloques c datos a n = some d := by
  unfold limpiarNBytesBloques at h ⊢
  rcases ite_eq_iff.1 h with ⟨hm, h⟩ | ⟨-, h⟩
  · rw [if_pos (enMapeo_redondeada hc hm), h]
  · cases h

theorem leerBloques_redondeada (hc : c.Mapeable) {datos : ℤ → UInt8} {l : List UInt8} {a n : ℤ}
    (h : leerBloques c.redondeada datos a n = some l) : leerBloques c datos a n = some l := by
  unfold leerBloques at h ⊢
  rcases ite_eq_iff.1 h with ⟨hm, h⟩ | ⟨-, h⟩
  · rw [if_pos ⟨hm.1, enMapeo_redondeada hc hm.2⟩, h]
  · cases h

theorem escribirBloques_redondeada (hc : c.Mapeable) {datos d : ℤ → UInt8} {origen : List UInt8}
    {a n : ℤ} (h : escribirBloques c.redondeada datos a origen n = some d) :
    escribirBloques c datos a origen n = some d := by
  unfold escribirBloques at h ⊢
  rcases ite_eq_iff.1 h with ⟨hm, h⟩ | ⟨-, h⟩
  · rw [if_pos ⟨hm.1, enMapeo_redondeada hc hm.2⟩, h]
  · cases h

theorem posicionBloqueLibre_redondeada (s : Estado) :
    posicionBloqueLibre c.redondeada s = posicionBloqueLibre c s := by
  unfold posicionBloqueLibre
  rw [maxBit_redondeada]

theorem bloqueOcupadoDesde_redondeada (s : Estado) (desde : ℤ) :
    bloqueOcupadoDesde c.redondeada s desde = bloqueOcupadoDesde c s desde := by
  unfold bloqueOcupadoDesde
  rw [maxBit_redondeada]

theorem cantidadBloquesLibres_redondeada (s : Estado) :
    cantidadBloquesLibres c.redondeada s = cantidadBloquesLibres c s := by
  unfold cantidadBloquesLibres
  rw [maxBit_redondeada]

theorem bytesABloques_redondeada (n : ℤ) :
    bytesABloques c.redondeada n = bytesABloques c n := rfl

theorem moverArchivo_redondeada (hc : c.Mapeable) {s' : Estado} {libre ocupado : ℤ}
    (h : moverArchivo c.redondeada s libre ocupado = some s') :
    moverArchivo c s libre ocupado = some s' := by
  unfold moverArchivo at h ⊢
  refine bind_extendido (fun a ha => ha) (fun ⟨i, a⟩ h => ?_) h
  refine bind_extendido (fun l hl => leerBloques_redondeada hc hl) (fun l h => ?_) h
  refine bind_extendido (fun d hd => limpiarNBytesBloques_redondeada hc hd) (fun d h => ?_) h
  exact bind_extendido (fun d hd => escribirBloques_redondeada hc hd) (fun d h => h) h

theorem compactarOcupados_redondeada (hc : c.Mapeable) {fuel : ℕ} {s' : Estado}
    (h : compactarOcupados c.redondeada fuel s = some s') :
    compactarOcupados c fuel s = some s' := by
  induction fuel generalizing s with
  | zero => exact h
  | succ fuel ih =>
    unfold compactarOcupados at h ⊢
    simp only [posicionBloqueLibre_redondeada, bloqueOcupadoDesde_redondeada] at h
    rcases ite_eq_iff.1 h with ⟨hfin, h⟩ | ⟨hsigue, h⟩
    · exact (if_pos hfin).trans h
    · refine (if_neg hsigue).trans ?_
      exact bind_extendido (fun a ha => moverArchivo_redondeada hc ha) (fun a ha => ih ha) h

theorem compactarFileSystem_redondeada (hc : c.Mapeable) {s' : Estado} {i : ℕ} {a : Archivo}
    {n : ℤ} (h : compactarFileSystem c.redondeada s i a n = some s') :
    compactarFileSystem c s i a n = some s' := by
  unfold compactarFileSystem at h ⊢
  rw [maxBit_redondeada] at h
  refine bind_extendido (fun l hl => leerBloques_redondeada hc hl) (fun l h => ?_) h
  refine bind_extendido (fun d hd => limpiarNBytesBloques_redondeada hc hd) (fun d h => ?_) h
  refine bind_extendido (fun t ht => compactarOcupados_redondeada hc ht) (fun t h => ?_) h
  simp only [posicionBloqueLibre_redondeada] at h
  exact bind_extendido (fun d hd => escribirBloques_redondeada hc hd) (fun d h => h) h

theorem ioFsCreate_redondeada (s : Estado) (n : Cadena) :
    ioFsCreate c.redondeada s n = ioFsCreate c s n := by
  unfold ioFsCreate
  rw [posicionBloqueLibre_redondeada]

theorem ioFsDelete_redondeada (hc : c.Mapeable) {s' : Estado} {n : Cadena}
    (h : ioFsDelete c.redondeada s n = some s') : ioFsDelete c s n = some s' := by
  unfold ioFsDelete at h ⊢
  refine bind_extendido (fun a ha => ha) (fun ⟨i, a⟩ h => ?_) h
  exact bind_extendido (fun d hd => limpiarNBytesBloques_redondeada hc hd) (fun d h => h) h

theorem ampliarArchivo_redondeada (hc : c.Mapeable) {s' : Estado} {i : ℕ} {a : Archivo} {n : ℤ}
    (h : DialFS.ampliarArchivo c.redondeada s i a n = some s') :
    DialFS.ampliarArchivo c s i a n = some s' := by
  unfold DialFS.ampliarArchivo at h ⊢
  simp only [cantidadBloquesLibres_redondeada, bloqueOcupadoDesde_redondeada, maxBit_redondeada,
    bytesABloques_redondeada] at h
  rcases ite_eq_iff.1 h with ⟨hcabe, h⟩ | ⟨hno, h⟩
  · refine (if_pos hcabe).trans ?_
    rcases ite_eq_iff.1 h with ⟨hcontiguo, h⟩ | ⟨hno, h⟩
    · exact (if_pos hcontiguo).trans h
    · exact (if_neg hno).trans (compactarFileSystem_redondeada hc h)
  · exact (if_neg hno).trans h

theorem achicarArchivo_redondeada (hc : c.Mapeable) {s' : Estado} {i : ℕ} {a : Archivo} {n : ℤ}
    (h : DialFS.achicarArchivo c.redondeada s i a n = some s') :
    DialFS.achicarArchivo c s i a n = some s' := by
  unfold DialFS.achicarArchivo at h ⊢
  obtain ⟨d, hd, rfl⟩ := Option.map_eq_some_iff.1 h
  exact Option.map_eq_some_iff.2 ⟨d, limpiarNBytesBloques_redondeada hc hd, rfl⟩

theorem ioFsTruncate_redondeada (hc : c.Mapeable) {s' : Estado} {n : Cadena} {t : ℤ}
    (h : ioFsTruncate c.redondeada s n t = some s') : ioFsTruncate c s n t = some s' := by
  unfold ioFsTruncate at h ⊢
  refine bind_extendido (fun a ha => ha) (fun ⟨i, a⟩ h => ?_) h
  rcases ite_eq_iff.1 h with ⟨hcrece, h⟩ | ⟨hno, h⟩
  · refine (if_pos hcrece).trans ?_
    exact bind_extendido (fun t ht => ampliarArchivo_redondeada hc ht) (fun t h => h) h
  · refine (if_neg hno).trans ?_
    exact bind_extendido (fun t ht => achicarArchivo_redondeada hc ht) (fun t h => h) h

theorem ioFsWrite_redondeada (hc : c.Mapeable) {s' : Estado} {pid n : Cadena}
    {direccion tamanio puntero : ℤ} {respuesta : Respuesta}
    (h : ioFsWrite c.redondeada s pid n direccion tamanio puntero respuesta = some s') :
    ioFsWrite c s pid n direccion tamanio puntero respuesta = some s' := by
  unfold ioFsWrite at h ⊢
  refine bind_extendido (fun a ha => ha) (fun ⟨i, a⟩ h => ?_) h
  rcases ite_eq_iff.1 h with ⟨hcabe, h⟩ | ⟨hno, h⟩
  · refine (if_pos hcabe).trans ?_
    refine bind_extendido (fun a ha => ha) (fun ⟨t, m⟩ h => ?_) h
    exact bind_extendido (fun d hd => escribirBloques_redondeada hc hd) (fun d h => h) h
  · exact (if_neg hno).trans h

/-- A request that completes without the blocks past the bitmap does the same with them. -/
theorem paso_redondeada (hc : c.Mapeable) {s' : Estado} {op : Operacion}
    (h : paso c.redondeada s op = some s') : paso c s op = some s' := by
  cases op with
  | create pid n => exact (congrArg some (ioFsCreate_redondeada s n)).symm.trans h
  | delete pid n => exact ioFsDelete_redondeada hc h
  | truncate pid n t => exact ioFsTruncate_redondeada hc h
  | write pid n direccion tamanio puntero mensaje => exact ioFsWrite_redondeada hc h

theorem Invariante.de_redondeada (h : Invariante c.redondeada N ext s) : Invariante c N ext s where
  guarda := by
    have hguarda := h.guarda
    rw [maxBit_redondeada] at hguarda
    exact hguarda
  anchos := h.anchos
  catalogo := ⟨h.catalogo.nodup, h.catalogo.lista, h.catalogo.directorio, h.catalogo.ajenos,
    h.catalogo.propios⟩

/-! ### Restart after a run -/

/-- A name that the file system of the host takes for one file of the directory. -/
def NombrePlano (n : Cadena) : Prop :=
  n ≠ [] ∧ '/' ∉ n ∧ ¬ (n = ".".toList ∨ n = "..".toList)

instance (n : Cadena) : Decidable (NombrePlano n) := inferInstanceAs (Decidable (_ ∧ _))

/-- The names given to a create are plain. -/
def Operacion.Plana : Operacion → Prop
  | .create _ n => NombrePlano n
  | _ => True

instance : (op : Operacion) → Decidable op.Plana
  | .create _ n => inferInstanceAs (Decidable (NombrePlano n))
  | .delete _ _ => isTrue trivial
  | .truncate _ _ _ => isTrue trivial
  | .write _ _ _ _ _ _ => isTrue trivial

theorem obtenerArchivos_omitidos {orden : List Cadena} (h : ∀ n ∈ orden, Omitido c n)
    (s : Estado) : obtenerArchivos c orden s = some s := by
  induction orden with
  | nil => rfl
  | cons n orden ih =>
    have hsalta : obtenerUnArchivo c s n = some s := if_pos (h n List.mem_cons_self)
    rw [obtenerArchivos_cons, hsalta, Option.bind_some]
    exact ih fun k hk => h k (List.mem_cons_of_mem n hk)

/-- In an empty directory the two own files are created, and no file is found. -/
theorem iniciarFileSystemEn_vacio {orden : List Cadena}
    (horden : Enumera orden (iniciarFileSystem c).directorio) :
    iniciarFileSystemEn c orden .vacio = some (iniciarFileSystem c) := by
  have hinicio : Invariante c ∅ (fun _ => ⟨0, 1, []⟩) (iniciarFileSystem c) := Invariante.vacio
  have homitidos : ∀ n ∈ orden, Omitido c n := by
    intro n hn
    by_contra hno
    have hmem := (hinicio.enumera_iff (by simp) horden n).1 ⟨hn, hno⟩
    cases hmem
  have hbitmap : get (put ([] : Dict Cadena Entrada) (nombreArchivoBloques c) .bloques)
      (nombreArchivoBitmap c) = none := by
    rw [get_put_of_ne _ _ nombreArchivoBloques_ne.symm, get_nil]
  have habrir : abrirBitmap c (abrirArchivoBloques c .vacio) =
      ⟨(iniciarFileSystem c).directorio, List.replicate (c.blockSize * c.blockCount).toNat 0,
        List.replicate (maxBit c).toNat false⟩ := by
    have hbloques : abrirArchivoBloques c .vacio =
        ⟨put [] (nombreArchivoBloques c) .bloques,
          List.replicate (c.blockSize * c.blockCount).toNat 0, []⟩ := by
      simp [abrirArchivoBloques, Disco.vacio, resize]
    rw [hbloques]
    unfold abrirBitmap
    rw [hbitmap]
    rfl
  unfold iniciarFileSystemEn
  rw [habrir, obtenerArchivos_omitidos homitidos]
  simp only [mapear_replicate]
  rfl

/-- **Restarting DialFS is the identity**: every run of requests in range from an empty file system
completes, and `iniciar_file_system` on the files that it leaves rebuilds the same files with the
same metadata, the same bitmap and the same bytes, in whatever order `readdir` lists them. -/
theorem reinicio_identidad (c : InoutConfig) (hc : c.Mapeable) (ops : List Operacion)
    (hops : Admits (paso c) (fun s op => EnRango s op ∧ op.Plana) (iniciarFileSystem c) ops) :
    ∃ s, run (paso c) (iniciarFileSystem c) ops = some s ∧
      ∀ orden, Enumera orden s.directorio →
        ∃ s', iniciarFileSystemEn c orden (s.disco c) = some s' ∧ Reinicia c s s' := by
  have hpaso : ∀ s op, (∃ N ext, Invariante c.redondeada N ext s ∧ ∀ n ∈ N, NombrePlano n) →
      EnRango s op ∧ op.Plana →
      ∃ t, paso c s op = some t ∧
        ∃ N ext, Invariante c.redondeada N ext t ∧ ∀ n ∈ N, NombrePlano n := by
    rintro s op ⟨N, ext, hinv, hplanos⟩ ⟨hrango, hplana⟩
    obtain ⟨t, N', ext', ht, hinv', hnombres⟩ := hinv.paso_nombres hc.redondeada hrango
    refine ⟨t, paso_redondeada hc ht, N', ext', hinv', fun n hn => ?_⟩
    rcases hnombres n hn with hn | ⟨pid, rfl⟩
    · exact hplanos n hn
    · exact hplana
  obtain ⟨s, hs, N, ext, hinv, hplanos⟩ := run_of_admits hpaso
    ⟨∅, fun _ => ⟨0, 1, []⟩, Invariante.vacio, by simp⟩ hops
  refine ⟨s, hs, fun orden horden => ?_⟩
  exact hinv.de_redondeada.reinicio (fun n hn => (hplanos n hn).2.2) horden

/-- Two files, one of them moved by a compaction, and three blocks that the bitmap does not
cover. -/
theorem reinicio_identidad_compactacion :
    ∃ s orden s', run (paso ⟨['F'], 2, 11⟩) (iniciarFileSystem ⟨['F'], 2, 11⟩)
        [.create [] ['a'], .create [] ['b'], .truncate [] ['a'] 3, .write [] ['a'] 0 2 1 [7, 8]] =
          some s ∧
      Enumera orden s.directorio ∧
      iniciarFileSystemEn ⟨['F'], 2, 11⟩ orden (s.disco ⟨['F'], 2, 11⟩) = some s' ∧
      Reinicia ⟨['F'], 2, 11⟩ s s' := by
  obtain ⟨s, hs, hreinicio⟩ := reinicio_identidad ⟨['F'], 2, 11⟩
    ⟨by decide, by decide, by decide⟩
    [.create [] ['a'], .create [] ['b'], .truncate [] ['a'] 3, .write [] ['a'] 0 2 1 [7, 8]]
    (by decide)
  obtain ⟨orden, horden⟩ := Enumera.existe s.directorio
  obtain ⟨s', hs', hR⟩ := hreinicio orden horden
  exact ⟨s, orden, s', hs, horden, hs', hR⟩

end SimuladorSO.DialFS
