import SimuladorSO.DialFS.Compactacion
import SimuladorSO.Library.Transitions

/-!
# DialFS as a store of named byte strings

What DialFS is for: an `Almacen` maps the names of a finite set to byte strings, and `aplicar` says
what each request does to it, given only how many blocks are left.

* `Refina c m s`: the state `s` of the program represents the store `m`;
* `Refina.paso`: every permitted request completes and does to the state what `aplicar` says;
* `dialfs_refina_almacen`: so does every run;
* `asignacion_valida`: the allocation of blocks in every reachable state.
-/

namespace SimuladorSO.DialFS

open CInt Extents Transitions

variable {c : InoutConfig} {s : Estado} {N : Finset Cadena} {ext : Cadena → Extent UInt8}
  {x : Cadena}

/-! ### Truncate -/

/-- The block where the free ones that follow a file end. -/
def proxBloqInicial (c : InoutConfig) (s : Estado) (bloqueFinal : ℤ) : ℤ :=
  if bloqueOcupadoDesde c s bloqueFinal = -1 then maxBit c else bloqueOcupadoDesde c s bloqueFinal

/-- The blocks that follow a file are free up to `proxBloqInicial`. -/
theorem Invariante.proxBloqInicial_spec (h : Invariante c N ext s) (hx : x ∈ N) :
    proxBloqInicial c s ((ext x).start + (ext x).width) ≤ maxBit c ∧
      ∀ b, (ext x).start + (ext x).width ≤ b →
        b < proxBloqInicial c s ((ext x).start + (ext x).width) → s.bitmap b = false := by
  have hs := h.guarda.sound x hx
  have h0 := hs.start_nonneg
  have hpos := hs.width_pos
  unfold proxBloqInicial
  rcases bloqueOcupadoDesde_spec hs.le_count s with ⟨hneg, hnone⟩ | ⟨h1, h2, -, h4⟩
  · rw [if_pos hneg]
    exact ⟨le_rfl, hnone⟩
  · rw [if_neg (by omega)]
    exact ⟨h2.le, h4⟩

/-- A file is enlarged in place when the free blocks that follow it are enough. -/
theorem Invariante.ampliarArchivo_enLugar (hc : c.Valida) (h : Invariante c N ext s) (hx : x ∈ N)
    {i : ℕ} (hi : s.listaArchivos[i]? = some ⟨x, metadataDe (ext x)⟩) {n : ℕ}
    (hcrece : (ext x).bytes.length < n)
    (hcabe : bytesABloques c n ≤
      cantidadBloquesLibres c s + bytesABloques c (ext x).bytes.length)
    (hcontiguo : (ext x).start + bytesABloques c n ≤
      proxBloqInicial c s ((ext x).start + (ext x).width)) :
    ∃ s', ampliarArchivo c s i ⟨x, metadataDe (ext x)⟩ n = some s' ∧ Invariante c N
      (Function.update ext x ⟨(ext x).start, bytesABloques c n, resize n (ext x).bytes⟩) s' := by
  have hancho := h.anchos x hx
  obtain ⟨hprox, hlibres⟩ := h.proxBloqInicial_spec hx
  have hramas : DialFS.ampliarArchivo c s i ⟨x, metadataDe (ext x)⟩ n =
      if bytesABloques c n ≤ proxBloqInicial c s ((ext x).start + (ext x).width) -
          ((ext x).start + (ext x).width) + (ext x).width then
        some (guardarConfig
          { s with
            bitmap := bitmapSetNBits s.bitmap ((ext x).start + (ext x).width)
              (bytesABloques c n - (ext x).width) }
          i ⟨x, metadataDe (ext x)⟩ ⟨(ext x).start, n⟩)
      else DialFS.compactarFileSystem c s i ⟨x, metadataDe (ext x)⟩ n := by
    rw [hancho]
    exact if_pos hcabe
  rw [hramas, if_pos (by omega)]
  refine ⟨_, rfl, h.ampliar_contiguo hc hx hi hcrece.le (by omega) ?_⟩
  intro b h1 h2
  exact hlibres b h1 (by omega)

/-- A file is enlarged when the free blocks and its own are enough: in place if those that follow it
are, and otherwise by a compaction. -/
theorem Invariante.ampliarArchivo (hc : c.Valida) (h : Invariante c N ext s) (hx : x ∈ N) {i : ℕ}
    (hi : s.listaArchivos[i]? = some ⟨x, metadataDe (ext x)⟩) {n : ℕ}
    (hcrece : (ext x).bytes.length < n)
    (hcabe : bytesABloques c n ≤
      cantidadBloquesLibres c s + bytesABloques c (ext x).bytes.length) :
    ∃ s' ext', ampliarArchivo c s i ⟨x, metadataDe (ext x)⟩ n = some s' ∧ Invariante c N ext' s' ∧
      (∀ m, m ≠ x → (ext' m).bytes = (ext m).bytes) ∧ (ext' x).bytes = resize n (ext x).bytes := by
  have hancho := h.anchos x hx
  by_cases hcontiguo : (ext x).start + bytesABloques c n ≤
      proxBloqInicial c s ((ext x).start + (ext x).width)
  · obtain ⟨s', hampliar, hinv⟩ := h.ampliarArchivo_enLugar hc hx hi hcrece hcabe hcontiguo
    refine ⟨s', _, hampliar, hinv, fun m hm => ?_, ?_⟩
    · rw [Function.update_of_ne hm]
    · rw [Function.update_self]
  · have hcompacta : DialFS.ampliarArchivo c s i ⟨x, metadataDe (ext x)⟩ n =
        DialFS.compactarFileSystem c s i ⟨x, metadataDe (ext x)⟩ n := by
      unfold DialFS.ampliarArchivo
      refine (if_pos hcabe).trans (if_neg ?_)
      rw [hancho] at hcontiguo
      show ¬ bytesABloques c n ≤ proxBloqInicial c s ((ext x).start +
        bytesABloques c (ext x).bytes.length) - ((ext x).start +
        bytesABloques c (ext x).bytes.length) + bytesABloques c (ext x).bytes.length
      omega
    rw [hcompacta]
    exact h.compactarFileSystem hc hx hi hcrece.le (by rw [hancho]; exact hcabe)

/-- A truncate to `n` bytes resizes the file, except that a file is not enlarged when the free
blocks and its own are not enough. -/
theorem Invariante.ioFsTruncate (hc : c.Valida) (h : Invariante c N ext s) (hx : x ∈ N) (n : ℕ) :
    ∃ s' ext', ioFsTruncate c s x n = some s' ∧ Invariante c N ext' s' ∧
      (∀ m, m ≠ x → (ext' m).bytes = (ext m).bytes) ∧
      (ext' x).bytes =
        if (ext x).bytes.length < n ∧
          ¬ bytesABloques c n ≤
            cantidadBloquesLibres c s + bytesABloques c (ext x).bytes.length
        then (ext x).bytes else resize n (ext x).bytes := by
  obtain ⟨i, hobt, hi⟩ := h.catalogo.porNombre hx
  unfold DialFS.ioFsTruncate
  rw [hobt]
  simp only [Option.bind_eq_bind, Option.bind_some]
  by_cases hcrece : (ext x).bytes.length < n
  · have hlt : (metadataDe (ext x)).tamanioArchivo < n := by
      show ((ext x).bytes.length : ℤ) < n
      omega
    rw [if_pos hlt]
    by_cases hcabe : bytesABloques c n ≤
        cantidadBloquesLibres c s + bytesABloques c (ext x).bytes.length
    · obtain ⟨s', ext', hampliar, hinv, hotros, hpropio⟩ := h.ampliarArchivo hc hx hi hcrece hcabe
      rw [hampliar]
      refine ⟨_, ext', rfl, hinv.enviarMensaje _, hotros, ?_⟩
      rw [hpropio, if_neg fun hno => hno.2 hcabe]
    · have hampliar : DialFS.ampliarArchivo c s i ⟨x, metadataDe (ext x)⟩ n = some s :=
        if_neg hcabe
      rw [hampliar]
      refine ⟨_, ext, rfl, h.enviarMensaje _, fun m _ => rfl, ?_⟩
      rw [if_pos ⟨hcrece, hcabe⟩]
  · have hge : ¬ (metadataDe (ext x)).tamanioArchivo < n := by
      show ¬ ((ext x).bytes.length : ℤ) < n
      omega
    obtain ⟨s', hachicar, hinv⟩ := h.achicarArchivo hc hx hi (n := n) (by omega)
    rw [if_neg hge, hachicar]
    refine ⟨_, _, rfl, hinv.enviarMensaje _, fun m hm => ?_, ?_⟩
    · rw [Function.update_of_ne hm]
    · rw [Function.update_self, if_neg fun hno => hcrece hno.1]

/-! ### The store -/

/-- A finite map from file names to byte strings. -/
structure Almacen where
  nombres : Finset Cadena
  contenido : Cadena → List UInt8

namespace Almacen

/-- No file. -/
def vacio : Almacen := ⟨∅, fun _ => []⟩

variable (c) in
/-- The blocks that a number of bytes takes: as many as hold them, and at least one. -/
def bloques (n : ℤ) : ℤ := max 1 (ceilDiv n c.blockSize)

variable (c) in
/-- The blocks that the files leave free. -/
def libres (m : Almacen) : ℤ := c.blockCount - ∑ n ∈ m.nombres, bloques c (m.contenido n).length

/-- The store with another content of one name. -/
def poner (m : Almacen) (n : Cadena) (bytes : List UInt8) : Almacen :=
  { m with contenido := Function.update m.contenido n bytes }

variable (c) in
/-- An empty file is added when the name is new and a block is free. -/
def crear (m : Almacen) (n : Cadena) : Almacen :=
  if n ∉ m.nombres ∧ 0 < m.libres c then { m.poner n [] with nombres := insert n m.nombres } else m

/-- The file is removed. -/
def borrar (m : Almacen) (n : Cadena) : Almacen := { m with nombres := m.nombres.erase n }

variable (c) in
/-- The file is cut or completed with zeros; it is not enlarged when the free blocks and its own are
not enough. -/
def truncar (m : Almacen) (n : Cadena) (t : ℤ) : Almacen :=
  if ((m.contenido n).length : ℤ) < t ∧
    ¬ bloques c t ≤ m.libres c + bloques c (m.contenido n).length
  then m else m.poner n (resize t.toNat (m.contenido n))

/-- The bytes from `puntero` on are replaced when the file has them. -/
def escribir (m : Almacen) (n : Cadena) (tamanio puntero : ℤ) (mensaje : List UInt8) : Almacen :=
  if puntero + tamanio ≤ (m.contenido n).length then
    m.poner n (splice puntero.toNat mensaje (m.contenido n))
  else m

variable (c) in
/-- What a request does to the store. -/
def aplicar (m : Almacen) : Operacion → Almacen
  | .create _ n => m.crear c n
  | .delete _ n => m.borrar n
  | .truncate _ n t => m.truncar c n t
  | .write _ n _ tamanio puntero mensaje => m.escribir n tamanio puntero mensaje

variable (c) in
/-- The requests the store is specified for: names of existing files, except for a create, which may
use any name but those of the interface's own files, operands that are not negative and whose sum is
an `int`, and as many bytes from memoria as were asked for. -/
def Permitida (m : Almacen) : Operacion → Prop
  | .create _ n => ¬ Reservado c n
  | .delete _ n => n ∈ m.nombres
  | .truncate _ n t => n ∈ m.nombres ∧ 0 ≤ t
  | .write _ n _ tamanio puntero mensaje =>
    n ∈ m.nombres ∧ 0 ≤ puntero ∧ 0 ≤ tamanio ∧ puntero + tamanio < 2 ^ 31 ∧
      (mensaje.length : ℤ) = tamanio

instance (m : Almacen) : (op : Operacion) → Decidable (m.Permitida c op)
  | .create _ n => inferInstanceAs (Decidable (¬ Reservado c n))
  | .delete _ n => inferInstanceAs (Decidable (n ∈ m.nombres))
  | .truncate _ n t => inferInstanceAs (Decidable (n ∈ m.nombres ∧ 0 ≤ t))
  | .write _ n _ tamanio puntero mensaje =>
    inferInstanceAs (Decidable (n ∈ m.nombres ∧ 0 ≤ puntero ∧ 0 ≤ tamanio ∧
      puntero + tamanio < 2 ^ 31 ∧ (mensaje.length : ℤ) = tamanio))

end Almacen

open Almacen

/-- The state represents the store: its files are those of the store, each with its content. -/
def Refina (c : InoutConfig) (m : Almacen) (s : Estado) : Prop :=
  ∃ ext : Cadena → Extent UInt8, Invariante c m.nombres ext s ∧
    ∀ n ∈ m.nombres, (ext n).bytes = m.contenido n

theorem Refina.libres_eq (hc : c.Valida) {m : Almacen} (h : Invariante c m.nombres ext s)
    (hbytes : ∀ n ∈ m.nombres, (ext n).bytes = m.contenido n) :
    cantidadBloquesLibres c s = m.libres c := by
  rw [h.libres hc]
  unfold Almacen.libres
  congr 1
  refine Finset.sum_congr rfl fun n hn => ?_
  rw [hbytes n hn, bytesABloques_eq_max hc (by omega)]
  rfl

/-- Changing the content of one name on both sides. -/
theorem Refina.poner {m : Almacen} {M : Finset Cadena} {ext' : Cadena → Extent UInt8}
    (hM : ∀ n ∈ M, n ≠ x → n ∈ m.nombres)
    (hbytes : ∀ n ∈ m.nombres, (ext n).bytes = m.contenido n)
    (hotros : ∀ n, n ≠ x → (ext' n).bytes = (ext n).bytes) {bytes : List UInt8}
    (hpropio : (ext' x).bytes = bytes) : ∀ n ∈ M, (ext' n).bytes = (m.poner x bytes).contenido n := by
  intro n hn
  show _ = Function.update m.contenido x bytes n
  by_cases hnx : n = x
  · rw [hnx, Function.update_self, hpropio]
  · rw [Function.update_of_ne hnx, hotros n hnx, hbytes n (hM n hn hnx)]

/-- **One request**: it completes, and the state represents what the store becomes. -/
theorem Refina.paso (hc : c.Valida) {m : Almacen} {s : Estado} {op : Operacion} (h : Refina c m s)
    (hop : m.Permitida c op) : ∃ s', paso c s op = some s' ∧ Refina c (m.aplicar c op) s' := by
  obtain ⟨ext, hinv, hbytes⟩ := h
  have hlibres := Refina.libres_eq hc hinv hbytes
  cases op with
  | create pid n =>
    have hop : ¬ Reservado c n := hop
    refine ⟨_, rfl, ?_⟩
    show Refina c (m.crear c n) _
    unfold Almacen.crear
    by_cases hcrea : n ∉ m.nombres ∧ 0 < m.libres c
    · rw [if_pos hcrea]
      obtain ⟨l, hinv'⟩ := hinv.ioFsCreate_alta hc hop hcrea.1 (hlibres ▸ hcrea.2)
      refine ⟨_, hinv', Refina.poner (fun k hk hne => (Finset.mem_insert.1 hk).resolve_left hne)
        hbytes (fun k hk => ?_) ?_⟩
      · rw [Function.update_of_ne hk]
      · rw [Function.update_self]
    · rw [if_neg hcrea]
      refine ⟨ext, hinv.ioFsCreate_nada hc ?_, hbytes⟩
      rw [hlibres]
      exact fun hno => hcrea ⟨hno.1, hno.2.2⟩
  | delete pid n =>
    obtain ⟨s', hs', hinv'⟩ := hinv.ioFsDelete hc (show n ∈ m.nombres from hop)
    exact ⟨s', hs', ext, hinv', fun k hk => hbytes k (Finset.mem_of_mem_erase hk)⟩
  | truncate pid n t =>
    obtain ⟨hn, ht⟩ : n ∈ m.nombres ∧ 0 ≤ t := hop
    obtain ⟨t, rfl⟩ := Int.eq_ofNat_of_zero_le ht
    obtain ⟨s', ext', hs', hinv', hotros, hpropio⟩ := hinv.ioFsTruncate hc hn t
    have hbloques : ∀ k : ℕ, bytesABloques c k = bloques c k :=
      fun k => bytesABloques_eq_max hc (by omega)
    rw [hbytes n hn, hlibres, hbloques, hbloques] at hpropio
    refine ⟨s', hs', ?_⟩
    show Refina c (m.truncar c n t) s'
    unfold Almacen.truncar
    by_cases hno : (m.contenido n).length < t ∧
        ¬ bloques c t ≤ m.libres c + bloques c (m.contenido n).length
    · rw [if_pos hno] at hpropio
      rw [if_pos ⟨by omega, hno.2⟩]
      refine ⟨ext', hinv', fun k hk => ?_⟩
      by_cases hkn : k = n
      · rw [hkn, hpropio]
      · rw [hotros k hkn, hbytes k hk]
    · rw [if_neg hno] at hpropio
      rw [if_neg fun hno' => hno ⟨by omega, hno'.2⟩]
      exact ⟨ext', hinv', Refina.poner (fun k hk _ => hk) hbytes hotros hpropio⟩
  | write pid n direccion tamanio puntero mensaje =>
    obtain ⟨hn, hp, ht, hint, hlen⟩ : n ∈ m.nombres ∧ 0 ≤ puntero ∧ 0 ≤ tamanio ∧
      puntero + tamanio < 2 ^ 31 ∧ (mensaje.length : ℤ) = tamanio := hop
    obtain ⟨puntero, rfl⟩ := Int.eq_ofNat_of_zero_le hp
    obtain ⟨tamanio, rfl⟩ := Int.eq_ofNat_of_zero_le ht
    have hlen : mensaje.length = tamanio := by omega
    obtain ⟨s', hs', hinv'⟩ :=
      hinv.ioFsWrite hc hn pid direccion puntero (le_of_eq hlen.symm) hint
    rw [hbytes n hn, List.take_of_length_le hlen.le] at hinv'
    refine ⟨s', hs', ?_⟩
    show Refina c (m.escribir n tamanio puntero mensaje) s'
    unfold Almacen.escribir
    by_cases hcabe : puntero + tamanio ≤ (m.contenido n).length
    · rw [if_pos hcabe] at hinv'
      rw [if_pos (by omega)]
      refine ⟨_, hinv', Refina.poner (fun k hk _ => hk) hbytes (fun k hk => ?_) ?_⟩
      · rw [Function.update_of_ne hk]
      · rw [Function.update_self, Int.toNat_natCast]
    · rw [if_neg hcabe] at hinv'
      rw [if_neg (by omega)]
      exact ⟨ext, hinv', hbytes⟩

/-- The content of a file: the `TAMANIO_ARCHIVO` bytes from `BLOQUE_INICIAL * block_size` on. -/
def contenidoDe (c : InoutConfig) (s : Estado) (a : Archivo) : List UInt8 :=
  (List.range a.config.tamanioArchivo.toNat).map fun i : ℕ =>
    s.datosBloques (a.config.bloqueInicial * c.blockSize + i)

/-- The listed files are those of the store, each one once and with its content. -/
structure Contiene (c : InoutConfig) (s : Estado) (m : Almacen) : Prop where
  unicos : (s.listaArchivos.map Archivo.nombreArchivo).Nodup
  nombres : ∀ n, n ∈ s.listaArchivos.map Archivo.nombreArchivo ↔ n ∈ m.nombres
  contenido : ∀ a ∈ s.listaArchivos, 0 ≤ a.config.tamanioArchivo ∧
    contenidoDe c s a = m.contenido a.nombreArchivo

/-- A listed file has the content of its extent. -/
theorem Invariante.contenidoDe_eq (hc : c.Valida) (h : Invariante c N ext s) {a : Archivo}
    (ha : a ∈ s.listaArchivos) : contenidoDe c s a = (ext a.nombreArchivo).bytes := by
  obtain ⟨hn, hconf⟩ := (h.catalogo.lista a).1 ha
  unfold contenidoDe
  rw [hconf]
  show (List.range (((ext a.nombreArchivo).bytes.length : ℤ)).toNat).map _ = _
  rw [Int.toNat_natCast]
  exact h.guarda.read hc.blockSize_pos hn

theorem Refina.contiene (hc : c.Valida) {m : Almacen} (h : Refina c m s) : Contiene c s m := by
  obtain ⟨ext, hinv, hbytes⟩ := h
  refine ⟨hinv.catalogo.nodup, fun n => ?_, fun a ha => ?_⟩
  · rw [List.mem_map]
    constructor
    · rintro ⟨a, ha, rfl⟩
      exact ((hinv.catalogo.lista a).1 ha).1
    · intro hn
      exact ⟨_, hinv.catalogo.mem hn, rfl⟩
  · obtain ⟨hn, hconf⟩ := (hinv.catalogo.lista a).1 ha
    refine ⟨?_, by rw [hinv.contenidoDe_eq hc ha, hbytes _ hn]⟩
    rw [hconf]
    exact Int.natCast_nonneg _

/-- **DialFS refines a finite map from names to byte strings**: from an empty file system every run
of permitted requests completes, and the files then have the contents that the requests give them in
the store. -/
theorem dialfs_refina_almacen (c : InoutConfig) (hc : c.Valida) (ops : List Operacion)
    (hops : Allowed (Almacen.aplicar c) (Almacen.Permitida c) Almacen.vacio ops) :
    ∃ s, run (DialFS.paso c) (iniciarFileSystem c) ops = some s ∧
      Contiene c s (ops.foldl (Almacen.aplicar c) Almacen.vacio) := by
  have hinicio : Refina c Almacen.vacio (iniciarFileSystem c) :=
    ⟨fun _ => ⟨0, 1, []⟩, Invariante.vacio, by simp [Almacen.vacio]⟩
  have hpaso : ∀ m s op, Refina c m s → Almacen.Permitida c m op →
      ∃ t, DialFS.paso c s op = some t ∧ Refina c (Almacen.aplicar c m op) t :=
    fun m s op h hop => Refina.paso hc h hop
  obtain ⟨s, hs, hR⟩ := run_refines hpaso hinicio hops
  exact ⟨s, hs, hR.contiene hc⟩

/-- Two files, the first of which is enlarged past the second, written and read back. -/
theorem dialfs_refina_almacen_dos_archivos :
    ∃ s, run (DialFS.paso ⟨['F'], 2, 8⟩) (iniciarFileSystem ⟨['F'], 2, 8⟩)
        [.create [] ['a'], .create [] ['b'], .truncate [] ['a'] 3, .truncate [] ['b'] 1,
          .write [] ['a'] 0 3 0 [7, 8, 9], .write [] ['b'] 0 1 0 [5]] = some s ∧
      Contiene ⟨['F'], 2, 8⟩ s
        ([.create [] ['a'], .create [] ['b'], .truncate [] ['a'] 3, .truncate [] ['b'] 1,
          .write [] ['a'] 0 3 0 [7, 8, 9], .write [] ['b'] 0 1 0 [5]].foldl
          (Almacen.aplicar ⟨['F'], 2, 8⟩) Almacen.vacio) :=
  dialfs_refina_almacen ⟨['F'], 2, 8⟩ ⟨by decide, by decide, by decide, by decide⟩ _ (by decide)

/-! ### The allocation of blocks -/

/-- The blocks of a listed file. -/
def Archivo.Ocupa (c : InoutConfig) (a : Archivo) (b : ℤ) : Prop :=
  a.config.bloqueInicial ≤ b ∧ b < a.config.bloqueInicial + bloques c a.config.tamanioArchivo

/-- The bytes of a listed file. -/
def Archivo.Contiene (c : InoutConfig) (a : Archivo) (j : ℤ) : Prop :=
  a.config.bloqueInicial * c.blockSize ≤ j ∧
    j < a.config.bloqueInicial * c.blockSize + a.config.tamanioArchivo

/-- The files take disjoint intervals of the device, exactly their blocks are set in the bitmap, and
every byte that is not of a file is zero. -/
structure Asignacion (c : InoutConfig) (s : Estado) : Prop where
  intervalo : ∀ a ∈ s.listaArchivos, 0 ≤ a.config.bloqueInicial ∧
    a.config.bloqueInicial + bloques c a.config.tamanioArchivo ≤ c.blockCount
  disjuntos : s.listaArchivos.Pairwise fun a a' => ∀ b, ¬ (a.Ocupa c b ∧ a'.Ocupa c b)
  bitmap : ∀ b, 0 ≤ b → b < c.blockCount →
    (s.bitmap b = true ↔ ∃ a ∈ s.listaArchivos, a.Ocupa c b)
  ceros : ∀ j, 0 ≤ j → j < c.blockSize * c.blockCount →
    (∀ a ∈ s.listaArchivos, ¬ a.Contiene c j) → s.datosBloques j = 0

/-- The requests considered: a create may use any name, the others the name of a file; a write is in
the range of the file, and memoria answers at least the bytes that were asked for. -/
def EnRango (s : Estado) : Operacion → Prop
  | .create _ _ => True
  | .delete _ n => ∃ a ∈ s.listaArchivos, a.nombreArchivo = n
  | .truncate _ n t => (∃ a ∈ s.listaArchivos, a.nombreArchivo = n) ∧ 0 ≤ t
  | .write _ n _ tamanio puntero mensaje =>
    (∃ a ∈ s.listaArchivos, a.nombreArchivo = n ∧ puntero + tamanio ≤ a.config.tamanioArchivo) ∧
      0 ≤ puntero ∧ 0 ≤ tamanio ∧ tamanio ≤ mensaje.length

instance (s : Estado) : (op : Operacion) → Decidable (EnRango s op)
  | .create _ _ => isTrue trivial
  | .delete _ n => inferInstanceAs (Decidable (∃ a ∈ s.listaArchivos, a.nombreArchivo = n))
  | .truncate _ n t =>
    inferInstanceAs (Decidable ((∃ a ∈ s.listaArchivos, a.nombreArchivo = n) ∧ 0 ≤ t))
  | .write _ n _ tamanio puntero mensaje =>
    inferInstanceAs (Decidable ((∃ a ∈ s.listaArchivos,
      a.nombreArchivo = n ∧ puntero + tamanio ≤ a.config.tamanioArchivo) ∧
      0 ≤ puntero ∧ 0 ≤ tamanio ∧ tamanio ≤ mensaje.length))

/-- A listed file occupies the blocks of its extent. -/
theorem Invariante.ocupa_iff (hc : c.Valida) (h : Invariante c N ext s) {a : Archivo}
    (ha : a ∈ s.listaArchivos) (b : ℤ) : a.Ocupa c b ↔ (ext a.nombreArchivo).Owns b := by
  obtain ⟨hn, hconf⟩ := (h.catalogo.lista a).1 ha
  unfold Archivo.Ocupa Extent.Owns
  rw [hconf, h.anchos _ hn, bytesABloques_eq_max hc (Int.natCast_nonneg _)]
  rfl

/-- The names listed are those of the invariant. -/
theorem Invariante.mem_iff (h : Invariante c N ext s) (n : Cadena) :
    (∃ a ∈ s.listaArchivos, a.nombreArchivo = n) ↔ n ∈ N := by
  constructor
  · rintro ⟨a, ha, rfl⟩
    exact ((h.catalogo.lista a).1 ha).1
  · intro hn
    exact ⟨_, h.catalogo.mem hn, rfl⟩

theorem Invariante.asignacion (hc : c.Valida) (h : Invariante c N ext s) : Asignacion c s where
  intervalo a ha := by
    obtain ⟨hn, hconf⟩ := (h.catalogo.lista a).1 ha
    have hs := h.guarda.sound _ hn
    have hw := h.anchos _ hn
    rw [bytesABloques_eq_max hc (Int.natCast_nonneg _)] at hw
    have hle := hs.le_count
    rw [hw, hc.maxBit_eq] at hle
    rw [hconf]
    exact ⟨hs.start_nonneg, hle⟩
  disjuntos := by
    refine (List.pairwise_map.1 h.catalogo.nodup).imp_of_mem ?_
    rintro a a' ha ha' hne b ⟨hb, hb'⟩
    rw [h.ocupa_iff hc ha] at hb
    rw [h.ocupa_iff hc ha'] at hb'
    exact hne (h.guarda.disjoint _ ((h.catalogo.lista a).1 ha).1 _ ((h.catalogo.lista a').1 ha').1
      b hb hb')
  bitmap b h0 hb := by
    rw [h.guarda.marked b h0 (by rw [hc.maxBit_eq]; exact hb)]
    constructor
    · rintro ⟨n, hn, hown⟩
      exact ⟨_, h.catalogo.mem hn, (h.ocupa_iff hc (h.catalogo.mem hn) b).2 hown⟩
    · rintro ⟨a, ha, hocupa⟩
      exact ⟨_, ((h.catalogo.lista a).1 ha).1, (h.ocupa_iff hc ha b).1 hocupa⟩
  ceros j h0 hj hajeno := by
    have hbs : 0 < c.blockSize := hc.blockSize_pos
    have hj0 : 0 ≤ j / c.blockSize := Int.ediv_nonneg h0 hbs.le
    have hjc : j / c.blockSize < maxBit c := by
      rw [hc.maxBit_eq, Int.ediv_lt_iff_lt_mul hbs, mul_comm]
      exact hj
    cases hmark : s.bitmap (j / c.blockSize) with
    | false => exact h.guarda.zeros j hj0 hjc hmark
    | true =>
      -- the block belongs to a file, but the byte is beyond its content
      obtain ⟨n, hn, hown⟩ := (h.guarda.marked _ hj0 hjc).1 hmark
      have hnot : ¬ ((ext n).start * c.blockSize ≤ j ∧
          j < (ext n).start * c.blockSize + (ext n).bytes.length) :=
        hajeno _ (h.catalogo.mem hn)
      have hstart := ((ext n).owns_div hbs j).1 hown
      rw [h.guarda.bytes n hn j hown, Extent.byteAt_of_le (by omega)]

/-- One request in range completes and keeps the invariant; only a create adds a name. -/
theorem Invariante.paso_nombres (hc : c.Valida) (h : Invariante c N ext s) {op : Operacion}
    (hop : EnRango s op) :
    ∃ s' N' ext', paso c s op = some s' ∧ Invariante c N' ext' s' ∧
      ∀ n ∈ N', n ∈ N ∨ ∃ pid, op = .create pid n := by
  cases op with
  | create pid n =>
    by_cases hcrea : n ∉ N ∧ ¬ Reservado c n ∧ 0 < cantidadBloquesLibres c s
    · obtain ⟨l, h'⟩ := h.ioFsCreate_alta hc hcrea.2.1 hcrea.1 hcrea.2.2
      refine ⟨_, _, _, rfl, h', fun k hk => ?_⟩
      rcases Finset.mem_insert.1 hk with rfl | hk
      · exact Or.inr ⟨pid, rfl⟩
      · exact Or.inl hk
    · exact ⟨_, N, ext, rfl, h.ioFsCreate_nada hc hcrea, fun k hk => Or.inl hk⟩
  | delete pid n =>
    obtain ⟨s', hs', h'⟩ := h.ioFsDelete hc ((h.mem_iff n).1 hop)
    exact ⟨s', _, _, hs', h', fun k hk => Or.inl (Finset.mem_of_mem_erase hk)⟩
  | truncate pid n t =>
    obtain ⟨hn, ht⟩ : (∃ a ∈ s.listaArchivos, a.nombreArchivo = n) ∧ 0 ≤ t := hop
    obtain ⟨t, rfl⟩ := Int.eq_ofNat_of_zero_le ht
    obtain ⟨s', ext', hs', h', -⟩ := h.ioFsTruncate hc ((h.mem_iff n).1 hn) t
    exact ⟨s', N, ext', hs', h', fun k hk => Or.inl hk⟩
  | write pid n direccion tamanio puntero mensaje =>
    obtain ⟨⟨a, ha, han, hrango⟩, hp, ht, hm⟩ : (∃ a ∈ s.listaArchivos, a.nombreArchivo = n ∧
      puntero + tamanio ≤ a.config.tamanioArchivo) ∧ 0 ≤ puntero ∧ 0 ≤ tamanio ∧
      tamanio ≤ mensaje.length := hop
    obtain ⟨hn, hconf⟩ := (h.catalogo.lista a).1 ha
    obtain ⟨puntero, rfl⟩ := Int.eq_ofNat_of_zero_le hp
    obtain ⟨tamanio, rfl⟩ := Int.eq_ofNat_of_zero_le ht
    have hint : (puntero : ℤ) + tamanio < 2 ^ 31 := by
      rw [hconf] at hrango
      have hrango : (puntero : ℤ) + tamanio ≤ (ext a.nombreArchivo).bytes.length := hrango
      have hfits := (h.guarda.sound _ hn).fits
      have hle := h.tamanio_lt hc hn
      have hmax := hc.tamanio_int
      omega
    obtain ⟨s', hs', h'⟩ := h.ioFsWrite hc (han ▸ hn) pid direccion puntero
      (show tamanio ≤ mensaje.length by omega) hint
    exact ⟨s', N, _, hs', h', fun k hk => Or.inl hk⟩

/-- One request in range completes and keeps the invariant. -/
theorem Invariante.paso (hc : c.Valida) (s : Estado) (op : Operacion)
    (h : ∃ N ext, Invariante c N ext s) (hop : EnRango s op) :
    ∃ s', paso c s op = some s' ∧ ∃ N ext, Invariante c N ext s' := by
  obtain ⟨N, ext, h⟩ := h
  obtain ⟨s', N', ext', hs', h', -⟩ := h.paso_nombres hc hop
  exact ⟨s', hs', N', ext', h'⟩

/-- **The allocation invariant of DialFS**: from an empty file system every run of requests in range
completes, and in the state it reaches the files have disjoint intervals, the bitmap marks exactly
these, and every other byte is zero. -/
theorem asignacion_valida (c : InoutConfig) (hc : c.Valida) (ops : List Operacion)
    (hops : Admits (paso c) EnRango (iniciarFileSystem c) ops) :
    ∃ s, run (paso c) (iniciarFileSystem c) ops = some s ∧ Asignacion c s := by
  obtain ⟨s, hs, N, ext, hinv⟩ := run_of_admits (Invariante.paso hc)
    ⟨∅, fun _ => ⟨0, 1, []⟩, Invariante.vacio⟩ hops
  exact ⟨s, hs, hinv.asignacion hc⟩

/-- Two files, one of them enlarged by a compaction and written, and the other deleted. -/
theorem asignacion_valida_compactacion :
    ∃ s, run (paso ⟨['F'], 2, 8⟩) (iniciarFileSystem ⟨['F'], 2, 8⟩)
        [.create [] ['a'], .create [] ['b'], .truncate [] ['a'] 3, .write [] ['a'] 0 2 1 [7, 8],
          .delete [] ['b']] = some s ∧ Asignacion ⟨['F'], 2, 8⟩ s :=
  asignacion_valida ⟨['F'], 2, 8⟩ ⟨by decide, by decide, by decide, by decide⟩ _ (by decide)

end SimuladorSO.DialFS
