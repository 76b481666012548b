import SimuladorSO.DialFS.Pedidos

/-!
# What a read of a file sends to memoria

`io_fs_read` copies the bytes from a pointer on, without looking at the size of the file, and
`peticion_escritura_memoria` sends them as a C string: up to the first zero, wherever it is.

* `offsetsEnviados`: the offsets of the mapping whose bytes are in the string;
* `ioFsRead_eq`: the request of a read of bytes of the mapping;
* `EntregaLoPedido`: a range of the file is delivered as it is, any other delivers no byte of a file;
* `ioFsRead_entrega_iff`: exactly when that is so.
-/

namespace SimuladorSO.DialFS

open Transitions

variable {c : InoutConfig} {s : Estado} {pid nombre : Cadena} {direccion tamanio puntero : ℤ}
  {resto : List UInt8} {i : ℕ} {a : Archivo}

/-- The offsets of a range before the first one with a zero. -/
def offsetsEnviados (datos : ℤ → UInt8) (inicio tamanio : ℤ) : List ℤ :=
  ((List.range tamanio.toNat).map fun i : ℕ => inicio + i).takeWhile fun j => datos j ≠ 0

/-- The bytes of a range of the mapping. -/
def bytesDesde (datos : ℤ → UInt8) (inicio tamanio : ℤ) : List UInt8 :=
  (List.range tamanio.toNat).map fun i : ℕ => datos (inicio + i)

/-- The offset is of the content of a listed file. -/
def EsDeArchivo (c : InoutConfig) (s : Estado) (j : ℤ) : Prop :=
  ∃ a ∈ s.listaArchivos, a.Contiene c j

/-- The copy is defined: a size that is not negative, and a range of the mapping. -/
def Copiable (c : InoutConfig) (inicio tamanio : ℤ) : Prop := 0 ≤ tamanio ∧ EnMapeo c inicio tamanio

instance (inicio tamanio : ℤ) : Decidable (Copiable c inicio tamanio) :=
  inferInstanceAs (Decidable (_ ∧ _))

/-! ### C strings -/

/-- The string that begins with a buffer is that buffer exactly when no byte of it is zero and the
byte that follows is. -/
theorem takeWhile_append_eq_left_iff {p : UInt8 → Bool} (l r : List UInt8) :
    (l ++ r).takeWhile p = l ↔ (∀ b ∈ l, p b = true) ∧ r.takeWhile p = [] := by
  induction l with
  | nil => simp
  | cons b l ih =>
    rw [List.cons_append, List.takeWhile_cons]
    by_cases hb : p b = true
    · simp [hb, ih]
    · simp [hb]

/-- The string begins with the bytes of the buffer before its first zero; what follows them, if
anything, is from after the buffer. -/
theorem takeWhile_bytesDesde (datos : ℤ → UInt8) (inicio tamanio : ℤ) (resto : List UInt8) :
    ∃ basura, basura <+: resto ∧
      (bytesDesde datos inicio tamanio ++ resto).takeWhile (fun b => b ≠ 0) =
        (offsetsEnviados datos inicio tamanio).map datos ++ basura := by
  have hbytes : bytesDesde datos inicio tamanio =
      ((List.range tamanio.toNat).map fun i : ℕ => inicio + i).map datos := by
    unfold bytesDesde
    rw [List.map_map]
    rfl
  unfold offsetsEnviados
  rw [hbytes]
  generalize (List.range tamanio.toNat).map (fun i : ℕ => inicio + i) = l
  induction l with
  | nil => exact ⟨_, List.takeWhile_prefix _, rfl⟩
  | cons j l ih =>
    obtain ⟨basura, hbasura, hmensaje⟩ := ih
    rw [List.map_cons, List.cons_append, List.takeWhile_cons, List.takeWhile_cons]
    by_cases hj : datos j = 0
    · exact ⟨[], List.nil_prefix, by simp [hj]⟩
    · refine ⟨basura, hbasura, ?_⟩
      rw [if_pos (decide_eq_true hj), if_pos (decide_eq_true hj), hmensaje]
      rfl

/-! ### The request of a read -/

/-- A read of bytes of the mapping sends the string that begins with them. -/
theorem ioFsRead_eq (hobt : obtenerArchivoPorNombre s nombre = some (i, a))
    (hcopia : Copiable c (a.config.bloqueInicial * c.blockSize + puntero) tamanio) :
    ioFsRead c s pid nombre direccion tamanio puntero resto = some (enviarMensaje
      (peticionEscrituraMemoria s pid direccion
        ((bytesDesde s.datosBloques (a.config.bloqueInicial * c.blockSize + puntero) tamanio ++
          resto).takeWhile fun b => b ≠ 0)) "END_OF_IO_FS_READ") := by
  unfold ioFsRead
  rw [hobt]
  simp only [Option.bind_eq_bind, Option.bind_some]
  unfold leerBloques
  rw [if_pos (show _ ∧ _ from hcopia)]
  rfl

/-- Any other read is not defined. -/
theorem ioFsRead_eq_none (hobt : obtenerArchivoPorNombre s nombre = some (i, a))
    (hcopia : ¬ Copiable c (a.config.bloqueInicial * c.blockSize + puntero) tamanio) :
    ioFsRead c s pid nombre direccion tamanio puntero resto = none := by
  unfold ioFsRead
  rw [hobt]
  simp only [Option.bind_eq_bind, Option.bind_some]
  unfold leerBloques
  rw [if_neg (show ¬ (_ ∧ _) from hcopia)]
  rfl

/-- The text of the one request that an operation has sent to memoria. -/
def Envia (s s' : Estado) (pid : Cadena) (direccion : ℤ) (mensaje : List UInt8) : Prop :=
  s'.peticiones = s.peticiones ++ [.escritura pid direccion mensaje.length mensaje]

/-- The read comes back, and what it sends are bytes of the mapping that are of no file, and then
bytes from after the buffer. -/
def NoEnviaArchivos (c : InoutConfig) (s : Estado) (pid nombre : Cadena)
    (direccion tamanio puntero : ℤ) (resto : List UInt8) : Prop :=
  ∃ i a s' basura, obtenerArchivoPorNombre s nombre = some (i, a) ∧
    ioFsRead c s pid nombre direccion tamanio puntero resto = some s' ∧
    Envia s s' pid direccion ((offsetsEnviados s.datosBloques
      (a.config.bloqueInicial * c.blockSize + puntero) tamanio).map s.datosBloques ++ basura) ∧
    basura <+: resto ∧
    ∀ j ∈ offsetsEnviados s.datosBloques (a.config.bloqueInicial * c.blockSize + puntero) tamanio,
      ¬ EsDeArchivo c s j

/-- The read comes back, and sends the `tamanio` bytes of the file from `puntero` on, with that
size. -/
def EnviaExacto (c : InoutConfig) (s : Estado) (pid nombre : Cadena)
    (direccion tamanio puntero : ℤ) (resto : List UInt8) : Prop :=
  ∃ i a s', obtenerArchivoPorNombre s nombre = some (i, a) ∧
    ioFsRead c s pid nombre direccion tamanio puntero resto = some s' ∧
    s'.peticiones = s.peticiones ++ [.escritura pid direccion tamanio
      (bytesDesde s.datosBloques (a.config.bloqueInicial * c.blockSize + puntero) tamanio)]

theorem noEnviaArchivos_iff (hobt : obtenerArchivoPorNombre s nombre = some (i, a)) :
    NoEnviaArchivos c s pid nombre direccion tamanio puntero resto ↔
      Copiable c (a.config.bloqueInicial * c.blockSize + puntero) tamanio ∧
        ∀ j ∈ offsetsEnviados s.datosBloques (a.config.bloqueInicial * c.blockSize + puntero)
          tamanio, ¬ EsDeArchivo c s j := by
  constructor
  · rintro ⟨i', a', s', basura, hobt', hread, -, -, hajenos⟩
    rw [hobt] at hobt'
    cases hobt'
    refine ⟨?_, hajenos⟩
    by_contra hcopia
    rw [ioFsRead_eq_none hobt hcopia] at hread
    cases hread
  · rintro ⟨hcopia, hajenos⟩
    obtain ⟨basura, hbasura, hmensaje⟩ := takeWhile_bytesDesde s.datosBloques
      (a.config.bloqueInicial * c.blockSize + puntero) tamanio resto
    refine ⟨i, a, _, basura, hobt, ioFsRead_eq hobt hcopia, ?_, hbasura, hajenos⟩
    rw [hmensaje]
    rfl

theorem enviaExacto_iff (hobt : obtenerArchivoPorNombre s nombre = some (i, a)) :
    EnviaExacto c s pid nombre direccion tamanio puntero resto ↔
      Copiable c (a.config.bloqueInicial * c.blockSize + puntero) tamanio ∧
      (∀ b ∈ bytesDesde s.datosBloques (a.config.bloqueInicial * c.blockSize + puntero) tamanio,
        b ≠ 0) ∧
      resto.takeWhile (fun b => b ≠ 0) = [] := by
  have hlong : ∀ inicio, 0 ≤ tamanio →
      ((bytesDesde s.datosBloques inicio tamanio).length : ℤ) = tamanio := by
    intro inicio h0
    simp [bytesDesde, h0]
  constructor
  · rintro ⟨i', a', s', hobt', hread, hpeticion⟩
    rw [hobt] at hobt'
    cases hobt'
    by_cases hcopia : Copiable c (a.config.bloqueInicial * c.blockSize + puntero) tamanio
    · rw [ioFsRead_eq hobt hcopia] at hread
      cases hread
      have hmensaje := List.append_cancel_left hpeticion
      simp only [List.cons.injEq, Peticion.escritura.injEq, and_true] at hmensaje
      obtain ⟨hbytes, hfin⟩ := (takeWhile_append_eq_left_iff _ _).1 hmensaje.2.2.2
      exact ⟨hcopia, fun b hb => by simpa using hbytes b hb, hfin⟩
    · rw [ioFsRead_eq_none hobt hcopia] at hread
      cases hread
  · rintro ⟨hcopia, hbytes, hfin⟩
    refine ⟨i, a, _, hobt, ioFsRead_eq hobt hcopia, ?_⟩
    have hmensaje := (takeWhile_append_eq_left_iff _ resto).2
      ⟨fun b hb => decide_eq_true (hbytes b hb), hfin⟩
    rw [hmensaje]
    show s.peticiones ++ [Peticion.escritura pid direccion _ _] = _
    rw [hlong _ hcopia.1]

/-- The range is one of the file. -/
def EnArchivo (a : Archivo) (tamanio puntero : ℤ) : Prop :=
  0 ≤ puntero ∧ 0 ≤ tamanio ∧ puntero + tamanio ≤ a.config.tamanioArchivo

instance (a : Archivo) (tamanio puntero : ℤ) : Decidable (EnArchivo a tamanio puntero) :=
  inferInstanceAs (Decidable (_ ∧ _ ∧ _))

/-- A range of the file is delivered as it is; any other delivers no byte of a file. -/
def EntregaLoPedido (c : InoutConfig) (s : Estado) (a : Archivo) (pid nombre : Cadena)
    (direccion tamanio puntero : ℤ) (resto : List UInt8) : Prop :=
  if EnArchivo a tamanio puntero then EnviaExacto c s pid nombre direccion tamanio puntero resto
  else NoEnviaArchivos c s pid nombre direccion tamanio puntero resto

/-- **When a read delivers exactly what was asked for**: the copy is defined; of a range of the file,
no byte is zero and the byte after the buffer is; of any other, no byte before the first zero is of a
file. -/
theorem ioFsRead_entrega_iff (c : InoutConfig) (s : Estado) (a : Archivo) (pid nombre : Cadena)
    (direccion tamanio puntero : ℤ) (resto : List UInt8) (i : ℕ)
    (hobt : obtenerArchivoPorNombre s nombre = some (i, a)) :
    EntregaLoPedido c s a pid nombre direccion tamanio puntero resto ↔
      Copiable c (a.config.bloqueInicial * c.blockSize + puntero) tamanio ∧
      if EnArchivo a tamanio puntero then
        (∀ b ∈ bytesDesde s.datosBloques (a.config.bloqueInicial * c.blockSize + puntero) tamanio,
          b ≠ 0) ∧ resto.takeWhile (fun b => b ≠ 0) = []
      else
        ∀ j ∈ offsetsEnviados s.datosBloques (a.config.bloqueInicial * c.blockSize + puntero)
          tamanio, ¬ EsDeArchivo c s j := by
  unfold EntregaLoPedido
  by_cases hrango : EnArchivo a tamanio puntero
  · rw [if_pos hrango, if_pos hrango]
    exact enviaExacto_iff hobt
  · rw [if_neg hrango, if_neg hrango]
    exact noEnviaArchivos_iff hobt

/-- A file with two bytes that are not zero is read whole. -/
theorem ioFsRead_entrega_dos_bytes :
    ∃ s, run (paso ⟨['F'], 2, 8⟩) (iniciarFileSystem ⟨['F'], 2, 8⟩)
        [.create [] ['a'], .truncate [] ['a'] 2, .write [] ['a'] 0 2 0 [7, 8]] = some s ∧
      EntregaLoPedido ⟨['F'], 2, 8⟩ s ⟨['a'], ⟨0, 2⟩⟩ [] ['a'] 0 2 0 [] := by
  refine ⟨_, rfl, ?_⟩
  refine (ioFsRead_entrega_iff ⟨['F'], 2, 8⟩ _ ⟨['a'], ⟨0, 2⟩⟩ [] ['a'] 0 2 0 [] 0 rfl).2
    ⟨by decide, ?_⟩
  rw [if_pos (by decide)]
  refine ⟨fun b hb => ?_, rfl⟩
  have hleidos : b ∈ [7, 8] := hb
  rcases List.mem_pair.1 hleidos with rfl | rfl <;> decide

/-- **A zero byte ends what is delivered**: of a file of two zeros, nothing is sent; and a read past
the end of a file delivers the bytes of the next one. -/
theorem ioFsRead_no_entrega :
    ∃ s, run (paso ⟨['F'], 2, 8⟩) (iniciarFileSystem ⟨['F'], 2, 8⟩)
        [.create [] ['a'], .truncate [] ['a'] 2, .create [] ['b'], .truncate [] ['b'] 2,
          .write [] ['b'] 0 2 0 [7, 8]] = some s ∧
      ¬ EntregaLoPedido ⟨['F'], 2, 8⟩ s ⟨['a'], ⟨0, 2⟩⟩ [] ['a'] 0 2 0 [] ∧
      ¬ EntregaLoPedido ⟨['F'], 2, 8⟩ s ⟨['a'], ⟨0, 2⟩⟩ [] ['a'] 0 2 2 [] := by
  refine ⟨_, rfl, ?_, ?_⟩
  · intro h
    unfold EntregaLoPedido at h
    rw [if_pos (by decide), enviaExacto_iff (i := 0) (a := ⟨['a'], ⟨0, 2⟩⟩) rfl] at h
    exact absurd h.2.1 (by decide)
  · intro h
    unfold EntregaLoPedido at h
    rw [if_neg (by decide), noEnviaArchivos_iff (i := 0) (a := ⟨['a'], ⟨0, 2⟩⟩) rfl] at h
    refine h.2 2 (by decide) ⟨⟨['b'], ⟨1, 2⟩⟩, by decide, ?_⟩
    exact ⟨by decide, by decide⟩

end SimuladorSO.DialFS
