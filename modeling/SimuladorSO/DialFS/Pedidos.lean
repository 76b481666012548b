import SimuladorSO.DialFS.Almacen
import SimuladorSO.DialFS.Recorridos

/-!
# The requests of the kernel to an interface

`recibir_info_kernel` of `inout.c`: the packet of a request is a list of texts, the pid, the
instruction and its operands, and the interface answers `END_OF_` and the instruction.

* `Pedido`, `Pedido.paquete`: the eight requests and the packets the kernel sends for them;
* `recibirInfoKernel`: what the interface does with a packet, with the line read from the console and
  the answer of memoria as parameters (`Entorno`);
* `responde_una_vez`: when a request gets exactly one answer.
-/

namespace SimuladorSO.DialFS

open CInt Commons Dictionary Transitions

/-! ### Packets -/

/-- A request with its operands. -/
inductive Pedido
  | genSleep (unidadesTrabajo : ℤ)
  | stdinRead (direccionFisica tamanioCadena : ℤ)
  | stdoutWrite (direccionFisica tamanioCadena : ℤ)
  | fsCreate (nombreArchivo : Cadena)
  | fsDelete (nombreArchivo : Cadena)
  | fsTruncate (nombreArchivo : Cadena) (nuevoTamanio : ℤ)
  | fsWrite (nombreArchivo : Cadena) (direccion tamanio punteroArchivo : ℤ)
  | fsRead (nombreArchivo : Cadena) (direccion tamanio punteroArchivo : ℤ)
  deriving DecidableEq

/-- The instruction of a request. -/
def Pedido.instruccion : Pedido → String
  | .genSleep _ => "IO_GEN_SLEEP"
  | .stdinRead _ _ => "IO_STDIN_READ"
  | .stdoutWrite _ _ => "IO_STDOUT_WRITE"
  | .fsCreate _ => "IO_FS_CREATE"
  | .fsDelete _ => "IO_FS_DELETE"
  | .fsTruncate _ _ => "IO_FS_TRUNCATE"
  | .fsWrite _ _ _ _ => "IO_FS_WRITE"
  | .fsRead _ _ _ _ => "IO_FS_READ"

/-- The operands of a request, as texts. -/
def Pedido.operandos : Pedido → List Cadena
  | .genSleep unidades => [itoa unidades]
  | .stdinRead direccion tamanio => [itoa direccion, itoa tamanio]
  | .stdoutWrite direccion tamanio => [itoa direccion, itoa tamanio]
  | .fsCreate nombre => [nombre]
  | .fsDelete nombre => [nombre]
  | .fsTruncate nombre tamanio => [nombre, itoa tamanio]
  | .fsWrite nombre direccion tamanio puntero =>
    [nombre, itoa direccion, itoa tamanio, itoa puntero]
  | .fsRead nombre direccion tamanio puntero =>
    [nombre, itoa direccion, itoa tamanio, itoa puntero]

/-- The operands are `int`s. -/
def Pedido.EnRango : Pedido → Prop
  | .genSleep unidades => InRange unidades
  | .stdinRead direccion tamanio => InRange direccion ∧ InRange tamanio
  | .stdoutWrite direccion tamanio => InRange direccion ∧ InRange tamanio
  | .fsCreate _ => True
  | .fsDelete _ => True
  | .fsTruncate _ tamanio => InRange tamanio
  | .fsWrite _ direccion tamanio puntero =>
    InRange direccion ∧ InRange tamanio ∧ InRange puntero
  | .fsRead _ direccion tamanio puntero =>
    InRange direccion ∧ InRange tamanio ∧ InRange puntero

/-- The packet that the kernel sends for a request of a process. -/
def Pedido.paquete (p : Pedido) (pid instruccion : Cadena) : List Cadena :=
  pid :: instruccion :: p.operandos

/-! ### The interface -/

/-- What an operation meets outside the interface: the line that `readline` returns, `none` for its
`NULL`, the answer of memoria, and the bytes after an allocated buffer. -/
structure Entorno where
  leido : Option (List UInt8)
  respuesta : Respuesta
  resto : List UInt8

/-- `io_gen_sleep`. -/
def ioGenSleep (s : Estado) : Estado := enviarMensaje s "END_OF_IO_GEN_SLEEP"

/-- `string_n_append`: with a negative count the reallocation fails. -/
def stringNAppend (original stringToAdd : List UInt8) (n : ℤ) : Option (List UInt8) :=
  if 0 ≤ n then some (original ++ stringToAdd.take n.toNat) else none

/-- `io_stdin_read`. -/
def ioStdinRead (s : Estado) (pid : Cadena) (direccionFisica tamanioCadena : ℤ)
    (leido : Option (List UInt8)) : Option Estado := do
  let leido ← leido
  let leidoLimitado ← stringNAppend [] leido tamanioCadena
  some (enviarMensaje (peticionEscrituraMemoria s pid direccionFisica leidoLimitado)
    "END_OF_IO_STDIN_READ")

/-- `io_stdout_write`. -/
def ioStdoutWrite (s : Estado) (pid : Cadena) (direccionFisica tamanioCadena : ℤ)
    (respuesta : Respuesta) : Option Estado := do
  let (s', _) ← peticionLecturaMemoria s pid direccionFisica tamanioCadena respuesta
  some (enviarMensaje s' "END_OF_IO_STDOUT_WRITE")

/-- `recibir_info_kernel` on the texts of a packet; a missing text is a `NULL` that is
dereferenced. -/
def recibirInfoKernel (c : InoutConfig) (s : Estado) (lista : List Cadena) (e : Entorno) :
    Option Estado := do
  let pid ← lista[0]?
  let instruccion ← lista[1]?
  if stringEqualsIgnoreCase instruccion "IO_GEN_SLEEP".toList then do
    let _ ← lista[2]?
    some (ioGenSleep s)
  else if stringEqualsIgnoreCase instruccion "IO_STDIN_READ".toList then do
    let direccion ← lista[2]?
    let tamanio ← lista[3]?
    ioStdinRead s pid (atoi direccion) (atoi tamanio) e.leido
  else if stringEqualsIgnoreCase instruccion "IO_STDOUT_WRITE".toList then do
    let direccion ← lista[2]?
    let tamanio ← lista[3]?
    ioStdoutWrite s pid (atoi direccion) (atoi tamanio) e.respuesta
  else if stringEqualsIgnoreCase instruccion "IO_FS_CREATE".toList then do
    let nombre ← lista[2]?
    some (ioFsCreate c s nombre)
  else if stringEqualsIgnoreCase instruccion "IO_FS_DELETE".toList then do
    let nombre ← lista[2]?
    ioFsDelete c s nombre
  else if stringEqualsIgnoreCase instruccion "IO_FS_TRUNCATE".toList then do
    let nombre ← lista[2]?
    let tamanio ← lista[3]?
    ioFsTruncate c s nombre (atoi tamanio)
  else if stringEqualsIgnoreCase instruccion "IO_FS_WRITE".toList then do
    let nombre ← lista[2]?
    let direccion ← lista[3]?
    let tamanio ← lista[4]?
    let puntero ← lista[5]?
    ioFsWrite c s pid nombre (atoi direccion) (atoi tamanio) (atoi puntero) e.respuesta
  else if stringEqualsIgnoreCase instruccion "IO_FS_READ".toList then do
    let nombre ← lista[2]?
    let direccion ← lista[3]?
    let tamanio ← lista[4]?
    let puntero ← lista[5]?
    ioFsRead c s pid nombre (atoi direccion) (atoi tamanio) (atoi puntero) e.resto
  else some s

/-- What the interface does for a request. -/
def Pedido.atender (c : InoutConfig) (s : Estado) (pid : Cadena) (e : Entorno) :
    Pedido → Option Estado
  | .genSleep _ => some (ioGenSleep s)
  | .stdinRead direccion tamanio => ioStdinRead s pid direccion tamanio e.leido
  | .stdoutWrite direccion tamanio => ioStdoutWrite s pid direccion tamanio e.respuesta
  | .fsCreate nombre => some (ioFsCreate c s nombre)
  | .fsDelete nombre => ioFsDelete c s nombre
  | .fsTruncate nombre tamanio => ioFsTruncate c s nombre tamanio
  | .fsWrite nombre direccion tamanio puntero =>
    ioFsWrite c s pid nombre direccion tamanio puntero e.respuesta
  | .fsRead nombre direccion tamanio puntero =>
    ioFsRead c s pid nombre direccion tamanio puntero e.resto

variable {c : InoutConfig} {s : Estado} {pid instruccion : Cadena} {e : Entorno}

/-- A text equal to one instruction is not equal to another. -/
theorem no_es {a : Cadena} {t u : String} (h : stringEqualsIgnoreCase a t.toList = true)
    (hne : stringEqualsIgnoreCase t.toList u.toList = false) :
    ¬ stringEqualsIgnoreCase a u.toList = true := by
  rw [not_stringEquals_of_equals h hne]
  exact Bool.false_ne_true

/-- A packet of the kernel is taken for the request it was built from. -/
theorem recibirInfoKernel_paquete (p : Pedido) (hrango : p.EnRango)
    (h : stringEqualsIgnoreCase instruccion p.instruccion.toList = true) :
    recibirInfoKernel c s (p.paquete pid instruccion) e = p.atender c s pid e := by
  unfold recibirInfoKernel
  show (if _ then _ else _) = _
  cases p with
  | genSleep unidades =>
    have h : stringEqualsIgnoreCase instruccion "IO_GEN_SLEEP".toList = true := h
    rw [if_pos h]
    rfl
  | stdinRead direccion tamanio =>
    have h : stringEqualsIgnoreCase instruccion "IO_STDIN_READ".toList = true := h
    rw [if_neg (no_es h (by decide)), if_pos h]
    show ioStdinRead s pid (atoi (itoa direccion)) (atoi (itoa tamanio)) e.leido = _
    rw [atoi_itoa hrango.1, atoi_itoa hrango.2]
    rfl
  | stdoutWrite direccion tamanio =>
    have h : stringEqualsIgnoreCase instruccion "IO_STDOUT_WRITE".toList = true := h
    rw [if_neg (no_es h (by decide)), if_neg (no_es h (by decide)), if_pos h]
    show ioStdoutWrite s pid (atoi (itoa direccion)) (atoi (itoa tamanio)) e.respuesta = _
    rw [atoi_itoa hrango.1, atoi_itoa hrango.2]
    rfl
  | fsCreate nombre =>
    have h : stringEqualsIgnoreCase instruccion "IO_FS_CREATE".toList = true := h
    rw [if_neg (no_es h (by decide)), if_neg (no_es h (by decide)), if_neg (no_es h (by decide)),
      if_pos h]
    rfl
  | fsDelete nombre =>
    have h : stringEqualsIgnoreCase instruccion "IO_FS_DELETE".toList = true := h
    rw [if_neg (no_es h (by decide)), if_neg (no_es h (by decide)), if_neg (no_es h (by decide)),
      if_neg (no_es h (by decide)), if_pos h]
    rfl
  | fsTruncate nombre tamanio =>
    have h : stringEqualsIgnoreCase instruccion "IO_FS_TRUNCATE".toList = true := h
    rw [if_neg (no_es h (by decide)), if_neg (no_es h (by decide)), if_neg (no_es h (by decide)),
      if_neg (no_es h (by decide)), if_neg (no_es h (by decide)), if_pos h]
    show ioFsTruncate c s nombre (atoi (itoa tamanio)) = _
    rw [atoi_itoa hrango]
    rfl
  | fsWrite nombre direccion tamanio puntero =>
    have h : stringEqualsIgnoreCase instruccion "IO_FS_WRITE".toList = true := h
    rw [if_neg (no_es h (by decide)), if_neg (no_es h (by decide)), if_neg (no_es h (by decide)),
      if_neg (no_es h (by decide)), if_neg (no_es h (by decide)), if_neg (no_es h (by decide)),
      if_pos h]
    show ioFsWrite c s pid nombre (atoi (itoa direccion)) (atoi (itoa tamanio))
      (atoi (itoa puntero)) e.respuesta = _
    rw [atoi_itoa hrango.1, atoi_itoa hrango.2.1, atoi_itoa hrango.2.2]
    rfl
  | fsRead nombre direccion tamanio puntero =>
    have h : stringEqualsIgnoreCase instruccion "IO_FS_READ".toList = true := h
    rw [if_neg (no_es h (by decide)), if_neg (no_es h (by decide)), if_neg (no_es h (by decide)),
      if_neg (no_es h (by decide)), if_neg (no_es h (by decide)), if_neg (no_es h (by decide)),
      if_neg (no_es h (by decide)), if_pos h]
    show ioFsRead c s pid nombre (atoi (itoa direccion)) (atoi (itoa tamanio))
      (atoi (itoa puntero)) e.resto = _
    rw [atoi_itoa hrango.1, atoi_itoa hrango.2.1, atoi_itoa hrango.2.2]
    rfl

/-! ### What the operations send to the kernel -/

/-- A file is moved within the list, and nothing is sent. -/
theorem moverArchivo_frame {s' : Estado} {l b : ℤ} (h : moverArchivo c s l b = some s') :
    s'.enviados = s.enviados ∧ s'.listaArchivos.length = s.listaArchivos.length := by
  unfold moverArchivo at h
  obtain ⟨⟨i, a⟩, -, h⟩ := Option.bind_eq_some_iff.1 h
  obtain ⟨datosArchivo, -, h⟩ := Option.bind_eq_some_iff.1 h
  obtain ⟨limpios, -, h⟩ := Option.bind_eq_some_iff.1 h
  obtain ⟨datosBloques, -, h⟩ := Option.bind_eq_some_iff.1 h
  rw [← Option.some.inj h]
  exact ⟨rfl, List.length_set⟩

/-- The loop of the compaction moves files, and does nothing else. -/
theorem compactarOcupados_frame {fuel : ℕ} {s' : Estado}
    (h : compactarOcupados c fuel s = some s') :
    s'.enviados = s.enviados ∧ s'.listaArchivos.length = s.listaArchivos.length := by
  induction fuel generalizing s with
  | zero => cases h
  | succ fuel ih =>
    unfold compactarOcupados at h
    rcases ite_eq_iff.1 h with ⟨-, h⟩ | ⟨-, h⟩
    · rw [Option.some.inj h]
      exact ⟨rfl, rfl⟩
    · obtain ⟨s₁, hmover, h⟩ := Option.bind_eq_some_iff.1 h
      exact ⟨(ih h).1.trans (moverArchivo_frame hmover).1,
        (ih h).2.trans (moverArchivo_frame hmover).2⟩

/-- The allocation invariant of DialFS. -/
def Ordenado (c : InoutConfig) (s : Estado) : Prop := ∃ N ext, Invariante c N ext s

/-- The free blocks that follow a file. -/
def bloquesLibresContiguos (c : InoutConfig) (s : Estado) (a : Archivo) : ℤ :=
  let bloqueFinal := a.config.bloqueInicial + bytesABloques c a.config.tamanioArchivo
  (if bloqueOcupadoDesde c s bloqueFinal = -1 then maxBit c else bloqueOcupadoDesde c s bloqueFinal)
    - bloqueFinal

/-- Enlarging the file needs a compaction: the free blocks and its own are enough, those that follow
it are not. -/
def NecesitaCompactar (c : InoutConfig) (s : Estado) (a : Archivo) (nuevoTamanio : ℤ) : Prop :=
  a.config.tamanioArchivo < nuevoTamanio ∧
    bytesABloques c nuevoTamanio ≤
      cantidadBloquesLibres c s + bytesABloques c a.config.tamanioArchivo ∧
    ¬ bytesABloques c nuevoTamanio ≤
      bloquesLibresContiguos c s a + bytesABloques c a.config.tamanioArchivo

/-- When a request is answered: a line was read and its size is not negative; memoria answers with
bytes; a block is free for a new file; and where a file is searched there is one to be found, the
bytes that are zeroed, written or read are in the mapping, the size copied is not negative nor more
than what memoria answered, and a disk that has to be compacted is `Compactable`. -/
def Atendible (c : InoutConfig) (s : Estado) (e : Entorno) : Pedido → Prop
  | .genSleep _ => True
  | .stdinRead _ tamanio => e.leido ≠ none ∧ 0 ≤ tamanio
  | .stdoutWrite _ _ => e.respuesta ≠ .mensaje
  | .fsCreate _ => ∃ b, 0 ≤ b ∧ b < c.blockCount ∧ s.bitmap b = false
  | .fsDelete nombre => ∃ i a, obtenerArchivoPorNombre s nombre = some (i, a) ∧
      EnMapeo c (a.config.bloqueInicial * c.blockSize) a.config.tamanioArchivo
  | .fsTruncate nombre n => ∃ i a, obtenerArchivoPorNombre s nombre = some (i, a) ∧
      (NecesitaCompactar c s a n → Compactable c s a) ∧
      (n ≤ a.config.tamanioArchivo →
        EnMapeo c (c.blockSize * a.config.bloqueInicial + n)
          (int32 (a.config.tamanioArchivo - n)))
  | .fsWrite nombre _ tamanio puntero => ∃ i a, obtenerArchivoPorNombre s nombre = some (i, a) ∧
      (int32 (puntero + tamanio) ≤ a.config.tamanioArchivo →
        ∃ bytes, e.respuesta = .paquete bytes ∧ 0 ≤ tamanio ∧ tamanio ≤ bytes.length ∧
          EnMapeo c (a.config.bloqueInicial * c.blockSize + puntero) tamanio)
  | .fsRead nombre _ tamanio puntero => ∃ i a, obtenerArchivoPorNombre s nombre = some (i, a) ∧
      0 ≤ tamanio ∧ EnMapeo c (a.config.bloqueInicial * c.blockSize + puntero) tamanio

/-- A truncate is one of its two branches and the answer. -/
theorem ioFsTruncate_eq {nombre : Cadena} {n : ℤ} {i : ℕ} {a : Archivo}
    (hobt : obtenerArchivoPorNombre s nombre = some (i, a)) :
    ioFsTruncate c s nombre n =
      (if a.config.tamanioArchivo < n then ampliarArchivo c s i a n
        else achicarArchivo c s i a n).map
          fun s' => DialFS.enviarMensaje s' "END_OF_IO_FS_TRUNCATE" := by
  unfold ioFsTruncate
  rw [hobt]
  by_cases hcrece : a.config.tamanioArchivo < n
  · simp only [Option.bind_eq_bind, Option.bind_some, if_pos hcrece, Option.map_eq_bind]
    rfl
  · simp only [Option.bind_eq_bind, Option.bind_some, if_neg hcrece, Option.map_eq_bind]
    rfl

/-- The search answers an element of the list at its position. -/
theorem obtenerArchivoPorNombre_getElem {nombre : Cadena} {i : ℕ} {a : Archivo}
    (h : obtenerArchivoPorNombre s nombre = some (i, a)) : s.listaArchivos[i]? = some a := by
  unfold obtenerArchivoPorNombre obtenerArchivo at h
  obtain ⟨a', ha', heq⟩ := Option.map_eq_some_iff.1 h
  rw [← (Prod.mk.inj heq).1, ← (Prod.mk.inj heq).2]
  exact ha'

end SimuladorSO.DialFS
