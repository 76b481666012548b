import SimuladorSO.Commons
import SimuladorSO.Library.CInt
import SimuladorSO.Library.Dictionary
import SimuladorSO.Library.Loops
import Mathlib.Data.UInt

/-!
# DialFS: state and operations

The file system of `inout.c` for an interface of type `DIALFS`.  `datosBloques` and `bitmap` are
the two mappings, indexed by the offset from their start.  A function answers `none` where the
program goes on with an uninitialised pointer, copies a negative number of bytes or more bytes than
there are, accesses bytes outside the mapping of the blocks, or does not come back.

* searches and counts: `obtenerArchivo`, `posicionBloqueLibre`, `bloqueOcupadoDesde`,
  `cantidadBloquesLibres`, `bytesABloques`;
* `compactarFileSystem`;
* the operations: `ioFsCreate`, `ioFsDelete`, `ioFsTruncate`, `ioFsWrite`, `ioFsRead`; `paso` runs
  the one of the first four that a request asks for.
-/

namespace SimuladorSO.DialFS

open CInt Dictionary Loops

/-- The name of the interface and the section of its configuration that DialFS reads. -/
structure InoutConfig where
  nombre : Cadena
  blockSize : ℤ
  blockCount : ℤ

/-- The two integer keys of the configuration of a file. -/
structure Metadata where
  bloqueInicial : ℤ
  tamanioArchivo : ℤ
  deriving DecidableEq

/-- An element of `lista_archivos`. -/
structure Archivo where
  nombreArchivo : Cadena
  config : Metadata
  deriving DecidableEq

/-- What a file of `PATH_BASE_DIALFS` is. -/
inductive Entrada
  | bloques
  | bitmap
  | metadata (config : Metadata)
  deriving DecidableEq

/-- A request sent to memoria, with the pid and the physical address. -/
inductive Peticion
  | lectura (pid : Cadena) (direccion tamanio : ℤ)
  | escritura (pid : Cadena) (direccion tamanio : ℤ) (mensaje : List UInt8)
  deriving DecidableEq

/-- What memoria answers to a request: a `MENSAJE`, or a `PAQUETE` with some bytes. -/
inductive Respuesta
  | mensaje
  | paquete (bytes : List UInt8)
  deriving DecidableEq

/-- The mappings, the list of files, the directory `PATH_BASE_DIALFS` (file names are single path
components) and what was sent to the kernel and to memoria, the oldest first. -/
structure Estado where
  datosBloques : ℤ → UInt8
  bitmap : ℤ → Bool
  listaArchivos : List Archivo
  directorio : Dict Cadena Entrada
  enviados : List String
  peticiones : List Peticion

variable (c : InoutConfig)

/-- `crear_nombre_archivo("bloques", ".dat")`. -/
def nombreArchivoBloques : Cadena := "bloques".toList ++ c.nombre ++ ".dat".toList

/-- `crear_nombre_archivo("bitmap", ".dat")`. -/
def nombreArchivoBitmap : Cadena := "bitmap".toList ++ c.nombre ++ ".dat".toList

/-- The state after `iniciar_file_system` in an empty directory. -/
def iniciarFileSystem : Estado where
  datosBloques := fun _ => 0
  bitmap := fun _ => false
  listaArchivos := []
  directorio := put (put [] (nombreArchivoBloques c) .bloques) (nombreArchivoBitmap c) .bitmap
  enviados := []
  peticiones := []

/-- `enviar_mensaje(texto, conexion_kernel)`. -/
def enviarMensaje (s : Estado) (texto : String) : Estado :=
  { s with enviados := s.enviados ++ [texto] }

/-- `peticion_lectura_memoria`: the bytes that memoria answers.  With a `MENSAJE` the list that is
returned was never set. -/
def peticionLecturaMemoria (s : Estado) (pid : Cadena) (registroDireccion tamanio : ℤ) :
    Respuesta → Option (Estado × List UInt8)
  | .mensaje => none
  | .paquete bytes =>
    some ({ s with peticiones := s.peticiones ++ [.lectura pid registroDireccion tamanio] }, bytes)

/-- `peticion_escritura_memoria` of a C string, whatever memoria answers. -/
def peticionEscrituraMemoria (s : Estado) (pid : Cadena) (registroDireccion : ℤ)
    (mensaje : List UInt8) : Estado :=
  { s with
    peticiones := s.peticiones ++ [.escritura pid registroDireccion mensaje.length mensaje] }

/-! ### Searches -/

/-- The loop of the two searches below: the position and the value of the first file satisfying `p`.
A miss is only logged, and the loop leaves its pointer at the last file it visited. -/
def obtenerArchivo (p : Archivo → Bool) (lista : List Archivo) : Option (ℕ × Archivo) :=
  let index := (lista.findIdx? p).getD (lista.length - 1)
  lista[index]?.map fun unArchivo => (index, unArchivo)

/-- The file with that first block. -/
def obtenerArchivoPorBloqueInicial (s : Estado) (bloqueInicial : ℤ) : Option (ℕ × Archivo) :=
  obtenerArchivo (fun a => decide (a.config.bloqueInicial = bloqueInicial)) s.listaArchivos

/-- The file with that name. -/
def obtenerArchivoPorNombre (s : Estado) (nombre : Cadena) : Option (ℕ × Archivo) :=
  obtenerArchivo (fun a => decide (a.nombreArchivo = nombre)) s.listaArchivos

/-- `bitarray_get_max_bit`: the bits of the `BLOCK_COUNT / 8` bytes of the mapping. -/
def maxBit : ℤ := 8 * (c.blockCount / 8)

/-- The first occupied block from an index of the bitmap on, or `-1`. -/
def bloqueOcupadoDesde (s : Estado) (desde : ℤ) : ℤ :=
  firstFrom s.bitmap desde (maxBit c - desde).toNat

/-- The first free block of the bitmap, or `-1`. -/
def posicionBloqueLibre (s : Estado) : ℤ := firstFrom (fun b => !s.bitmap b) 0 (maxBit c).toNat

/-- How many blocks of the bitmap are free. -/
def cantidadBloquesLibres (s : Estado) : ℤ :=
  iterate (fun i contador => if s.bitmap i then contador else contador + 1) (maxBit c).toNat 0

/-- How many blocks a number of bytes takes; no bytes take one. -/
def bytesABloques (bytes : ℤ) : ℤ := if bytes = 0 then 1 else ceilDiv bytes c.blockSize

/-! ### Loops over the mappings -/

/-- Clear `bloques` bits. -/
def bitmapCleanNBits (bitmap : ℤ → Bool) (bloqueInicial bloques : ℤ) : ℤ → Bool :=
  iterate (fun i bitmap => Function.update bitmap (bloqueInicial + i) false) bloques.toNat bitmap

/-- Set `bloques` bits. -/
def bitmapSetNBits (bitmap : ℤ → Bool) (bloqueInicial bloques : ℤ) : ℤ → Bool :=
  iterate (fun i bitmap => Function.update bitmap (bloqueInicial + i) true) bloques.toNat bitmap

/-- The bytes of a range, if any, are bytes of the mapping. -/
def EnMapeo (byteInicial cantidadBytes : ℤ) : Prop :=
  0 < cantidadBytes → 0 ≤ byteInicial ∧ byteInicial + cantidadBytes ≤ c.blockSize * c.blockCount

instance (byteInicial cantidadBytes : ℤ) : Decidable (EnMapeo c byteInicial cantidadBytes) :=
  inferInstanceAs (Decidable (_ → _))

/-- Zero `cantidadBytes` bytes. -/
def limpiarNBytesBloques (datos : ℤ → UInt8) (byteInicial cantidadBytes : ℤ) :
    Option (ℤ → UInt8) :=
  if EnMapeo c byteInicial cantidadBytes then
    some (iterate (fun i datos => Function.update datos (byteInicial + i) 0) cantidadBytes.toNat
      datos)
  else none

/-- `memcpy` from the mapping into a buffer of its own. -/
def leerBloques (datos : ℤ → UInt8) (byteInicial cantidadBytes : ℤ) : Option (List UInt8) :=
  if 0 ≤ cantidadBytes ∧ EnMapeo c byteInicial cantidadBytes then
    some ((List.range cantidadBytes.toNat).map fun i : ℕ => datos (byteInicial + i))
  else none

/-- `memcpy` from a buffer into the mapping. -/
def escribirBloques (datos : ℤ → UInt8) (byteInicial : ℤ) (origen : List UInt8)
    (cantidadBytes : ℤ) : Option (ℤ → UInt8) :=
  if (0 ≤ cantidadBytes ∧ cantidadBytes ≤ origen.length) ∧
      EnMapeo c byteInicial cantidadBytes then
    some fun j =>
      if byteInicial ≤ j ∧ j < byteInicial + cantidadBytes then
        origen.getD (j - byteInicial).toNat 0
      else datos j
  else none

/-- `config_set_value` on the file at position `i` and `config_save`. -/
def guardarConfig (s : Estado) (i : ℕ) (archivo : Archivo) (config : Metadata) : Estado :=
  { s with
    listaArchivos := s.listaArchivos.set i { archivo with config := config }
    directorio := put s.directorio archivo.nombreArchivo (.metadata config) }

/-! ### Compaction -/

/-- One iteration of the loop: the file that begins at the occupied block is moved to the first
free one. -/
def moverArchivo (s : Estado) (primerBloqueLibre bloqueOcupado : ℤ) : Option Estado := do
  let (i, archivoo) ← obtenerArchivoPorBloqueInicial s bloqueOcupado
  let tamanioArchivo := archivoo.config.tamanioArchivo
  let byteInicialOcupado := bloqueOcupado * c.blockSize
  let byteInicialLibre := primerBloqueLibre * c.blockSize
  let bloquesOcupados := bytesABloques c tamanioArchivo
  let datosArchivo ← leerBloques c s.datosBloques byteInicialOcupado tamanioArchivo
  let limpios ← limpiarNBytesBloques c s.datosBloques byteInicialOcupado tamanioArchivo
  let datosBloques ← escribirBloques c limpios byteInicialLibre datosArchivo tamanioArchivo
  let bitmap := bitmapSetNBits (bitmapCleanNBits s.bitmap bloqueOcupado bloquesOcupados)
    primerBloqueLibre bloquesOcupados
  some (guardarConfig { s with datosBloques := datosBloques, bitmap := bitmap } i archivoo
    { archivoo.config with bloqueInicial := primerBloqueLibre })

/-- The loop, which compacts until there is no occupied block after the first free one; `none` when
that takes more iterations than `fuel`. -/
def compactarOcupados : ℕ → Estado → Option Estado
  | 0, _ => none
  | fuel + 1, s =>
    let primerBloqueLibre := posicionBloqueLibre c s
    let bloqueOcupado :=
      if primerBloqueLibre = -1 then -1 else bloqueOcupadoDesde c s primerBloqueLibre
    if bloqueOcupado = -1 then some s
    else (moverArchivo c s primerBloqueLibre bloqueOcupado).bind (compactarOcupados fuel)

/-- Compacts the whole file system and leaves the file that is enlarged at the end.  Every iteration
of the loop moves the first free block forward, so one more than the bits of the bitmap is fuel
enough. -/
def compactarFileSystem (s : Estado) (i : ℕ) (archivoTruncado : Archivo) (nuevoTamanio : ℤ) :
    Option Estado := do
  let tamanioArchivoTruncado := archivoTruncado.config.tamanioArchivo
  let bloqueInicial := archivoTruncado.config.bloqueInicial
  let byteInicio := bloqueInicial * c.blockSize
  let datosArchivoTruncado ← leerBloques c s.datosBloques byteInicio tamanioArchivoTruncado
  let limpios ← limpiarNBytesBloques c s.datosBloques byteInicio tamanioArchivoTruncado
  let s₁ ← compactarOcupados c ((maxBit c).toNat + 1)
    { s with
      datosBloques := limpios
      bitmap := bitmapCleanNBits s.bitmap bloqueInicial (bytesABloques c tamanioArchivoTruncado) }
  let ultimoBloqueLibre := posicionBloqueLibre c s₁
  let datosBloques ← escribirBloques c s₁.datosBloques (ultimoBloqueLibre * c.blockSize)
    datosArchivoTruncado tamanioArchivoTruncado
  let bitmap := bitmapSetNBits s₁.bitmap ultimoBloqueLibre (bytesABloques c nuevoTamanio)
  some (guardarConfig { s₁ with datosBloques := datosBloques, bitmap := bitmap } i archivoTruncado
    ⟨ultimoBloqueLibre, nuevoTamanio⟩)

/-! ### The operations -/

/-- Creates a file.  Without a free block nothing happens, and nothing is answered. -/
def ioFsCreate (s : Estado) (nombreArchivo : Cadena) : Estado :=
  let posicionBloqueArchivo := posicionBloqueLibre c s
  if posicionBloqueArchivo = -1 then s
  else
    let s' :=
      match get s.directorio nombreArchivo with
      | some _ => s
      | none =>
        let config : Metadata := ⟨posicionBloqueArchivo, 0⟩
        { s with
          directorio := put s.directorio nombreArchivo (.metadata config)
          listaArchivos := s.listaArchivos ++ [⟨nombreArchivo, config⟩]
          bitmap := Function.update s.bitmap posicionBloqueArchivo true }
    enviarMensaje s' "END_OF_IO_FS_CREATE"

/-- Deletes a file. -/
def ioFsDelete (s : Estado) (nombreArchivo : Cadena) : Option Estado := do
  let (i, archivo) ← obtenerArchivoPorNombre s nombreArchivo
  let tamanioArchivo := archivo.config.tamanioArchivo
  let bloqueInicial := archivo.config.bloqueInicial
  let byteInicial := bloqueInicial * c.blockSize
  let bloquesArchivo := bytesABloques c tamanioArchivo
  let datosBloques ← limpiarNBytesBloques c s.datosBloques byteInicial tamanioArchivo
  let s' :=
    { s with
      datosBloques := datosBloques
      bitmap := bitmapCleanNBits s.bitmap bloqueInicial bloquesArchivo
      listaArchivos := s.listaArchivos.eraseIdx i
      directorio := remove s.directorio nombreArchivo }
  some (enviarMensaje s' "END_OF_IO_FS_DELETE")

/-- The branch of `io_fs_truncate` that enlarges the file. -/
def ampliarArchivo (s : Estado) (i : ℕ) (archivo : Archivo) (nuevoTamanio : ℤ) : Option Estado :=
  let tamanioActual := archivo.config.tamanioArchivo
  let bloqueInicial := archivo.config.bloqueInicial
  let cantBloquesLibres := cantidadBloquesLibres c s
  let bloquesOcupadosArchivo := bytesABloques c tamanioActual
  let bloquesNuevoTamanio := bytesABloques c nuevoTamanio
  if bloquesNuevoTamanio ≤ cantBloquesLibres + bloquesOcupadosArchivo then
    let bloqueFinal := bloqueInicial + bloquesOcupadosArchivo
    let proxBloqInicial :=
      if bloqueOcupadoDesde c s bloqueFinal = -1 then maxBit c else bloqueOcupadoDesde c s bloqueFinal
    let bloquesLibresContiguos := proxBloqInicial - bloqueFinal
    if bloquesNuevoTamanio ≤ bloquesLibresContiguos + bloquesOcupadosArchivo then
      let bitmap := bitmapSetNBits s.bitmap bloqueFinal (bloquesNuevoTamanio - bloquesOcupadosArchivo)
      some (guardarConfig { s with bitmap := bitmap } i archivo
        { archivo.config with tamanioArchivo := nuevoTamanio })
    else compactarFileSystem c s i archivo nuevoTamanio
  else some s

/-- The branch of `io_fs_truncate` that does not enlarge the file. -/
def achicarArchivo (s : Estado) (i : ℕ) (archivo : Archivo) (nuevoTamanio : ℤ) : Option Estado :=
  let tamanioActual := archivo.config.tamanioArchivo
  let bloqueInicial := archivo.config.bloqueInicial
  let byteInicial := c.blockSize * bloqueInicial
  let bytesALimpiar := int32 (tamanioActual - nuevoTamanio)
  let bloquesNuevosOcupados := bytesABloques c nuevoTamanio
  let bloquesADesocupar := int32 (bytesABloques c tamanioActual - bytesABloques c nuevoTamanio)
  (limpiarNBytesBloques c s.datosBloques (byteInicial + nuevoTamanio) bytesALimpiar).map
    fun datosBloques =>
      guardarConfig
        { s with
          datosBloques := datosBloques
          bitmap :=
            bitmapCleanNBits s.bitmap (bloqueInicial + bloquesNuevosOcupados) bloquesADesocupar }
        i archivo { archivo.config with tamanioArchivo := nuevoTamanio }

/-- Changes the size of a file. -/
def ioFsTruncate (s : Estado) (nombreArchivo : Cadena) (nuevoTamanio : ℤ) : Option Estado := do
  let (i, archivo) ← obtenerArchivoPorNombre s nombreArchivo
  let s' ←
    if archivo.config.tamanioArchivo < nuevoTamanio then ampliarArchivo c s i archivo nuevoTamanio
    else achicarArchivo c s i archivo nuevoTamanio
  some (enviarMensaje s' "END_OF_IO_FS_TRUNCATE")

/-- Writes in a file what memoria answers for an address and a size. -/
def ioFsWrite (s : Estado) (pid nombreArchivo : Cadena)
    (direccionMemoria tamanio punteroArchivo : ℤ) (respuesta : Respuesta) : Option Estado := do
  let (_, archivo) ← obtenerArchivoPorNombre s nombreArchivo
  let bloqueInicial := archivo.config.bloqueInicial
  let tamanioArchivo := archivo.config.tamanioArchivo
  let s' ←
    if int32 (punteroArchivo + tamanio) ≤ tamanioArchivo then do
      let (s, mensaje) ← peticionLecturaMemoria s pid direccionMemoria tamanio respuesta
      let datosBloques ← escribirBloques c s.datosBloques
        (bloqueInicial * c.blockSize + punteroArchivo) mensaje tamanio
      some { s with datosBloques := datosBloques }
    else some s
  some (enviarMensaje s' "END_OF_IO_FS_WRITE")

/-- Sends to memoria, as a C string, the bytes of a file from a pointer on; `resto` are the bytes
after the buffer, where the string goes on when the buffer has no zero. -/
def ioFsRead (s : Estado) (pid nombreArchivo : Cadena) (direccion tamanio punteroArchivo : ℤ)
    (resto : List UInt8) : Option Estado := do
  let (_, archivo) ← obtenerArchivoPorNombre s nombreArchivo
  let bloqueInicial := archivo.config.bloqueInicial
  let datosArchivo ← leerBloques c s.datosBloques
    (bloqueInicial * c.blockSize + punteroArchivo) tamanio
  let s' := peticionEscrituraMemoria s pid direccion
    ((datosArchivo ++ resto).takeWhile fun b => b ≠ 0)
  some (enviarMensaje s' "END_OF_IO_FS_READ")

/-- A request of the kernel that changes the file system, with its operands; of a write also the
bytes that memoria answers. -/
inductive Operacion
  | create (pid nombreArchivo : Cadena)
  | delete (pid nombreArchivo : Cadena)
  | truncate (pid nombreArchivo : Cadena) (nuevoTamanio : ℤ)
  | write (pid nombreArchivo : Cadena) (direccionMemoria tamanio punteroArchivo : ℤ)
      (mensaje : List UInt8)

/-- `recibir_info_kernel` on a request. -/
def paso (s : Estado) : Operacion → Option Estado
  | .create _ nombreArchivo => some (ioFsCreate c s nombreArchivo)
  | .delete _ nombreArchivo => ioFsDelete c s nombreArchivo
  | .truncate _ nombreArchivo nuevoTamanio => ioFsTruncate c s nombreArchivo nuevoTamanio
  | .write pid nombreArchivo direccionMemoria tamanio punteroArchivo mensaje =>
    ioFsWrite c s pid nombreArchivo direccionMemoria tamanio punteroArchivo (.paquete mensaje)

end SimuladorSO.DialFS
