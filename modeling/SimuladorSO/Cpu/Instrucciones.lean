import SimuladorSO.Cpu.Registros
import SimuladorSO.Cpu.Tlb

/-!
# The packets of an instruction

What each instruction of `cpu.c` sends to the kernel.  The registers, the TLB and memoria's answers
are read from a context; what an instruction does to the registers and to memoria sends nothing to
the kernel and is not in this model.  A missing operand is a `NULL` that the program dereferences,
and the answer is then `none`.

* `Instruccion`, `decodificar`: the words of a line, as `hacer_instruccion` tells them apart;
* `paquetesDe`: the packets of an instruction;
* `decodificar_otro`, `decodificar_copyString` and so on: what a name is decoded to.

An instruction sends one packet at most, except that the translation of an address may send a
`DENIED_ACCESS` of its own: `hacerInstruccion_paquetes` says when there are two.
-/

namespace SimuladorSO.Cpu

open CInt Commons

/-- An instruction and its operands.  The name goes along where it is sent to the kernel. -/
inductive Instruccion
  | set (registro valor : Cadena)
  | movIn (registroDatos registroDireccion : Cadena)
  | movOut (registroDireccion registroDatos : Cadena)
  | sum (registroDestino registroOrigen : Cadena)
  | sub (registroDestino registroOrigen : Cadena)
  | jnz (registro instruccion : Cadena)
  | resize (nuevoTam : Cadena)
  | copyString (tam : Cadena)
  | waitOSignal (nombre recurso : Cadena)
  | ioGenSleep (nombre interfaz unidadesDeTrabajo : Cadena)
  | ioStdoutWriteOStdinRead (nombre interfaz registroDireccion registroTam : Cadena)
  | ioFsCreateODelete (nombre interfaz nombreArchivo : Cadena)
  | ioFsTruncate (nombre interfaz nombreArchivo registroTam : Cadena)
  | ioFsWriteORead (nombre interfaz nombreArchivo registroDireccion registroTam
      registroPunteroArchivo : Cadena)
  | exit
  /-- No function is called. -/
  | ninguna

/-- The chain of comparisons of `hacer_instruccion`.  A missing operand is a `NULL` that the program
dereferences. -/
def decodificar (instruccion : Cadena) : Option Instruccion :=
  let datos := instruccion.splitOn ' '
  (datos[0]?).bind fun nombre =>
    if stringEqualsIgnoreCase nombre "SET".toList then
      (datos[1]?).bind fun registro => (datos[2]?).map fun valor => .set registro valor
    else if stringEqualsIgnoreCase nombre "MOV_IN".toList then
      (datos[1]?).bind fun registroDatos => (datos[2]?).map fun registroDireccion =>
        .movIn registroDatos registroDireccion
    else if stringEqualsIgnoreCase nombre "MOV_OUT".toList then
      (datos[1]?).bind fun registroDireccion => (datos[2]?).map fun registroDatos =>
        .movOut registroDireccion registroDatos
    else if stringEqualsIgnoreCase nombre "SUM".toList then
      (datos[1]?).bind fun registroDestino => (datos[2]?).map fun registroOrigen =>
        .sum registroDestino registroOrigen
    else if stringEqualsIgnoreCase nombre "SUB".toList then
      (datos[1]?).bind fun registroDestino => (datos[2]?).map fun registroOrigen =>
        .sub registroDestino registroOrigen
    else if stringEqualsIgnoreCase nombre "JNZ".toList then
      (datos[1]?).bind fun registro => (datos[2]?).map fun destino => .jnz registro destino
    else if stringEqualsIgnoreCase nombre "RESIZE".toList then
      (datos[1]?).map fun nuevoTam => .resize nuevoTam
    else if stringEqualsIgnoreCase nombre "COPY_STRING".toList then
      (datos[1]?).map fun tam => .copyString tam
    else if stringEqualsIgnoreCase nombre "WAIT".toList ∨
        stringEqualsIgnoreCase nombre "SIGNAL".toList then
      (datos[1]?).map fun recurso => .waitOSignal nombre recurso
    else if stringEqualsIgnoreCase nombre "IO_GEN_SLEEP".toList then
      (datos[1]?).bind fun interfaz => (datos[2]?).map fun unidades =>
        .ioGenSleep nombre interfaz unidades
    else if stringEqualsIgnoreCase nombre "IO_STDOUT_WRITE".toList ∨
        stringEqualsIgnoreCase nombre "IO_STDIN_READ".toList then
      (datos[1]?).bind fun interfaz => (datos[2]?).bind fun direccion =>
        (datos[3]?).map fun tam => .ioStdoutWriteOStdinRead nombre interfaz direccion tam
    else if stringEqualsIgnoreCase nombre "IO_FS_CREATE".toList ∨
        stringEqualsIgnoreCase nombre "IO_FS_DELETE".toList then
      (datos[1]?).bind fun interfaz => (datos[2]?).map fun archivo =>
        .ioFsCreateODelete nombre interfaz archivo
    else if stringEqualsIgnoreCase nombre "IO_FS_TRUNCATE".toList then
      (datos[1]?).bind fun interfaz => (datos[2]?).bind fun archivo =>
        (datos[3]?).map fun tam => .ioFsTruncate nombre interfaz archivo tam
    else if stringEqualsIgnoreCase nombre "IO_FS_WRITE".toList ∨
        stringEqualsIgnoreCase nombre "IO_FS_READ".toList then
      (datos[1]?).bind fun interfaz => (datos[2]?).bind fun archivo =>
        (datos[3]?).bind fun direccion => (datos[4]?).bind fun tam =>
          (datos[5]?).map fun puntero => .ioFsWriteORead nombre interfaz archivo direccion tam puntero
    else if stringEqualsIgnoreCase nombre "EXIT".toList then some .exit
    else some .ninguna

/-- What an instruction reads: the registers, the TLB, and memoria's answers to `MARCO` and
`RESIZE`. -/
structure Contexto where
  registros : Registros
  tlb : List BaseTlb
  obtenerMarcoMemoria : ℤ → ℤ
  respuestaResize : Cadena → Cadena

/-- A packet to the kernel: the pid of the PCB, the reason, and what follows it. -/
structure Paquete where
  pid : ℕ
  motivo : Cadena
  lista : List Cadena
  deriving DecidableEq

variable (cpu : CpuConfiguracion) (tamPagina : ℕ) (pid : ℕ) (c : Contexto)

/-- No frame is found for the page of the address in a register. -/
def Contexto.denegado (registro : Cadena) : Bool :=
  marcoParaPagina cpu c.obtenerMarcoMemoria c.tlb pid
    (obtenerPagina tamPagina (obtenerValor c.registros registro)) == -1

/-- `obtener_direccion_fisica` on the address in a register: the physical address, the context with
the TLB after it, and the packet that `recibir_marco_memoria` sends if memoria has no frame. -/
def traducir (registro : Cadena) : Option (ℤ × Contexto × List Paquete) :=
  (obtenerDireccionFisica cpu tamPagina c.obtenerMarcoMemoria c.tlb
      (obtenerValor c.registros registro) pid).map fun (direccionFisica, tlb) =>
    (direccionFisica, { c with tlb := tlb },
      if c.denegado cpu tamPagina pid registro then [⟨pid, "DENIED_ACCESS".toList, []⟩] else [])

/-! ### Instructions -/

/-- `mov_in`: without an address the text is a literal, and freeing it does not come back. -/
def paquetesMovIn (registroDireccion : Cadena) : Option (List Paquete) :=
  (traducir cpu tamPagina pid c registroDireccion).bind fun (direccionFisica, _, paquetes) =>
    if direccionFisica ≠ -1 then some paquetes else none

/-- `mov_out`: without an address there is nothing to write. -/
def paquetesMovOut (registroDireccion : Cadena) : Option (List Paquete) :=
  (traducir cpu tamPagina pid c registroDireccion).map fun (_, _, paquetes) => paquetes

/-- `resize`. -/
def resize (nuevoTam : Cadena) : List Paquete :=
  if stringEqualsIgnoreCase (c.respuestaResize nuevoTam) "OUT_OF_MEMORY".toList then
    [⟨pid, "OUT_OF_MEMORY".toList, []⟩]
  else []

/-- `copy_string`: both addresses are translated, whatever becomes of the first. -/
def copyString : Option (List Paquete) :=
  (traducir cpu tamPagina pid c "SI".toList).bind fun (_, c, paquetesLeer) =>
    (traducir cpu tamPagina pid c "DI".toList).map fun (_, _, paquetesEscribir) =>
      paquetesLeer ++ paquetesEscribir

/-- `wait` and `signal`. -/
def waitOSignal (instruccion recurso : Cadena) : List Paquete := [⟨pid, instruccion, [recurso]⟩]

/-- `io_gen_sleep`. -/
def ioGenSleep (instruccion interfaz unidadesDeTrabajo : Cadena) : List Paquete :=
  [⟨pid, instruccion, [interfaz, unidadesDeTrabajo]⟩]

/-- `io_stdout_write_o_stdin_read`: the request is sent with the address `-1` too. -/
def ioStdoutWriteOStdinRead (instruccion interfaz registroDireccion registroTam : Cadena) :
    Option (List Paquete) :=
  (traducir cpu tamPagina pid c registroDireccion).map fun (direccionFisica, c, paquetes) =>
    paquetes ++ [⟨pid, instruccion,
      [interfaz, itoa direccionFisica, itoa (obtenerValor c.registros registroTam)]⟩]

/-- `io_fs_create_o_delete`. -/
def ioFsCreateODelete (instruccion interfaz nombreArchivo : Cadena) : List Paquete :=
  [⟨pid, instruccion, [interfaz, nombreArchivo]⟩]

/-- `io_fs_truncate`. -/
def ioFsTruncate (instruccion interfaz nombreArchivo registroTam : Cadena) : List Paquete :=
  [⟨pid, instruccion, [interfaz, nombreArchivo, itoa (obtenerValor c.registros registroTam)]⟩]

/-- `io_fs_write_o_read`: the request is sent with the address `-1` too. -/
def ioFsWriteORead (instruccion interfaz nombreArchivo registroDireccion registroTam
    registroPunteroArchivo : Cadena) : Option (List Paquete) :=
  (traducir cpu tamPagina pid c registroDireccion).map fun (direccionFisica, c, paquetes) =>
    paquetes ++ [⟨pid, instruccion,
      [interfaz, nombreArchivo, itoa direccionFisica, itoa (obtenerValor c.registros registroTam),
        itoa (obtenerValor c.registros registroPunteroArchivo)]⟩]

/-- `exit_prima`. -/
def exitPrima : List Paquete := [⟨pid, "EXIT".toList, []⟩]

/-- The function that `hacer_instruccion` calls. -/
def paquetesDe : Instruccion → Option (List Paquete)
  | .set _ _ => some []
  | .movIn _ registroDireccion => paquetesMovIn cpu tamPagina pid c registroDireccion
  | .movOut registroDireccion _ => paquetesMovOut cpu tamPagina pid c registroDireccion
  | .sum _ _ => some []
  | .sub _ _ => some []
  | .jnz _ _ => some []
  | .resize nuevoTam => some (resize pid c nuevoTam)
  | .copyString _ => copyString cpu tamPagina pid c
  | .waitOSignal nombre recurso => some (waitOSignal pid nombre recurso)
  | .ioGenSleep nombre interfaz unidades => some (ioGenSleep pid nombre interfaz unidades)
  | .ioStdoutWriteOStdinRead nombre interfaz direccion tam =>
    ioStdoutWriteOStdinRead cpu tamPagina pid c nombre interfaz direccion tam
  | .ioFsCreateODelete nombre interfaz archivo =>
    some (ioFsCreateODelete pid nombre interfaz archivo)
  | .ioFsTruncate nombre interfaz archivo tam =>
    some (ioFsTruncate pid c nombre interfaz archivo tam)
  | .ioFsWriteORead nombre interfaz archivo direccion tam puntero =>
    ioFsWriteORead cpu tamPagina pid c nombre interfaz archivo direccion tam puntero
  | .exit => some (exitPrima pid)
  | .ninguna => some []

/-- `hacer_instruccion`. -/
def hacerInstruccion (instruccion : Cadena) : Option (List Paquete) :=
  (decodificar instruccion).bind (paquetesDe cpu tamPagina pid c)

/-! ### Decoding -/

/-- The name that an instruction sends to the kernel. -/
def Instruccion.nombre? : Instruccion → Option Cadena
  | .waitOSignal nombre _ => some nombre
  | .ioGenSleep nombre _ _ => some nombre
  | .ioStdoutWriteOStdinRead nombre _ _ _ => some nombre
  | .ioFsCreateODelete nombre _ _ => some nombre
  | .ioFsTruncate nombre _ _ _ => some nombre
  | .ioFsWriteORead nombre _ _ _ _ _ => some nombre
  | _ => none

/-- It asks for something, or translates again, after it has translated an address. -/
def Instruccion.pideTrasTraducir : Instruccion → Bool
  | .copyString _ => true
  | .ioStdoutWriteOStdinRead _ _ _ _ => true
  | .ioFsWriteORead _ _ _ _ _ _ => true
  | _ => false

/-- The instruction is a RESIZE. -/
def Instruccion.esResize : Instruccion → Bool
  | .resize _ => true
  | _ => false

/-- The names of the instructions that ask for something after they have translated an address. -/
def nombresTrasTraducir : List Cadena :=
  ["COPY_STRING".toList, "IO_STDOUT_WRITE".toList, "IO_STDIN_READ".toList,
    "IO_FS_WRITE".toList, "IO_FS_READ".toList]

variable {instruccion nombre : Cadena}

/-- The first word, as the comparisons read it. -/
theorem headD_splitOn (h : (instruccion.splitOn ' ')[0]? = some nombre) :
    (instruccion.splitOn ' ').headD [] = nombre := by
  rw [List.headD_eq_head?_getD, List.head?_eq_getElem?, h]
  rfl

theorem decodificar_copyString (h : (instruccion.splitOn ' ')[0]? = some nombre)
    (hx : stringEqualsIgnoreCase nombre "COPY_STRING".toList = true) :
    decodificar instruccion = ((instruccion.splitOn ' ')[1]?).map fun tam => .copyString tam := by
  have hno : ∀ y, stringEqualsIgnoreCase "COPY_STRING".toList y = false →
      stringEqualsIgnoreCase nombre y = false := fun _ hy => not_stringEquals_of_equals hx hy
  unfold decodificar
  dsimp only
  rw [h, Option.bind_some, hno "SET".toList (by decide), hno "MOV_IN".toList (by decide),
    hno "MOV_OUT".toList (by decide), hno "SUM".toList (by decide), hno "SUB".toList (by decide),
    hno "JNZ".toList (by decide), hno "RESIZE".toList (by decide), hx]
  rfl

theorem decodificar_stdio (h : (instruccion.splitOn ' ')[0]? = some nombre)
    (hx : stringEqualsIgnoreCase nombre "IO_STDOUT_WRITE".toList = true ∨
      stringEqualsIgnoreCase nombre "IO_STDIN_READ".toList = true) :
    decodificar instruccion = ((instruccion.splitOn ' ')[1]?).bind fun interfaz =>
      ((instruccion.splitOn ' ')[2]?).bind fun direccion => ((instruccion.splitOn ' ')[3]?).map
        fun tam => .ioStdoutWriteOStdinRead nombre interfaz direccion tam := by
  have hno : ∀ y, stringEqualsIgnoreCase "IO_STDOUT_WRITE".toList y = false →
      stringEqualsIgnoreCase "IO_STDIN_READ".toList y = false →
      stringEqualsIgnoreCase nombre y = false := fun _ hy hy' => not_stringEquals_of_or hx hy hy'
  unfold decodificar
  dsimp only
  rw [h, Option.bind_some, hno "SET".toList (by decide) (by decide),
    hno "MOV_IN".toList (by decide) (by decide), hno "MOV_OUT".toList (by decide) (by decide),
    hno "SUM".toList (by decide) (by decide), hno "SUB".toList (by decide) (by decide),
    hno "JNZ".toList (by decide) (by decide), hno "RESIZE".toList (by decide) (by decide),
    hno "COPY_STRING".toList (by decide) (by decide), hno "WAIT".toList (by decide) (by decide),
    hno "SIGNAL".toList (by decide) (by decide),
    hno "IO_GEN_SLEEP".toList (by decide) (by decide)]
  simp only [Bool.false_eq_true, or_self, if_false]
  rw [if_pos hx]

theorem decodificar_fs (h : (instruccion.splitOn ' ')[0]? = some nombre)
    (hx : stringEqualsIgnoreCase nombre "IO_FS_WRITE".toList = true ∨
      stringEqualsIgnoreCase nombre "IO_FS_READ".toList = true) :
    decodificar instruccion = ((instruccion.splitOn ' ')[1]?).bind fun interfaz =>
      ((instruccion.splitOn ' ')[2]?).bind fun archivo => ((instruccion.splitOn ' ')[3]?).bind
        fun direccion => ((instruccion.splitOn ' ')[4]?).bind fun tam =>
          ((instruccion.splitOn ' ')[5]?).map fun puntero =>
            .ioFsWriteORead nombre interfaz archivo direccion tam puntero := by
  have hno : ∀ y, stringEqualsIgnoreCase "IO_FS_WRITE".toList y = false →
      stringEqualsIgnoreCase "IO_FS_READ".toList y = false →
      stringEqualsIgnoreCase nombre y = false := fun _ hy hy' => not_stringEquals_of_or hx hy hy'
  unfold decodificar
  dsimp only
  rw [h, Option.bind_some, hno "SET".toList (by decide) (by decide),
    hno "MOV_IN".toList (by decide) (by decide), hno "MOV_OUT".toList (by decide) (by decide),
    hno "SUM".toList (by decide) (by decide), hno "SUB".toList (by decide) (by decide),
    hno "JNZ".toList (by decide) (by decide), hno "RESIZE".toList (by decide) (by decide),
    hno "COPY_STRING".toList (by decide) (by decide), hno "WAIT".toList (by decide) (by decide),
    hno "SIGNAL".toList (by decide) (by decide),
    hno "IO_GEN_SLEEP".toList (by decide) (by decide),
    hno "IO_STDOUT_WRITE".toList (by decide) (by decide),
    hno "IO_STDIN_READ".toList (by decide) (by decide),
    hno "IO_FS_CREATE".toList (by decide) (by decide),
    hno "IO_FS_DELETE".toList (by decide) (by decide),
    hno "IO_FS_TRUNCATE".toList (by decide) (by decide)]
  simp only [Bool.false_eq_true, or_self, if_false]
  rw [if_pos hx]

/-- What is decoded takes its name from the line, and asks for something after a translation under
one of those names only. -/
theorem decodificar_eq_some {i : Instruccion} (h : (instruccion.splitOn ' ')[0]? = some nombre)
    (hi : decodificar instruccion = some i) :
    (∀ n ∈ i.nombre?, stringEqualsIgnoreCase n "QUANTUM".toList = false) ∧
      (i.pideTrasTraducir = true →
        ∃ x ∈ nombresTrasTraducir, stringEqualsIgnoreCase nombre x = true) := by
  -- a name that is compared with an instruction's is not `QUANTUM`
  have hquantum : ∀ x y, stringEqualsIgnoreCase nombre x = true ∨
      stringEqualsIgnoreCase nombre y = true →
      stringEqualsIgnoreCase x "QUANTUM".toList = false →
      stringEqualsIgnoreCase y "QUANTUM".toList = false →
      ∀ n ∈ some nombre, stringEqualsIgnoreCase n "QUANTUM".toList = false := by
    rintro x y hxy hx hy n ⟨⟩
    exact not_stringEquals_of_or hxy hx hy
  have hnada : ∀ n ∈ (none : Option Cadena),
      stringEqualsIgnoreCase n "QUANTUM".toList = false := fun _ hn => by cases hn
  unfold decodificar at hi
  dsimp only at hi
  rw [h, Option.bind_some] at hi
  rcases ite_eq_iff.1 hi with ⟨-, hi⟩ | ⟨-, hi⟩
  · obtain ⟨_, -, hi⟩ := Option.bind_eq_some_iff.1 hi
    obtain ⟨_, -, rfl⟩ := Option.map_eq_some_iff.1 hi
    exact ⟨hnada, fun h => by cases h⟩
  rcases ite_eq_iff.1 hi with ⟨-, hi⟩ | ⟨-, hi⟩
  · obtain ⟨_, -, hi⟩ := Option.bind_eq_some_iff.1 hi
    obtain ⟨_, -, rfl⟩ := Option.map_eq_some_iff.1 hi
    exact ⟨hnada, fun h => by cases h⟩
  rcases ite_eq_iff.1 hi with ⟨-, hi⟩ | ⟨-, hi⟩
  · obtain ⟨_, -, hi⟩ := Option.bind_eq_some_iff.1 hi
    obtain ⟨_, -, rfl⟩ := Option.map_eq_some_iff.1 hi
    exact ⟨hnada, fun h => by cases h⟩
  rcases ite_eq_iff.1 hi with ⟨-, hi⟩ | ⟨-, hi⟩
  · obtain ⟨_, -, hi⟩ := Option.bind_eq_some_iff.1 hi
    obtain ⟨_, -, rfl⟩ := Option.map_eq_some_iff.1 hi
    exact ⟨hnada, fun h => by cases h⟩
  rcases ite_eq_iff.1 hi with ⟨-, hi⟩ | ⟨-, hi⟩
  · obtain ⟨_, -, hi⟩ := Option.bind_eq_some_iff.1 hi
    obtain ⟨_, -, rfl⟩ := Option.map_eq_some_iff.1 hi
    exact ⟨hnada, fun h => by cases h⟩
  rcases ite_eq_iff.1 hi with ⟨-, hi⟩ | ⟨-, hi⟩
  · obtain ⟨_, -, hi⟩ := Option.bind_eq_some_iff.1 hi
    obtain ⟨_, -, rfl⟩ := Option.map_eq_some_iff.1 hi
    exact ⟨hnada, fun h => by cases h⟩
  rcases ite_eq_iff.1 hi with ⟨-, hi⟩ | ⟨-, hi⟩
  · obtain ⟨_, -, rfl⟩ := Option.map_eq_some_iff.1 hi
    exact ⟨hnada, fun h => by cases h⟩
  rcases ite_eq_iff.1 hi with ⟨hx, hi⟩ | ⟨-, hi⟩
  · obtain ⟨_, -, rfl⟩ := Option.map_eq_some_iff.1 hi
    exact ⟨hnada, fun _ => ⟨_, by simp [nombresTrasTraducir], hx⟩⟩
  rcases ite_eq_iff.1 hi with ⟨hx, hi⟩ | ⟨-, hi⟩
  · obtain ⟨_, -, rfl⟩ := Option.map_eq_some_iff.1 hi
    exact ⟨hquantum _ _ hx (by decide) (by decide), fun h => by cases h⟩
  rcases ite_eq_iff.1 hi with ⟨hx, hi⟩ | ⟨-, hi⟩
  · obtain ⟨_, -, hi⟩ := Option.bind_eq_some_iff.1 hi
    obtain ⟨_, -, rfl⟩ := Option.map_eq_some_iff.1 hi
    exact ⟨hquantum _ "IO_GEN_SLEEP".toList (Or.inl hx) (by decide) (by decide), fun h => by cases h⟩
  rcases ite_eq_iff.1 hi with ⟨hx, hi⟩ | ⟨-, hi⟩
  · obtain ⟨_, -, hi⟩ := Option.bind_eq_some_iff.1 hi
    obtain ⟨_, -, hi⟩ := Option.bind_eq_some_iff.1 hi
    obtain ⟨_, -, rfl⟩ := Option.map_eq_some_iff.1 hi
    refine ⟨hquantum _ _ hx (by decide) (by decide), fun _ => ?_⟩
    rcases hx with hx | hx
    · exact ⟨_, by simp [nombresTrasTraducir], hx⟩
    · exact ⟨_, by simp [nombresTrasTraducir], hx⟩
  rcases ite_eq_iff.1 hi with ⟨hx, hi⟩ | ⟨-, hi⟩
  · obtain ⟨_, -, hi⟩ := Option.bind_eq_some_iff.1 hi
    obtain ⟨_, -, rfl⟩ := Option.map_eq_some_iff.1 hi
    exact ⟨hquantum _ _ hx (by decide) (by decide), fun h => by cases h⟩
  rcases ite_eq_iff.1 hi with ⟨hx, hi⟩ | ⟨-, hi⟩
  · obtain ⟨_, -, hi⟩ := Option.bind_eq_some_iff.1 hi
    obtain ⟨_, -, hi⟩ := Option.bind_eq_some_iff.1 hi
    obtain ⟨_, -, rfl⟩ := Option.map_eq_some_iff.1 hi
    exact ⟨hquantum _ "IO_FS_TRUNCATE".toList (Or.inl hx) (by decide) (by decide), fun h => by cases h⟩
  rcases ite_eq_iff.1 hi with ⟨hx, hi⟩ | ⟨-, hi⟩
  · obtain ⟨_, -, hi⟩ := Option.bind_eq_some_iff.1 hi
    obtain ⟨_, -, hi⟩ := Option.bind_eq_some_iff.1 hi
    obtain ⟨_, -, hi⟩ := Option.bind_eq_some_iff.1 hi
    obtain ⟨_, -, hi⟩ := Option.bind_eq_some_iff.1 hi
    obtain ⟨_, -, rfl⟩ := Option.map_eq_some_iff.1 hi
    refine ⟨hquantum _ _ hx (by decide) (by decide), fun _ => ?_⟩
    rcases hx with hx | hx
    · exact ⟨_, by simp [nombresTrasTraducir], hx⟩
    · exact ⟨_, by simp [nombresTrasTraducir], hx⟩
  rcases ite_eq_iff.1 hi with ⟨-, hi⟩ | ⟨-, hi⟩
  · cases hi
    exact ⟨hnada, fun h => by cases h⟩
  · cases hi
    exact ⟨hnada, fun h => by cases h⟩

/-- Under another name nothing is asked for after a translation. -/
theorem decodificar_otro {i : Instruccion} (h : (instruccion.splitOn ' ')[0]? = some nombre)
    (hotro : ∀ x ∈ nombresTrasTraducir, stringEqualsIgnoreCase nombre x = false)
    (hi : decodificar instruccion = some i) : i.pideTrasTraducir = false := by
  rw [← Bool.not_eq_true]
  intro hpide
  obtain ⟨x, hx, hnombre⟩ := (decodificar_eq_some h hi).2 hpide
  rw [hotro x hx] at hnombre
  cases hnombre

/-- The names that come with a translation: one of them is the line's, or none is. -/
theorem nombresTrasTraducir_cases (nombre : Cadena) :
    stringEqualsIgnoreCase nombre "COPY_STRING".toList = true ∨
      (stringEqualsIgnoreCase nombre "IO_STDOUT_WRITE".toList = true ∨
        stringEqualsIgnoreCase nombre "IO_STDIN_READ".toList = true) ∨
      (stringEqualsIgnoreCase nombre "IO_FS_WRITE".toList = true ∨
        stringEqualsIgnoreCase nombre "IO_FS_READ".toList = true) ∨
      ∀ x ∈ nombresTrasTraducir, stringEqualsIgnoreCase nombre x = false := by
  by_cases hpide : ∃ x ∈ nombresTrasTraducir, stringEqualsIgnoreCase nombre x = true
  · obtain ⟨x, hx, hnombre⟩ := hpide
    simp only [nombresTrasTraducir, List.mem_cons, List.not_mem_nil, or_false] at hx
    rcases hx with rfl | rfl | rfl | rfl | rfl
    · exact Or.inl hnombre
    · exact Or.inr (Or.inl (Or.inl hnombre))
    · exact Or.inr (Or.inl (Or.inr hnombre))
    · exact Or.inr (Or.inr (Or.inl (Or.inl hnombre)))
    · exact Or.inr (Or.inr (Or.inl (Or.inr hnombre)))
  · refine Or.inr (Or.inr (Or.inr fun x hx => ?_))
    rw [← Bool.not_eq_true]
    exact fun hnombre => hpide ⟨x, hx, hnombre⟩

/-! ### How many packets -/

/-- A register by its position in the instruction holds an address without a frame. -/
def Contexto.denegadoEn (datos : List Cadena) (i : ℕ) : Bool :=
  (datos[i]?).any (c.denegado cpu tamPagina pid)

/-- The instruction goes on with a request of its own, or a second translation, although an address
has no frame. -/
def pideTrasDenegado (instruccion : Cadena) : Bool :=
  let datos := instruccion.splitOn ' '
  let nombre := datos.headD []
  if stringEqualsIgnoreCase nombre "COPY_STRING".toList then
    c.denegado cpu tamPagina pid "SI".toList && c.denegado cpu tamPagina pid "DI".toList
  else if stringEqualsIgnoreCase nombre "IO_STDOUT_WRITE".toList ∨
      stringEqualsIgnoreCase nombre "IO_STDIN_READ".toList then
    c.denegadoEn cpu tamPagina pid datos 2
  else if stringEqualsIgnoreCase nombre "IO_FS_WRITE".toList ∨
      stringEqualsIgnoreCase nombre "IO_FS_READ".toList then
    c.denegadoEn cpu tamPagina pid datos 3
  else false

variable {cpu} {tamPagina} {pid} {c}

/-- The packets are of the process, and none says that its quantum ended. -/
def Propios (pid : ℕ) (paquetes : List Paquete) : Prop :=
  ∀ q ∈ paquetes, q.pid = pid ∧ stringEqualsIgnoreCase q.motivo "QUANTUM".toList = false

theorem Propios.nil (pid : ℕ) : Propios pid [] := by simp [Propios]

theorem Propios.singleton {motivo : Cadena}
    (h : stringEqualsIgnoreCase motivo "QUANTUM".toList = false) (lista : List Cadena) :
    Propios pid [⟨pid, motivo, lista⟩] := by
  intro q hq
  rw [List.mem_singleton.1 hq]
  exact ⟨rfl, h⟩

theorem Propios.append {ps qs : List Paquete} (hp : Propios pid ps) (hq : Propios pid qs) :
    Propios pid (ps ++ qs) := by
  intro q h
  rcases List.mem_append.1 h with h | h
  · exact hp q h
  · exact hq q h

/-- A translation sends a packet when it is denied, and then leaves the TLB alone. -/
theorem traducir_eq_some {registro : Cadena} {direccion : ℤ} {c' : Contexto} {ps : List Paquete}
    (h : traducir cpu tamPagina pid c registro = some (direccion, c', ps)) :
    Propios pid ps ∧ ps.length = (c.denegado cpu tamPagina pid registro).toNat ∧
      (c.denegado cpu tamPagina pid registro = true → c' = c) := by
  obtain ⟨⟨d, tlb⟩, hd, heq⟩ := Option.map_eq_some_iff.1 h
  cases hden : c.denegado cpu tamPagina pid registro with
  | false =>
    simp only [hden] at heq
    cases heq
    exact ⟨Propios.nil pid, rfl, fun h => by cases h⟩
  | true =>
    simp only [hden] at heq
    cases heq
    refine ⟨Propios.singleton (by decide) [], rfl, fun _ => ?_⟩
    have hmarco : marcoParaPagina cpu c.obtenerMarcoMemoria c.tlb pid
        (obtenerPagina tamPagina (obtenerValor c.registros registro)) = -1 := by
      simpa [Contexto.denegado] using hden
    unfold obtenerDireccionFisica at hd
    dsimp only at hd
    rw [hmarco, if_neg (by simp)] at hd
    cases hd
    rfl

/-- An instruction of another name has no address to translate before its request. -/
theorem pideTrasDenegado_eq_false {instruccion nombre : Cadena}
    (hnombre : (instruccion.splitOn ' ').headD [] = nombre)
    (hotro : ∀ x ∈ nombresTrasTraducir, stringEqualsIgnoreCase nombre x = false) :
    pideTrasDenegado cpu tamPagina pid c instruccion = false := by
  unfold pideTrasDenegado
  dsimp only
  rw [hnombre, if_neg, if_neg, if_neg]
  · rw [hotro _ (by simp [nombresTrasTraducir]), hotro _ (by simp [nombresTrasTraducir])]
    simp
  · rw [hotro _ (by simp [nombresTrasTraducir]), hotro _ (by simp [nombresTrasTraducir])]
    simp
  · rw [hotro _ (by simp [nombresTrasTraducir])]
    simp

theorem pideTrasDenegado_copyString {instruccion nombre : Cadena}
    (hnombre : (instruccion.splitOn ' ').headD [] = nombre)
    (hx : stringEqualsIgnoreCase nombre "COPY_STRING".toList = true) :
    pideTrasDenegado cpu tamPagina pid c instruccion =
      (c.denegado cpu tamPagina pid "SI".toList && c.denegado cpu tamPagina pid "DI".toList) := by
  unfold pideTrasDenegado
  dsimp only
  rw [hnombre, if_pos hx]

theorem pideTrasDenegado_stdio {instruccion nombre : Cadena}
    (hnombre : (instruccion.splitOn ' ').headD [] = nombre)
    (hx : stringEqualsIgnoreCase nombre "IO_STDOUT_WRITE".toList = true ∨
      stringEqualsIgnoreCase nombre "IO_STDIN_READ".toList = true) :
    pideTrasDenegado cpu tamPagina pid c instruccion =
      c.denegadoEn cpu tamPagina pid (instruccion.splitOn ' ') 2 := by
  have hcopy : stringEqualsIgnoreCase nombre "COPY_STRING".toList = false :=
    not_stringEquals_of_or hx (by decide) (by decide)
  unfold pideTrasDenegado
  dsimp only
  rw [hnombre, hcopy, if_neg Bool.false_ne_true, if_pos hx]

theorem pideTrasDenegado_fs {instruccion nombre : Cadena}
    (hnombre : (instruccion.splitOn ' ').headD [] = nombre)
    (hx : stringEqualsIgnoreCase nombre "IO_FS_WRITE".toList = true ∨
      stringEqualsIgnoreCase nombre "IO_FS_READ".toList = true) :
    pideTrasDenegado cpu tamPagina pid c instruccion =
      c.denegadoEn cpu tamPagina pid (instruccion.splitOn ' ') 3 := by
  have hcopy : stringEqualsIgnoreCase nombre "COPY_STRING".toList = false :=
    not_stringEquals_of_or hx (by decide) (by decide)
  have hwrite : stringEqualsIgnoreCase nombre "IO_STDOUT_WRITE".toList = false :=
    not_stringEquals_of_or hx (by decide) (by decide)
  have hread : stringEqualsIgnoreCase nombre "IO_STDIN_READ".toList = false :=
    not_stringEquals_of_or hx (by decide) (by decide)
  unfold pideTrasDenegado
  dsimp only
  rw [hnombre, hcopy, if_neg Bool.false_ne_true, hwrite, hread, if_neg (by simp), if_pos hx]

/-- The packets of `copy_string`: one for each address without a frame. -/
theorem copyString_paquetes {ps : List Paquete} (h : copyString cpu tamPagina pid c = some ps) :
    Propios pid ps ∧ (1 < ps.length ↔ (c.denegado cpu tamPagina pid "SI".toList &&
      c.denegado cpu tamPagina pid "DI".toList) = true) := by
  obtain ⟨⟨_, c', leer⟩, hleer, h⟩ := Option.bind_eq_some_iff.1 h
  obtain ⟨⟨_, c'', escribir⟩, hescribir, rfl⟩ := Option.map_eq_some_iff.1 h
  obtain ⟨hpropios, hlen, hmismo⟩ := traducir_eq_some hleer
  obtain ⟨hpropios', hlen', -⟩ := traducir_eq_some hescribir
  refine ⟨hpropios.append hpropios', ?_⟩
  rw [List.length_append, hlen, hlen']
  cases hsi : c.denegado cpu tamPagina pid "SI".toList with
  | false =>
    have hle := Bool.toNat_le (c'.denegado cpu tamPagina pid "DI".toList)
    simp only [Bool.toNat_false, Bool.false_and, Bool.false_eq_true, iff_false]
    omega
  | true =>
    rw [hmismo hsi]
    cases c.denegado cpu tamPagina pid "DI".toList <;> simp

/-- The packets of a request that follows a translation. -/
theorem traducir_append_paquetes {registro motivo : Cadena} (f : ℤ → Contexto → List Cadena)
    {ps : List Paquete} (hmotivo : stringEqualsIgnoreCase motivo "QUANTUM".toList = false)
    (h : ((traducir cpu tamPagina pid c registro).map fun (d, c, paquetes) =>
      paquetes ++ [⟨pid, motivo, f d c⟩]) = some ps) :
    Propios pid ps ∧ (1 < ps.length ↔ c.denegado cpu tamPagina pid registro = true) := by
  obtain ⟨⟨d, c', paquetes⟩, ht, rfl⟩ := Option.map_eq_some_iff.1 h
  obtain ⟨hpropios, hlen, -⟩ := traducir_eq_some ht
  refine ⟨hpropios.append (Propios.singleton hmotivo _), ?_⟩
  rw [List.length_append, hlen, List.length_singleton]
  cases c.denegado cpu tamPagina pid registro <;> simp

/-- `mov_in` and `mov_out` send nothing but the denial. -/
theorem paquetesMovIn_propios {registro : Cadena} {ps : List Paquete}
    (h : paquetesMovIn cpu tamPagina pid c registro = some ps) : Propios pid ps ∧ ps.length ≤ 1 := by
  obtain ⟨⟨_, _, _⟩, ht, h⟩ := Option.bind_eq_some_iff.1 h
  obtain ⟨hpropios, hlen, -⟩ := traducir_eq_some ht
  obtain ⟨-, h⟩ := Option.ite_none_right_eq_some.1 h
  cases h
  exact ⟨hpropios, hlen ▸ Bool.toNat_le _⟩

theorem paquetesMovOut_propios {registro : Cadena} {ps : List Paquete}
    (h : paquetesMovOut cpu tamPagina pid c registro = some ps) : Propios pid ps ∧ ps.length ≤ 1 := by
  obtain ⟨⟨_, _, _⟩, ht, rfl⟩ := Option.map_eq_some_iff.1 h
  obtain ⟨hpropios, hlen, -⟩ := traducir_eq_some ht
  exact ⟨hpropios, hlen ▸ Bool.toNat_le _⟩

theorem resize_paquetes (pid : ℕ) (c : Contexto) (nuevoTam : Cadena) :
    Propios pid (resize pid c nuevoTam) ∧ (resize pid c nuevoTam).length ≤ 1 := by
  unfold resize
  split
  · exact ⟨Propios.singleton (by decide) [], by simp⟩
  · exact ⟨Propios.nil pid, by simp⟩

/-- An instruction without an address before its request sends one packet at most. -/
theorem paquetesDe_simple {i : Instruccion} {ps : List Paquete}
    (hsimple : i.pideTrasTraducir = false)
    (hnombre : ∀ n ∈ i.nombre?, stringEqualsIgnoreCase n "QUANTUM".toList = false)
    (h : paquetesDe cpu tamPagina pid c i = some ps) : Propios pid ps ∧ ps.length ≤ 1 := by
  cases i with
  | movIn => exact paquetesMovIn_propios h
  | movOut => exact paquetesMovOut_propios h
  | resize nuevoTam =>
    cases h
    exact resize_paquetes pid c nuevoTam
  | copyString => cases hsimple
  | ioStdoutWriteOStdinRead => cases hsimple
  | ioFsWriteORead => cases hsimple
  | exit =>
    cases h
    exact ⟨Propios.singleton (by decide) [], le_rfl⟩
  | waitOSignal nombre | ioGenSleep nombre | ioFsCreateODelete nombre | ioFsTruncate nombre =>
    cases h
    exact ⟨Propios.singleton (hnombre nombre rfl) _, le_rfl⟩
  | set | sum | sub | jnz | ninguna =>
    cases h
    exact ⟨Propios.nil pid, Nat.zero_le _⟩

/-- **The packets of an instruction** are its process's own, none of them says that the quantum
ended, and there are several only if it asks for something after a denied access. -/
theorem hacerInstruccion_paquetes {instruccion : Cadena} {ps : List Paquete}
    (h : hacerInstruccion cpu tamPagina pid c instruccion = some ps) :
    Propios pid ps ∧
      (1 < ps.length ↔ pideTrasDenegado cpu tamPagina pid c instruccion = true) := by
  obtain ⟨i, hi, h⟩ := Option.bind_eq_some_iff.1 h
  obtain ⟨nombre, hnombre, -⟩ := Option.bind_eq_some_iff.1 hi
  have hhead := headD_splitOn hnombre
  have hdatos : ∀ {j : ℕ} {d : Cadena}, (instruccion.splitOn ' ')[j]? = some d →
      c.denegadoEn cpu tamPagina pid (instruccion.splitOn ' ') j =
        c.denegado cpu tamPagina pid d := by
    intro j d hd
    rw [Contexto.denegadoEn, hd]
    rfl
  rcases nombresTrasTraducir_cases nombre with hx | hx | hx | hotro
  · -- `COPY_STRING`
    rw [decodificar_copyString hnombre hx] at hi
    obtain ⟨_, -, rfl⟩ := Option.map_eq_some_iff.1 hi
    rw [pideTrasDenegado_copyString hhead hx]
    exact copyString_paquetes h
  · -- `IO_STDOUT_WRITE` and `IO_STDIN_READ`
    rw [decodificar_stdio hnombre hx] at hi
    obtain ⟨interfaz, -, hi⟩ := Option.bind_eq_some_iff.1 hi
    obtain ⟨direccion, hdir, hi⟩ := Option.bind_eq_some_iff.1 hi
    obtain ⟨tam, -, rfl⟩ := Option.map_eq_some_iff.1 hi
    rw [pideTrasDenegado_stdio hhead hx, hdatos hdir]
    exact traducir_append_paquetes
      (fun d c => [interfaz, itoa d, itoa (obtenerValor c.registros tam)])
      (not_stringEquals_of_or hx (by decide) (by decide)) h
  · -- `IO_FS_WRITE` and `IO_FS_READ`
    rw [decodificar_fs hnombre hx] at hi
    obtain ⟨interfaz, -, hi⟩ := Option.bind_eq_some_iff.1 hi
    obtain ⟨archivo, -, hi⟩ := Option.bind_eq_some_iff.1 hi
    obtain ⟨direccion, hdir, hi⟩ := Option.bind_eq_some_iff.1 hi
    obtain ⟨tam, -, hi⟩ := Option.bind_eq_some_iff.1 hi
    obtain ⟨puntero, -, rfl⟩ := Option.map_eq_some_iff.1 hi
    rw [pideTrasDenegado_fs hhead hx, hdatos hdir]
    exact traducir_append_paquetes
      (fun d c => [interfaz, archivo, itoa d, itoa (obtenerValor c.registros tam),
        itoa (obtenerValor c.registros puntero)])
      (not_stringEquals_of_or hx (by decide) (by decide)) h
  · -- another name
    obtain ⟨hpropios, hlen⟩ := paquetesDe_simple (decodificar_otro hnombre hotro hi)
      (decodificar_eq_some hnombre hi).1 h
    refine ⟨hpropios, ?_⟩
    rw [pideTrasDenegado_eq_false hhead hotro]
    simp only [Bool.false_eq_true, iff_false]
    omega

end SimuladorSO.Cpu
