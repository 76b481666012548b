import SimuladorSO.Cpu.Instrucciones
import SimuladorSO.DialFS.Pedidos
import SimuladorSO.Kernel.Interfaces
import SimuladorSO.Utils.Contexto

/-!
# The operands of an I/O instruction, from the CPU to the interface

An I/O instruction goes through three programs.  The CPU evaluates its operands and sends them
after the PCB, the reason and the name of the interface; the kernel takes the PCB and the reason out
of the packet, and sends the operands to the interface after the pid and the instruction; the
interface calls one of its `io_*` functions.

* `InstruccionIo`: the eight instructions as they stand in a program, and `InstruccionIo.evaluar`
  what the CPU makes of their operands;
* `enviarPedidoCpu`, `recibirPedidoKernel`, `enviarAInterfaz`, `recibirDelKernel`: the two packets
  on the wire;
* `llamadaDe`: the call that the interface makes;
* `pedido_llega`: it is the call with the operands that the CPU evaluated.
-/

namespace SimuladorSO.Sistema

open CInt Commons Utils LittleEndian Readers
open DialFS (Pedido)

/-! ### Texts on the wire -/

/-- The characters of a C string are bytes, and none is the terminator. -/
def EsTexto (s : Cadena) : Prop := ∀ ch ∈ s, 0 < ch.toNat ∧ ch.toNat < 256

instance (s : Cadena) : Decidable (EsTexto s) :=
  List.decidableBAll (fun ch : Char => 0 < ch.toNat ∧ ch.toNat < 256) s

/-- A text as it is put in a packet, with its terminator. -/
def enMemoria (s : Cadena) : List UInt8 := aBytes s ++ [0]

/-- The texts in the values of a packet. -/
def leerTextos (valores : List (List UInt8)) : Option (List Cadena) :=
  valores.mapM fun valor => (leerTexto valor).map fun t => texto t.bytes

theorem EsTexto.sinNulos {s : Cadena} (h : EsTexto s) : 0 ∉ aBytes s := by
  intro h0
  obtain ⟨ch, hch, hcero⟩ := List.mem_map.1 h0
  obtain ⟨hpos, hlt⟩ := h ch hch
  have hnat := congrArg UInt8.toNat hcero
  rw [UInt8.toNat_ofNat', Nat.mod_eq_of_lt hlt] at hnat
  exact hpos.ne' hnat

theorem leerTexto_enMemoria_texto {s : Cadena} (h : EsTexto s) :
    ((leerTexto (enMemoria s)).map fun t => texto t.bytes) = some s := by
  have hleer : leerTexto (enMemoria s) = some ⟨aBytes s, h.sinNulos⟩ :=
    leerTexto_enMemoria ⟨aBytes s, h.sinNulos⟩
  rw [hleer, Option.map_some, texto_aBytes fun ch hch => (h ch hch).2]

/-- Texts that are put in a packet are read from it. -/
theorem leerTextos_enMemoria {l : List Cadena} (h : ∀ s ∈ l, EsTexto s) :
    leerTextos (l.map enMemoria) = some l := by
  induction l with
  | nil => rfl
  | cons s l ih =>
    have hresto := ih fun t ht => h t (List.mem_cons_of_mem s ht)
    unfold leerTextos at hresto ⊢
    rw [List.map_cons, List.mapM_cons, leerTexto_enMemoria_texto (h s List.mem_cons_self), hresto]
    rfl

theorem esTexto_itoa (n : ℤ) : EsTexto (itoa n) := fun _ hch => toNat_of_mem_itoa hch

/-! ### The instructions -/

/-- A word of an instruction: it is not empty, and has no spaces. -/
structure Palabra where
  cadena : Cadena
  esTexto : EsTexto cadena
  noVacia : cadena ≠ []
  sinEspacios : ' ' ∉ cadena

/-- An I/O instruction, with the words that follow the name of the interface. -/
inductive InstruccionIo
  | genSleep (unidadesDeTrabajo : Palabra)
  | stdinRead (registroDireccion registroTam : Palabra)
  | stdoutWrite (registroDireccion registroTam : Palabra)
  | fsCreate (nombreArchivo : Palabra)
  | fsDelete (nombreArchivo : Palabra)
  | fsTruncate (nombreArchivo registroTam : Palabra)
  | fsWrite (nombreArchivo registroDireccion registroTam registroPunteroArchivo : Palabra)
  | fsRead (nombreArchivo registroDireccion registroTam registroPunteroArchivo : Palabra)

/-- The name of the instruction. -/
def InstruccionIo.nombre : InstruccionIo → Cadena
  | .genSleep _ => "IO_GEN_SLEEP".toList
  | .stdinRead _ _ => "IO_STDIN_READ".toList
  | .stdoutWrite _ _ => "IO_STDOUT_WRITE".toList
  | .fsCreate _ => "IO_FS_CREATE".toList
  | .fsDelete _ => "IO_FS_DELETE".toList
  | .fsTruncate _ _ => "IO_FS_TRUNCATE".toList
  | .fsWrite _ _ _ _ => "IO_FS_WRITE".toList
  | .fsRead _ _ _ _ => "IO_FS_READ".toList

/-- The words after the name of the interface. -/
def InstruccionIo.palabras : InstruccionIo → List Palabra
  | .genSleep unidades => [unidades]
  | .stdinRead direccion tam => [direccion, tam]
  | .stdoutWrite direccion tam => [direccion, tam]
  | .fsCreate archivo => [archivo]
  | .fsDelete archivo => [archivo]
  | .fsTruncate archivo tam => [archivo, tam]
  | .fsWrite archivo direccion tam puntero => [archivo, direccion, tam, puntero]
  | .fsRead archivo direccion tam puntero => [archivo, direccion, tam, puntero]

/-- The instruction as it stands in the program. -/
def InstruccionIo.linea (i : InstruccionIo) (interfaz : Palabra) : Cadena :=
  [' '].intercalate (i.nombre :: interfaz.cadena :: i.palabras.map Palabra.cadena)

section
variable (cpu : Cpu.CpuConfiguracion) (tamPagina : ℕ) (pid : ℕ) (c : Cpu.Contexto)

/-- The physical address of the address in a register. -/
def direccionFisica (registro : Palabra) : Option ℤ :=
  (Cpu.obtenerDireccionFisica cpu tamPagina c.obtenerMarcoMemoria c.tlb
    (Cpu.obtenerValor c.registros registro.cadena) pid).map Prod.fst

/-- The operands of the instruction, evaluated: an address is translated, a register has a value,
and a number is read from its text. -/
def InstruccionIo.evaluar : InstruccionIo → Option Pedido
  | .genSleep unidades => some (.genSleep (atoi unidades.cadena))
  | .stdinRead direccion tam =>
    (direccionFisica cpu tamPagina pid c direccion).map fun direccionFisica =>
      .stdinRead direccionFisica (Cpu.obtenerValor c.registros tam.cadena)
  | .stdoutWrite direccion tam =>
    (direccionFisica cpu tamPagina pid c direccion).map fun direccionFisica =>
      .stdoutWrite direccionFisica (Cpu.obtenerValor c.registros tam.cadena)
  | .fsCreate archivo => some (.fsCreate archivo.cadena)
  | .fsDelete archivo => some (.fsDelete archivo.cadena)
  | .fsTruncate archivo tam =>
    some (.fsTruncate archivo.cadena (Cpu.obtenerValor c.registros tam.cadena))
  | .fsWrite archivo direccion tam puntero =>
    (direccionFisica cpu tamPagina pid c direccion).map fun direccionFisica =>
      .fsWrite archivo.cadena direccionFisica (Cpu.obtenerValor c.registros tam.cadena)
        (Cpu.obtenerValor c.registros puntero.cadena)
  | .fsRead archivo direccion tam puntero =>
    (direccionFisica cpu tamPagina pid c direccion).map fun direccionFisica =>
      .fsRead archivo.cadena direccionFisica (Cpu.obtenerValor c.registros tam.cadena)
        (Cpu.obtenerValor c.registros puntero.cadena)

end

/-! ### The interface -/

/-- The call that `recibir_info_kernel` makes: the pid of the packet, and the `io_*` function with
its operands, if the instruction is known. -/
def llamadaDe (lista : List Cadena) : Option (Cadena × Option Pedido) := do
  let pid ← lista[0]?
  let instruccion ← lista[1]?
  if stringEqualsIgnoreCase instruccion "IO_GEN_SLEEP".toList then do
    let unidades ← lista[2]?
    some (pid, some (.genSleep (atoi unidades)))
  else if stringEqualsIgnoreCase instruccion "IO_STDIN_READ".toList then do
    let direccion ← lista[2]?
    let tamanio ← lista[3]?
    some (pid, some (.stdinRead (atoi direccion) (atoi tamanio)))
  else if stringEqualsIgnoreCase instruccion "IO_STDOUT_WRITE".toList then do
    let direccion ← lista[2]?
    let tamanio ← lista[3]?
    some (pid, some (.stdoutWrite (atoi direccion) (atoi tamanio)))
  else if stringEqualsIgnoreCase instruccion "IO_FS_CREATE".toList then do
    let nombre ← lista[2]?
    some (pid, some (.fsCreate nombre))
  else if stringEqualsIgnoreCase instruccion "IO_FS_DELETE".toList then do
    let nombre ← lista[2]?
    some (pid, some (.fsDelete nombre))
  else if stringEqualsIgnoreCase instruccion "IO_FS_TRUNCATE".toList then do
    let nombre ← lista[2]?
    let tamanio ← lista[3]?
    some (pid, some (.fsTruncate nombre (atoi tamanio)))
  else if stringEqualsIgnoreCase instruccion "IO_FS_WRITE".toList then do
    let nombre ← lista[2]?
    let direccion ← lista[3]?
    let tamanio ← lista[4]?
    let puntero ← lista[5]?
    some (pid, some (.fsWrite nombre (atoi direccion) (atoi tamanio) (atoi puntero)))
  else if stringEqualsIgnoreCase instruccion "IO_FS_READ".toList then do
    let nombre ← lista[2]?
    let direccion ← lista[3]?
    let tamanio ← lista[4]?
    let puntero ← lista[5]?
    some (pid, some (.fsRead nombre (atoi direccion) (atoi tamanio) (atoi puntero)))
  else some (pid, none)

/-- A choice between two computations that go on in the same way. -/
theorem ite_eq_bind {α β : Type*} {P : Prop} [Decidable P] {x y : Option β} {x' y' : Option α}
    {f : α → Option β} (hx : x = x'.bind f) (hy : y = y'.bind f) :
    (if P then x else y) = (if P then x' else y').bind f := by
  split_ifs
  · exact hx
  · exact hy

/-- What the interface does with a packet is what the function that it calls does. -/
theorem recibirInfoKernel_eq (cfg : DialFS.InoutConfig) (s : DialFS.Estado) (lista : List Cadena)
    (e : DialFS.Entorno) :
    DialFS.recibirInfoKernel cfg s lista e =
      (llamadaDe lista).bind fun r => r.2.elim (some s) fun p => p.atender cfg s r.1 e := by
  unfold DialFS.recibirInfoKernel llamadaDe
  simp only [Option.bind_eq_bind]
  rw [Option.bind_assoc]
  refine Option.bind_congr fun pid _ => ?_
  rw [Option.bind_assoc]
  refine Option.bind_congr fun instruccion _ => ?_
  refine ite_eq_bind ?_ (ite_eq_bind ?_ (ite_eq_bind ?_ (ite_eq_bind ?_ (ite_eq_bind ?_
    (ite_eq_bind ?_ (ite_eq_bind ?_ (ite_eq_bind ?_ rfl)))))))
  · cases lista[2]? <;> rfl
  · cases lista[2]? <;> cases lista[3]? <;> rfl
  · cases lista[2]? <;> cases lista[3]? <;> rfl
  · cases lista[2]? <;> rfl
  · cases lista[2]? <;> rfl
  · cases lista[2]? <;> cases lista[3]? <;> rfl
  · cases lista[2]? <;> cases lista[3]? <;> cases lista[4]? <;> cases lista[5]? <;> rfl
  · cases lista[2]? <;> cases lista[3]? <;> cases lista[4]? <;> cases lista[5]? <;> rfl

/-! ### From the CPU to the kernel -/

/-- The operands as the CPU sends them: the number of units goes as it was written. -/
def InstruccionIo.textos (i : InstruccionIo) (p : Pedido) : List Cadena :=
  match i with
  | .genSleep unidades => [unidades.cadena]
  | _ => p.operandos

/-- The request of the instruction, as the CPU sends it for the process `pid`. -/
def InstruccionIo.paquete (i : InstruccionIo) (pid : ℕ) (interfaz : Palabra) (p : Pedido) :
    Cpu.Paquete :=
  ⟨pid, i.nombre, interfaz.cadena :: i.textos p⟩

variable {cpu : Cpu.CpuConfiguracion} {tamPagina pid : ℕ} {c : Cpu.Contexto} {i : InstruccionIo}
  {interfaz : Palabra} {p : Pedido}

/-- The CPU takes the words of the instruction. -/
theorem splitOn_linea (i : InstruccionIo) (interfaz : Palabra) :
    (i.linea interfaz).splitOn ' ' =
      i.nombre :: interfaz.cadena :: i.palabras.map Palabra.cadena := by
  unfold InstruccionIo.linea
  refine List.splitOn_intercalate ' ' (fun l hl => ?_) (by simp)
  rw [List.mem_cons, List.mem_cons, List.mem_map] at hl
  rcases hl with rfl | rfl | ⟨palabra, -, rfl⟩
  · cases i <;> exact of_decide_eq_true rfl
  · exact interfaz.sinEspacios
  · exact palabra.sinEspacios

/-- A translation leaves the registers alone, and sends nothing but a denial. -/
theorem traducir_direccionFisica {registro : Palabra} {direccion : ℤ}
    (h : direccionFisica cpu tamPagina pid c registro = some direccion) :
    ∃ c' previos, Cpu.traducir cpu tamPagina pid c registro.cadena =
        some (direccion, c', previos) ∧ c'.registros = c.registros ∧
      ∀ q ∈ previos, q = ⟨pid, "DENIED_ACCESS".toList, []⟩ := by
  obtain ⟨⟨_, tlb⟩, hobtener, rfl⟩ := Option.map_eq_some_iff.1 h
  unfold Cpu.traducir
  rw [hobtener]
  refine ⟨{ c with tlb := tlb }, _, rfl, rfl, fun q hq => ?_⟩
  split_ifs at hq
  · exact List.mem_singleton.1 hq
  · cases hq

/-- The request that follows a translation comes last, with its address. -/
theorem ioStdoutWriteOStdinRead_eq {direccion tam : Palabra} {d : ℤ}
    (h : direccionFisica cpu tamPagina pid c direccion = some d) (instruccion interfaz : Cadena) :
    ∃ previos, Cpu.ioStdoutWriteOStdinRead cpu tamPagina pid c instruccion interfaz
        direccion.cadena tam.cadena =
          some (previos ++ [⟨pid, instruccion,
            [interfaz, itoa d, itoa (Cpu.obtenerValor c.registros tam.cadena)]⟩]) ∧
      ∀ q ∈ previos, q = ⟨pid, "DENIED_ACCESS".toList, []⟩ := by
  obtain ⟨c', previos, ht, hregistros, hprevios⟩ := traducir_direccionFisica h
  refine ⟨previos, ?_, hprevios⟩
  unfold Cpu.ioStdoutWriteOStdinRead
  rw [ht, Option.map_some]
  dsimp only
  rw [hregistros]

theorem ioFsWriteORead_eq {direccion tam puntero : Palabra} {d : ℤ}
    (h : direccionFisica cpu tamPagina pid c direccion = some d)
    (instruccion interfaz archivo : Cadena) :
    ∃ previos, Cpu.ioFsWriteORead cpu tamPagina pid c instruccion interfaz archivo
        direccion.cadena tam.cadena puntero.cadena =
          some (previos ++ [⟨pid, instruccion,
            [interfaz, archivo, itoa d, itoa (Cpu.obtenerValor c.registros tam.cadena),
              itoa (Cpu.obtenerValor c.registros puntero.cadena)]⟩]) ∧
      ∀ q ∈ previos, q = ⟨pid, "DENIED_ACCESS".toList, []⟩ := by
  obtain ⟨c', previos, ht, hregistros, hprevios⟩ := traducir_direccionFisica h
  refine ⟨previos, ?_, hprevios⟩
  unfold Cpu.ioFsWriteORead
  rw [ht, Option.map_some]
  dsimp only
  rw [hregistros]

/-- **The packet of the CPU**: the last one that an I/O instruction sends has its operands, in the
order of the instruction. -/
theorem hacerInstruccion_linea (interfaz : Palabra)
    (h : i.evaluar cpu tamPagina pid c = some p) :
    ∃ previos, Cpu.hacerInstruccion cpu tamPagina pid c (i.linea interfaz) =
        some (previos ++ [i.paquete pid interfaz p]) ∧
      ∀ q ∈ previos, q = ⟨pid, "DENIED_ACCESS".toList, []⟩ := by
  unfold Cpu.hacerInstruccion Cpu.decodificar
  rw [splitOn_linea]
  cases i with
  | genSleep unidades => exact ⟨[], rfl, by simp⟩
  | stdinRead direccion tam =>
    obtain ⟨d, hd, rfl⟩ := Option.map_eq_some_iff.1 h
    exact ioStdoutWriteOStdinRead_eq hd _ interfaz.cadena
  | stdoutWrite direccion tam =>
    obtain ⟨d, hd, rfl⟩ := Option.map_eq_some_iff.1 h
    exact ioStdoutWriteOStdinRead_eq hd _ interfaz.cadena
  | fsCreate archivo =>
    obtain rfl := Option.some.inj h
    exact ⟨[], rfl, by simp⟩
  | fsDelete archivo =>
    obtain rfl := Option.some.inj h
    exact ⟨[], rfl, by simp⟩
  | fsTruncate archivo tam =>
    obtain rfl := Option.some.inj h
    exact ⟨[], rfl, by simp⟩
  | fsWrite archivo direccion tam puntero =>
    obtain ⟨d, hd, rfl⟩ := Option.map_eq_some_iff.1 h
    exact ioFsWriteORead_eq hd _ interfaz.cadena archivo.cadena
  | fsRead archivo direccion tam puntero =>
    obtain ⟨d, hd, rfl⟩ := Option.map_eq_some_iff.1 h
    exact ioFsWriteORead_eq hd _ interfaz.cadena archivo.cadena

/-! ### The packets on the wire -/

/-- `io_gen_sleep` and its kin of the CPU: the packet of a request, with the PCB. -/
def enviarPedidoCpu (pcb : Pcb) (q : Cpu.Paquete) : Option (List UInt8) :=
  enviarContexto pcb ((q.motivo :: q.lista).map enMemoria)

/-- `recibir_respuesta_cpu` on a packet, up to `atender_solicitud_cpu`: the PCB after it, the reason
and the list that is left. -/
def recibirPedidoKernel (pcbDesalojo : Pcb) (s : List UInt8) :
    Option (Pcb × Cadena × List Cadena) := do
  let r ← recibirContexto pcbDesalojo s
  let lista ← leerTextos r.1.2
  let motivo ← lista.head?
  some (r.1.1, motivo, lista.tail)

/-- `io_gen_sleep` and its kin of the kernel: the packet for the interface. -/
def enviarAInterfaz (pidIo instruccion : Cadena) (argumentos : List Cadena) :
    Option (List UInt8) :=
  (Trama.paquete ((pidIo :: instruccion :: argumentos).map enMemoria)).enviar

/-- The loop of the interface on a packet: the call that it makes. -/
def recibirDelKernel (s : List UInt8) : Option (Cadena × Option Pedido) :=
  (recibirOperacion s).bind fun r =>
    if r.1 = OpCode.PAQUETE.valor then
      (recibirPaquete r.2).bind fun l => (leerTextos l.1).bind llamadaDe
    else none

/-! ### The operands at each stop -/

/-- An evaluated request has the name of its instruction, and its operands as texts, but for a
number of units, which goes as it was written. -/
structure Evaluado (i : InstruccionIo) (p : Pedido) : Prop where
  nombre : i.nombre = p.instruccion.toList
  textos : i.textos p = p.operandos ∨
    ∃ unidades, i = .genSleep unidades ∧ p = .genSleep (atoi unidades.cadena)
  esTexto : ∀ s ∈ i.nombre :: i.textos p, EsTexto s

theorem esTexto_nombre (i : InstruccionIo) : EsTexto i.nombre := by
  cases i <;> exact of_decide_eq_true rfl

theorem evaluado (h : i.evaluar cpu tamPagina pid c = some p) : Evaluado i p := by
  have hnombre := esTexto_nombre i
  cases i with
  | genSleep unidades =>
    obtain rfl := Option.some.inj h
    exact ⟨rfl, Or.inr ⟨unidades, rfl, rfl⟩,
      by simp [hnombre, InstruccionIo.textos, unidades.esTexto]⟩
  | stdinRead direccion tam =>
    obtain ⟨d, -, rfl⟩ := Option.map_eq_some_iff.1 h
    exact ⟨rfl, Or.inl rfl,
      by simp [hnombre, InstruccionIo.textos, DialFS.Pedido.operandos, esTexto_itoa]⟩
  | stdoutWrite direccion tam =>
    obtain ⟨d, -, rfl⟩ := Option.map_eq_some_iff.1 h
    exact ⟨rfl, Or.inl rfl,
      by simp [hnombre, InstruccionIo.textos, DialFS.Pedido.operandos, esTexto_itoa]⟩
  | fsCreate archivo =>
    obtain rfl := Option.some.inj h
    exact ⟨rfl, Or.inl rfl,
      by simp [hnombre, InstruccionIo.textos, DialFS.Pedido.operandos, archivo.esTexto]⟩
  | fsDelete archivo =>
    obtain rfl := Option.some.inj h
    exact ⟨rfl, Or.inl rfl,
      by simp [hnombre, InstruccionIo.textos, DialFS.Pedido.operandos, archivo.esTexto]⟩
  | fsTruncate archivo tam =>
    obtain rfl := Option.some.inj h
    exact ⟨rfl, Or.inl rfl, by
      simp [hnombre, InstruccionIo.textos, DialFS.Pedido.operandos, archivo.esTexto, esTexto_itoa]⟩
  | fsWrite archivo direccion tam puntero =>
    obtain ⟨d, -, rfl⟩ := Option.map_eq_some_iff.1 h
    exact ⟨rfl, Or.inl rfl, by
      simp [hnombre, InstruccionIo.textos, DialFS.Pedido.operandos, archivo.esTexto, esTexto_itoa]⟩
  | fsRead archivo direccion tam puntero =>
    obtain ⟨d, -, rfl⟩ := Option.map_eq_some_iff.1 h
    exact ⟨rfl, Or.inl rfl, by
      simp [hnombre, InstruccionIo.textos, DialFS.Pedido.operandos, archivo.esTexto, esTexto_itoa]⟩

/-- The kernel passes on what follows the name of the interface. -/
theorem Evaluado.argumentosIo (h : Evaluado i p) (interfaz : Cadena) :
    Kernel.argumentosIo (interfaz :: i.textos p) i.nombre = some (some (i.textos p)) := by
  rcases h.textos with htextos | ⟨unidades, rfl, rfl⟩
  · rw [htextos, h.nombre]
    cases p <;> dsimp only [DialFS.Pedido.instruccion] <;> rfl
  · rfl

/-- The interface reads the operands of a request where they are put. -/
theorem llamadaDe_operandos (pidIo : Cadena) (hrango : p.EnRango) :
    llamadaDe (pidIo :: p.instruccion.toList :: p.operandos) = some (pidIo, some p) := by
  cases p <;> dsimp only [DialFS.Pedido.instruccion]
  case genSleep unidades =>
    show some (pidIo, some (Pedido.genSleep (atoi (itoa _)))) = _
    rw [atoi_itoa hrango]
  case stdinRead direccion tamanio =>
    show some (pidIo, some (Pedido.stdinRead (atoi (itoa _)) (atoi (itoa _)))) = _
    rw [atoi_itoa hrango.1, atoi_itoa hrango.2]
  case stdoutWrite direccion tamanio =>
    show some (pidIo, some (Pedido.stdoutWrite (atoi (itoa _)) (atoi (itoa _)))) = _
    rw [atoi_itoa hrango.1, atoi_itoa hrango.2]
  case fsCreate nombre => rfl
  case fsDelete nombre => rfl
  case fsTruncate nombre tamanio =>
    show some (pidIo, some (Pedido.fsTruncate _ (atoi (itoa _)))) = _
    rw [atoi_itoa hrango]
  case fsWrite nombre direccion tamanio puntero =>
    show some (pidIo, some (Pedido.fsWrite _ (atoi (itoa _)) (atoi (itoa _)) (atoi (itoa _)))) = _
    rw [atoi_itoa hrango.1, atoi_itoa hrango.2.1, atoi_itoa hrango.2.2]
  case fsRead nombre direccion tamanio puntero =>
    show some (pidIo, some (Pedido.fsRead _ (atoi (itoa _)) (atoi (itoa _)) (atoi (itoa _)))) = _
    rw [atoi_itoa hrango.1, atoi_itoa hrango.2.1, atoi_itoa hrango.2.2]

theorem Evaluado.llamadaDe (h : Evaluado i p) (hrango : p.EnRango) (pidIo : Cadena) :
    Sistema.llamadaDe (pidIo :: i.nombre :: i.textos p) = some (pidIo, some p) := by
  rcases h.textos with htextos | ⟨unidades, rfl, rfl⟩
  · rw [htextos, h.nombre]
    exact llamadaDe_operandos pidIo hrango
  · rfl

/-! ### From one program to the next -/

/-- The packet of the CPU. -/
def tramaDelPedido (pcb : Pcb) (q : Cpu.Paquete) : Trama :=
  tramaDelPcb pcb ((q.motivo :: q.lista).map enMemoria)

/-- The kernel receives the pid, the reason and the list that the CPU sent. -/
theorem recibirPedidoKernel_eq {pcb : Pcb} {q : Cpu.Paquete} (hcabe : (tramaDelPedido pcb q).Cabe)
    (htextos : ∀ s ∈ q.motivo :: q.lista, EsTexto s) (pcbDesalojo : Pcb) :
    ∃ pcb', recibirPedidoKernel pcbDesalojo (tramaDelPedido pcb q).bytes =
      some (pcb', q.motivo, q.lista) ∧ pcb'.pid = pcb.pid := by
  obtain ⟨pcb', hcargar, hpid⟩ :=
    cargarPcb_otros pcbDesalojo pcb ((q.motivo :: q.lista).map enMemoria)
  have hrecibir : recibirContexto pcbDesalojo (tramaDelPedido pcb q).bytes =
      some ((pcb', (q.motivo :: q.lista).map enMemoria), []) := by
    unfold tramaDelPedido tramaDelPcb at hcabe ⊢
    rw [recibirContexto_paquete hcabe, hcargar, Option.map_some]
  refine ⟨pcb', ?_, hpid⟩
  unfold recibirPedidoKernel
  rw [hrecibir]
  simp only [Option.bind_eq_bind, Option.bind_some]
  rw [leerTextos_enMemoria htextos]
  rfl

/-- A packet of texts reaches the interface. -/
theorem recibirDelKernel_eq {pidIo instruccion : Cadena} {argumentos : List Cadena}
    (hcabe : (Trama.paquete ((pidIo :: instruccion :: argumentos).map enMemoria)).Cabe)
    (htextos : ∀ s ∈ pidIo :: instruccion :: argumentos, EsTexto s) :
    ∃ s, enviarAInterfaz pidIo instruccion argumentos = some s ∧
      recibirDelKernel s = llamadaDe (pidIo :: instruccion :: argumentos) := by
  refine ⟨_, enviar_eq hcabe, ?_⟩
  have hleer := leerTextos_enMemoria htextos
  generalize (pidIo :: instruccion :: argumentos).map enMemoria = valores at hcabe hleer
  obtain ⟨s, hoperacion, hpaquete⟩ := hcabe.recibirPaquete
  unfold recibirDelKernel
  rw [hoperacion, Option.bind_some]
  dsimp only
  rw [if_pos rfl, hpaquete, Option.bind_some, hleer, Option.bind_some]

/-- The packet for the interface is shorter than that of the CPU. -/
theorem cabe_paraInterfaz {pcb : Pcb} {q : Cpu.Paquete} {argumentos : List Cadena}
    (hlista : q.lista = interfaz.cadena :: argumentos)
    (hcabe : (tramaDelPedido pcb q).Cabe) (hpid : pcb.pid = itoaTexto pid) :
    (Trama.paquete ((itoa pid :: q.motivo :: argumentos).map enMemoria)).Cabe := by
  have hsub : ((itoa pid :: q.motivo :: argumentos).map enMemoria).Sublist
      (valoresDelPcb pcb ((q.motivo :: q.lista).map enMemoria)) := by
    have hotros : ((q.motivo :: argumentos).map enMemoria).Sublist
        ((q.motivo :: q.lista).map enMemoria) := by
      rw [hlista]
      exact ((List.sublist_cons_self _ _).cons_cons _).map _
    unfold valoresDelPcb textosDelPcb
    rw [hpid]
    exact (hotros.trans (List.sublist_append_right _ _)).cons_cons _
  exact Trama.Cabe.sublist hcabe hsub

/-- The packet `q` of a process becomes the call `p` of its interface: the kernel receives it, and
if the interface permits the instruction, what the kernel sends to it once planning is not stopped,
whatever happened in between, makes that call for that process. -/
def Llega (pid : ℕ) (pcb : Pcb) (interfaz : Cadena) (q : Cpu.Paquete) (p : Pedido) : Prop :=
  ∃ s, enviarPedidoCpu pcb q = some s ∧ ∀ pcbDesalojo, ∃ pcb',
    recibirPedidoKernel pcbDesalojo s = some (pcb', q.motivo, q.lista) ∧ pcb'.pid = pcb.pid ∧
    ∀ cfg k, Kernel.pideIo k q.motivo q.lista = true → ∃ k₁ a,
      Kernel.empezarIo cfg k q.motivo q.lista pid = some (k₁, a) ∧
      ∀ (k₂ : Kernel.Estado) (conexion : ℤ), k₂.semPlanificacion ≠ 0 →
        Dictionary.get k₂.diccionarioConexionesIo interfaz = some conexion → ∃ argumentos s',
          Kernel.enviarPedido k₂ a =
            some ({ k₂ with enviados :=
              k₂.enviados ++ [.interfaz conexion pid q.motivo argumentos] }, conexion) ∧
          enviarAInterfaz (texto pcb'.pid.bytes) q.motivo argumentos = some s' ∧
          recibirDelKernel s' = some (itoa pid, some p)

/-- The pieces of the kernel pass the operands on. -/
theorem empezarIo_enviarPedido (cfg : Kernel.KernelConfiguracion) {k : Kernel.Estado}
    {motivo interfaz : Cadena} {argumentos : List Cadena}
    (hargumentos : Kernel.argumentosIo (interfaz :: argumentos) motivo = some (some argumentos))
    (hpide : Kernel.pideIo k motivo (interfaz :: argumentos) = true) (pid : ℕ) :
    ∃ k₁ a, Kernel.empezarIo cfg k motivo (interfaz :: argumentos) pid = some (k₁, a) ∧
      ∀ (k₂ : Kernel.Estado) (conexion : ℤ), k₂.semPlanificacion ≠ 0 →
        Dictionary.get k₂.diccionarioConexionesIo interfaz = some conexion →
        Kernel.enviarPedido k₂ a =
          some ({ k₂ with enviados :=
            k₂.enviados ++ [.interfaz conexion pid motivo argumentos] }, conexion) := by
  unfold Kernel.pideIo at hpide
  rw [Bool.and_eq_true] at hpide
  have hcumple : Kernel.cumpleInterfaz k interfaz motivo = some true := by
    simpa using hpide.2
  unfold Kernel.cumpleInterfaz at hcumple
  rcases ite_eq_iff.1 hcumple with ⟨hcola, -⟩ | ⟨-, hno⟩
  · obtain ⟨i, hi⟩ := Option.isSome_iff_exists.1 hcola
    unfold Kernel.empezarIo
    rw [List.getElem?_cons_zero, Option.bind_some, hi, Option.map_some]
    refine ⟨_, _, rfl, fun k₂ conexion hplan hconexion => ?_⟩
    unfold Kernel.enviarPedido
    rw [if_neg hplan, hargumentos, Option.bind_some, hconexion]
    rfl
  · cases Option.some.inj hno

/-- **The operands of an I/O instruction reach the interface**: the last packet of the instruction,
if it fits in a frame, becomes a call with the operands that the CPU evaluated, in the same roles,
and with the pid of the process. -/
theorem pedido_llega (cpu : Cpu.CpuConfiguracion) (tamPagina pid : ℕ) (c : Cpu.Contexto)
    (i : InstruccionIo) (interfaz : Palabra) (p : Pedido)
    (heval : i.evaluar cpu tamPagina pid c = some p) (hrango : p.EnRango) :
    (∃ previos, Cpu.hacerInstruccion cpu tamPagina pid c (i.linea interfaz) =
        some (previos ++ [i.paquete pid interfaz p]) ∧
      ∀ q ∈ previos, q = ⟨pid, "DENIED_ACCESS".toList, []⟩) ∧
    ∀ pcb : Pcb, pcb.pid = itoaTexto pid → (tramaDelPedido pcb (i.paquete pid interfaz p)).Cabe →
      Llega pid pcb interfaz.cadena (i.paquete pid interfaz p) p := by
  have hevaluado := evaluado heval
  refine ⟨hacerInstruccion_linea interfaz heval, fun pcb hpid hcabe => ?_⟩
  have htextos : ∀ s ∈ i.nombre :: interfaz.cadena :: i.textos p, EsTexto s := by
    intro s hs
    rcases List.mem_cons.1 hs with rfl | hs
    · exact esTexto_nombre i
    rcases List.mem_cons.1 hs with rfl | hs
    · exact interfaz.esTexto
    · exact hevaluado.esTexto s (List.mem_cons_of_mem _ hs)
  refine ⟨_, enviarContexto_eq hcabe, fun pcbDesalojo => ?_⟩
  obtain ⟨pcb', hrecibir, hpid'⟩ := recibirPedidoKernel_eq hcabe htextos pcbDesalojo
  refine ⟨pcb', hrecibir, hpid', fun cfg k hpide => ?_⟩
  obtain ⟨k₁, a, hempezar, henviar⟩ :=
    empezarIo_enviarPedido cfg (hevaluado.argumentosIo interfaz.cadena) hpide pid
  refine ⟨k₁, a, hempezar, fun k₂ conexion hplan hconexion => ?_⟩
  have hpidIo : texto pcb'.pid.bytes = itoa pid := by
    rw [hpid', hpid]
    exact texto_aBytes fun ch hch => (toNat_of_mem_itoa hch).2
  obtain ⟨s', hs', hllamada⟩ := recibirDelKernel_eq
    (cabe_paraInterfaz rfl hcabe hpid) (fun s hs => by
      rcases List.mem_cons.1 hs with rfl | hs
      · exact esTexto_itoa pid
      · exact hevaluado.esTexto s hs)
  refine ⟨i.textos p, s', henviar k₂ conexion hplan hconexion, ?_, ?_⟩
  · rw [hpidIo]
    exact hs'
  · rw [hllamada]
    exact hevaluado.llamadaDe hrango _

/-- A process with an address in EAX, a negative size in EBX and a pointer in ECX; memoria has every
page in frame 3. -/
def contextoFs : Cpu.Contexto where
  registros := ⟨0, 0, 0, 0, 0, 5, 4294967295, 7, 0, 0, 0⟩
  tlb := []
  obtenerMarcoMemoria _ := 3
  respuestaResize _ := "OK".toList

/-- A kernel with an interface, and planning not stopped. -/
def kernelConF : Kernel.Estado :=
  { Kernel.conectarInterfaz (Kernel.Estado.inicial ⟨.FIFO, [], 1⟩) ['F'] "IO_FS_WRITE".toList 7 with
    semPlanificacion := 1 }

/-- A write, through the CPU, the kernel and its interface. -/
theorem pedido_llega_fsWrite :
    ∃ k₁ a argumentos s',
      Kernel.empezarIo ⟨.FIFO, [], 1⟩ kernelConF "IO_FS_WRITE".toList
        [['F'], ['A'], itoa 53, itoa (-1), itoa 7] 1 = some (k₁, a) ∧
      Kernel.enviarPedido kernelConF a =
        some ({ kernelConF with
          enviados := [.interfaz 7 1 "IO_FS_WRITE".toList argumentos] }, 7) ∧
      enviarAInterfaz (itoa 1) "IO_FS_WRITE".toList argumentos = some s' ∧
      recibirDelKernel s' = some (itoa 1, some (.fsWrite ['A'] 53 (-1) 7)) := by
  obtain ⟨-, hllega⟩ := pedido_llega ⟨0, "FIFO".toList⟩ 16 1 contextoFs
    (.fsWrite ⟨['A'], by decide, by decide, by decide⟩
      ⟨"EAX".toList, by decide, by decide, by decide⟩
      ⟨"EBX".toList, by decide, by decide, by decide⟩
      ⟨"ECX".toList, by decide, by decide, by decide⟩)
    ⟨['F'], by decide, by decide, by decide⟩ (.fsWrite ['A'] 53 (-1) 7)
    (by decide +kernel) ⟨by decide, by decide, by decide⟩
  obtain ⟨s, -, hkernel⟩ := hllega (pcbEnUso (itoaTexto 1)) rfl (by decide +kernel)
  obtain ⟨pcb', -, hpid, hempezar⟩ := hkernel (pcbEnUso (itoaTexto 2))
  obtain ⟨k₁, a, ha, henviar⟩ := hempezar ⟨.FIFO, [], 1⟩ kernelConF (by decide)
  obtain ⟨argumentos, s', hpedido, hs', hllamada⟩ := henviar kernelConF 7 (by decide) rfl
  have htexto : texto (itoaTexto 1).bytes = itoa 1 :=
    texto_aBytes fun _ hch => (toNat_of_mem_itoa hch).2
  rw [hpid, show (pcbEnUso (itoaTexto 1)).pid = itoaTexto 1 from rfl, htexto] at hs'
  exact ⟨k₁, a, argumentos, s', ha, hpedido, hs', hllamada⟩

/-- A name of almost 2 GiB. -/
theorem exists_nombre_largo : ∃ archivo : Palabra,
    archivo.cadena = List.replicate (2 ^ 31 - 64) 'a' ∧ archivo.cadena.length = 2 ^ 31 - 64 := by
  have hmem : ∀ ch ∈ List.replicate (2 ^ 31 - 64) 'a', ch = 'a' :=
    fun _ hch => List.eq_of_mem_replicate hch
  have hlen : (List.replicate (2 ^ 31 - 64) 'a').length = 2 ^ 31 - 64 := List.length_replicate
  refine ⟨⟨List.replicate (2 ^ 31 - 64) 'a', fun ch hch => ?_, fun hnil => ?_, fun hespacio => ?_⟩,
    rfl, hlen⟩
  · rw [hmem ch hch]
    decide
  · rw [hnil] at hlen
    norm_num at hlen
  · exact absurd (hmem _ hespacio) (by decide)

theorem length_enMemoria (s : Cadena) : (enMemoria s).length = s.length + 1 := by
  simp [enMemoria, aBytes]

/-- A packet whose last text does not fit after the others is not sent. -/
theorem enviarPedidoCpu_desborda {pcb : Pcb} {q : Cpu.Paquete} (antes : List Cadena)
    (ultimo : Cadena) (hlista : q.motivo :: q.lista = antes ++ [ultimo])
    (hantes : (valoresEnBytes (valoresDelPcb pcb (antes.map enMemoria))).length < 2 ^ 31)
    (hultimo : ultimo.length + 1 < 2 ^ 31)
    (h : 2 ^ 31 ≤ (valoresEnBytes (valoresDelPcb pcb (antes.map enMemoria))).length +
      (ultimo.length + 1)) : enviarPedidoCpu pcb q = none := by
  have hvalores : valoresDelPcb pcb ((q.motivo :: q.lista).map enMemoria) =
      valoresDelPcb pcb (antes.map enMemoria) ++ [enMemoria ultimo] := by
    rw [hlista, List.map_append, List.map_singleton, valoresDelPcb, valoresDelPcb,
      List.append_assoc]
  unfold enviarPedidoCpu
  rw [enviarContexto_eq_bind, hvalores, agregarTodos_desborda hantes, Option.bind_none]
  · rw [length_enMemoria]
    exact hultimo
  · rw [length_enMemoria]
    exact h

theorem length_linea_fsCreate (archivo interfaz : Palabra) :
    ((InstruccionIo.fsCreate archivo).linea interfaz).length =
      14 + interfaz.cadena.length + archivo.cadena.length := by
  have hnombre : "IO_FS_CREATE".toList.length = 12 := by decide
  unfold InstruccionIo.linea
  show ([' '].intercalate ["IO_FS_CREATE".toList, interfaz.cadena, archivo.cadena]).length = _
  rw [List.intercalate_cons_cons, List.intercalate_cons_cons, List.intercalate_singleton]
  simp only [List.length_append, List.length_singleton, hnombre]
  omega

/-- **A name of almost 2 GiB does not reach the interface.**  The instruction fits in a frame, but
its operands do not fit in one after the PCB. -/
theorem nombre_largo_no_llega :
    ∃ archivo interfaz : Palabra,
      archivo.cadena = List.replicate (2 ^ 31 - 64) 'a' ∧ interfaz.cadena = ['F'] ∧
      (Trama.paquete [enMemoria ((InstruccionIo.fsCreate archivo).linea interfaz)]).Cabe ∧
      ∃ q, Cpu.hacerInstruccion ⟨0, "FIFO".toList⟩ 16 1 contextoFs
          ((InstruccionIo.fsCreate archivo).linea interfaz) = some [q] ∧
        ¬ Llega 1 (pcbEnUso (itoaTexto 1)) interfaz.cadena q (.fsCreate archivo.cadena) := by
  obtain ⟨archivo, harchivo, hlen⟩ := exists_nombre_largo
  refine ⟨archivo, ⟨['F'], by decide, by decide, by decide⟩, harchivo, rfl, ?_, ?_⟩
  · rw [cabe_paquete_iff, valoresEnBytes_cons, valoresEnBytes_nil, List.append_nil,
      List.length_append, intBytes_length, length_enMemoria, length_linea_fsCreate, hlen]
    decide
  · refine ⟨⟨1, "IO_FS_CREATE".toList, [['F'], archivo.cadena]⟩, ?_, ?_⟩
    · unfold Cpu.hacerInstruccion Cpu.decodificar
      rw [splitOn_linea]
      rfl
    · have hpcb : 64 ≤ (valoresEnBytes (valoresDelPcb (pcbEnUso (itoaTexto 1))
            (["IO_FS_CREATE".toList, ['F']].map enMemoria))).length ∧
          (valoresEnBytes (valoresDelPcb (pcbEnUso (itoaTexto 1))
            (["IO_FS_CREATE".toList, ['F']].map enMemoria))).length < 2 ^ 31 := by
        decide +kernel
      rintro ⟨s, hs, -⟩
      rw [enviarPedidoCpu_desborda ["IO_FS_CREATE".toList, ['F']] archivo.cadena rfl hpcb.2
        (by omega) (by omega)] at hs
      cases hs

end SimuladorSO.Sistema
