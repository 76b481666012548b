import SimuladorSO.DialFS.Consultas
import SimuladorSO.Memoria.Plana
import SimuladorSO.Sistema.PedidosIo

/-!
# Memoria and the interfaces

The interfaces share memoria with the processes.  A process asks for an I/O with the physical address
that its logical address has at that moment; the request waits for its turn in the interface, which
sends its own request to memoria and reads one answer.

* `valores`, `recibirInfoIo`: the packet that an interface sends to memoria and what memoria does
  with it, `recibirInfoIo_valores`;
* `Equipo`, `Orden`, `paso`: memoria, the interfaces with the requests that wait for each, and what
  has been shown;
* `Usuarios`, `aplicar`: what the processes see of it, flat memories and files by name;
* `Admite`: the steps that they may take.
-/

namespace SimuladorSO.Sistema

open CInt Commons Transitions Utils
open DialFS (Pedido Respuesta Almacen)
open Memoria (Accion Envio MemoriaConfiguracion Plana)

/-! ### The requests of an interface to memoria -/

/-- The values of the packet of a request. -/
def valores : DialFS.Peticion → List (List UInt8)
  | .escritura pid direccion tamanio mensaje =>
    ["0".toList, pid, itoa direccion, itoa tamanio].map enMemoria ++ [mensaje ++ [0]]
  | .lectura pid direccion tamanio =>
    ["1".toList, pid, itoa direccion, itoa tamanio].map enMemoria

/-- `atoi` of a value of a packet; a value without a terminator is not a text. -/
def numero (valor : List UInt8) : Option ℤ := (leerTexto valor).map fun t => atoi (texto t.bytes)

/-- `recibir_info_io` of memoria; a missing value is a `NULL` that is dereferenced, and the code `-1`
ends the program. -/
def recibirInfoIo (cfg : MemoriaConfiguracion) (m : Memoria.Estado) (lista : List (List UInt8)) :
    Option (Memoria.Estado × List Envio) := do
  let codigoOperacion ← lista[0]?.bind numero
  let pid ← lista[1]?.bind numero
  let direccionFisica ← lista[2]?.bind numero
  if codigoOperacion = 0 then do
    let tamanioEscribir ← lista[3]?.bind numero
    let mensaje ← lista[4]?
    Memoria.escribirMemoria cfg m direccionFisica mensaje tamanioEscribir pid
  else if codigoOperacion = 1 then do
    let tamanioLeer ← lista[3]?.bind numero
    (Memoria.leerMemoria cfg m direccionFisica tamanioLeer pid).map fun envios => (m, envios)
  else if codigoOperacion = -1 then none
  else some (m, [])

/-- The one answer that the interface reads.  It waits when there is none, and a second one would be
read as the answer of its next request. -/
def recibirRespuesta : List Envio → Option Respuesta
  | [.mensaje _] => some .mensaje
  | [.paquete (.bytes b)] => some (.paquete b)
  | _ => none

/-- The requests of an operation, one after another. -/
def pasoPeticion (cfg : MemoriaConfiguracion) (m : Memoria.Estado) (p : DialFS.Peticion) :
    Option Memoria.Estado :=
  (recibirInfoIo cfg m (valores p)).bind fun r => (recibirRespuesta r.2).map fun _ => r.1

/-- The read with which an operation begins, if it does. -/
def consulta (pid : Cadena) : Pedido → Option DialFS.Peticion
  | .stdoutWrite direccion tamanio => some (.lectura pid direccion tamanio)
  | .fsWrite _ direccion tamanio _ => some (.lectura pid direccion tamanio)
  | _ => none

/-- What memoria answers to it. -/
def respuestaDe (cfg : MemoriaConfiguracion) (m : Memoria.Estado) (pid : Cadena) (p : Pedido) :
    Option Respuesta :=
  (consulta pid p).bind fun q =>
    (recibirInfoIo cfg m (valores q)).bind fun r => recibirRespuesta r.2

/-! ### The system -/

/-- Memoria, the interfaces, the requests that wait for each with the pid of the process, the oldest
first, and what the interfaces have shown. -/
structure Equipo where
  memoria : Memoria.Estado
  interfaces : ℕ → DialFS.Estado
  colas : ℕ → List (ℤ × Pedido)
  mostrado : List (List UInt8)

/-- What happens next: the kernel or the CPU uses memoria, a process asks an interface for an I/O, at
a logical address, or an interface handles its next request, for which it reads a line from its
console and meets some bytes after the buffer that it allocates. -/
inductive Orden
  | accion (a : Accion)
  | pedir (i : ℕ) (pid : ℤ) (p : Pedido)
  | atender (i : ℕ) (leido : Option (List UInt8)) (resto : List UInt8)

/-- The request with another address. -/
def conDireccion (f : ℤ → ℤ) : Pedido → Pedido
  | .stdinRead direccion tamanio => .stdinRead (f direccion) tamanio
  | .stdoutWrite direccion tamanio => .stdoutWrite (f direccion) tamanio
  | .fsWrite nombre direccion tamanio puntero => .fsWrite nombre (f direccion) tamanio puntero
  | .fsRead nombre direccion tamanio puntero => .fsRead nombre (f direccion) tamanio puntero
  | p => p

/-- The request of a process with the physical address that its own has now. -/
def fisico (cfg : MemoriaConfiguracion) (m : Memoria.Estado) (q : ℤ × Pedido) : ℤ × Pedido :=
  (q.1, conDireccion (Memoria.direccionFisica cfg m q.1) q.2)

/-- What the operation shows: `log_info` of the answer of memoria. -/
def muestra (respuesta : Option Respuesta) : Pedido → List (List UInt8)
  | .stdoutWrite _ _ =>
    match respuesta with
    | some (.paquete bytes) => [bytes]
    | _ => []
  | _ => []

/-- The interface `i` handles a request, and memoria those of the interface. -/
def atenderPedido (cfg : MemoriaConfiguracion) (c : ℕ → DialFS.InoutConfig) (x : Equipo) (i : ℕ)
    (leido : Option (List UInt8)) (resto : List UInt8) (pid : ℤ) (p : Pedido) : Option Equipo := do
  let respuesta := respuestaDe cfg x.memoria (itoa pid) p
  let s ← DialFS.recibirInfoKernel (c i) (x.interfaces i)
    (p.paquete (itoa pid) p.instruccion.toList) ⟨leido, respuesta.getD .mensaje, resto⟩
  let m ← run (pasoPeticion cfg) x.memoria
    (s.peticiones.drop (x.interfaces i).peticiones.length)
  some { x with
    memoria := m
    interfaces := Function.update x.interfaces i s
    mostrado := x.mostrado ++ muestra respuesta p }

/-- One step of the system. -/
def pasoEquipo (cfg : MemoriaConfiguracion) (c : ℕ → DialFS.InoutConfig) (x : Equipo) :
    Orden → Option Equipo
  | .accion a => (Memoria.pasoAccion cfg x.memoria a).map fun m => { x with memoria := m }
  | .pedir i pid p => some { x with
      colas := Function.update x.colas i (x.colas i ++ [fisico cfg x.memoria (pid, p)]) }
  | .atender i leido resto =>
    match x.colas i with
    | [] => none
    | (pid, p) :: cola => atenderPedido cfg c
        { x with colas := Function.update x.colas i cola } i leido resto pid p

theorem pasoEquipo_atender {cfg : MemoriaConfiguracion} {c : ℕ → DialFS.InoutConfig} {x : Equipo}
    {i : ℕ} {leido : Option (List UInt8)} {resto : List UInt8} {pid : ℤ} {p : Pedido}
    {cola : List (ℤ × Pedido)} (h : x.colas i = (pid, p) :: cola) :
    pasoEquipo cfg c x (.atender i leido resto) = atenderPedido cfg c
      { x with colas := Function.update x.colas i cola } i leido resto pid p := by
  simp only [pasoEquipo, h]

/-- The start of the system. -/
def Equipo.inicial (c : ℕ → DialFS.InoutConfig) (espacio : ℤ → UInt8) : Equipo where
  memoria := Memoria.generarEspacioMemoria espacio
  interfaces i := DialFS.iniciarFileSystem (c i)
  colas _ := []
  mostrado := []

/-! ### What the processes see -/

/-- The bytes that the processes have written at their addresses, the files of each interface by
name, the requests that wait, with logical addresses, and what has been shown. -/
structure Usuarios where
  plana : Plana
  archivos : ℕ → Almacen
  colas : ℕ → List (ℤ × Pedido)
  mostrado : List (List UInt8)

/-- Nothing is written, and there are no files. -/
def Usuarios.inicial : Usuarios := ⟨fun _ => none, fun _ => Almacen.vacio, fun _ => [], []⟩

/-- The bytes of a process from an address on, with a zero where it has not written. -/
def bytesDe (p : Plana) (pid l n : ℤ) : List UInt8 :=
  (List.range n.toNat).map fun i : ℕ => (p (pid, l + i)).getD 0

/-- Some bytes are written from an address on. -/
def poner (p : Plana) (pid l : ℤ) (bytes : List UInt8) : Plana :=
  p.aplicar (.escribir pid l bytes.length bytes)

/-- The files of one interface change. -/
def Usuarios.conArchivos (u : Usuarios) (i : ℕ) (a : Almacen) : Usuarios :=
  { u with archivos := Function.update u.archivos i a }

/-- What a request does. -/
def Usuarios.atender (c : ℕ → DialFS.InoutConfig) (u : Usuarios) (i : ℕ)
    (leido : Option (List UInt8)) (resto : List UInt8) (pid : ℤ) : Pedido → Usuarios
  | .genSleep _ => u
  | .stdinRead l n =>
    { u with plana := poner u.plana pid l ((leido.getD []).take n.toNat) }
  | .stdoutWrite l n => { u with mostrado := u.mostrado ++ [bytesDe u.plana pid l n] }
  | .fsCreate nombre => u.conArchivos i ((u.archivos i).crear (c i) nombre)
  | .fsDelete nombre => u.conArchivos i ((u.archivos i).borrar nombre)
  | .fsTruncate nombre n => u.conArchivos i ((u.archivos i).truncar (c i) nombre n)
  | .fsWrite nombre l n puntero =>
    u.conArchivos i ((u.archivos i).escribir nombre n puntero (bytesDe u.plana pid l n))
  | .fsRead nombre l n puntero =>
    { u with plana := poner u.plana pid l ((u.archivos i).texto nombre n puntero resto) }

/-- What happens next, as the processes see it. -/
def Usuarios.aplicar (c : ℕ → DialFS.InoutConfig) (u : Usuarios) : Orden → Usuarios
  | .accion a => { u with plana := u.plana.aplicar a }
  | .pedir i pid p => { u with colas := Function.update u.colas i (u.colas i ++ [(pid, p)]) }
  | .atender i leido resto =>
    match u.colas i with
    | [] => u
    | (pid, p) :: cola =>
      Usuarios.atender c { u with colas := Function.update u.colas i cola } i leido resto pid p

theorem aplicar_atender {c : ℕ → DialFS.InoutConfig} {u : Usuarios} {i : ℕ}
    {leido : Option (List UInt8)} {resto : List UInt8} {pid : ℤ} {p : Pedido}
    {cola : List (ℤ × Pedido)} (h : u.colas i = (pid, p) :: cola) :
    u.aplicar c (.atender i leido resto) = Usuarios.atender c
      { u with colas := Function.update u.colas i cola } i leido resto pid p := by
  simp only [Usuarios.aplicar, h]

/-! ### What the processes may do -/

/-- The addresses of the process that a request is about. -/
def rangoDe : Pedido → Option (ℤ × ℤ)
  | .stdinRead l n => some (l, n)
  | .stdoutWrite l n => some (l, n)
  | .fsWrite _ l n _ => some (l, n)
  | .fsRead _ l n _ => some (l, n)
  | _ => none

/-- The operands are `int`s, and the addresses are in mapped pages of the process. -/
def Pedible (cfg : MemoriaConfiguracion) (m : Memoria.Estado) (q : ℤ × Pedido) : Prop :=
  InRange q.1 ∧ q.2.EnRango ∧ ∀ r ∈ rangoDe q.2, Memoria.EnPaginas cfg m q.1 r.1 r.2

/-- When a request can be handled: a line is read; the bytes that memoria is asked for have been
written, none is a zero, and the strings of `leer_memoria` hold them; the operation on a file is one
that the store is specified for; and the string that is read from a file is in mapped pages. -/
def Atendible (cfg : MemoriaConfiguracion) (c : ℕ → DialFS.InoutConfig) (u : Usuarios)
    (m : Memoria.Estado) (i : ℕ) (leido : Option (List UInt8)) (resto : List UInt8) (pid : ℤ) :
    Pedido → Prop
  | .genSleep _ => True
  | .stdinRead _ _ => leido.isSome = true
  | .stdoutWrite l n => Memoria.CabeLectura cfg l n ∧ 0 ∉ bytesDe u.plana pid l n
  | .fsCreate nombre => (u.archivos i).Permitida (c i) (.create [] nombre)
  | .fsDelete nombre => (u.archivos i).Permitida (c i) (.delete [] nombre)
  | .fsTruncate nombre n => (u.archivos i).Permitida (c i) (.truncate [] nombre n)
  | .fsWrite nombre l n puntero =>
    (u.archivos i).Permitida (c i) (.write [] nombre l n puntero (bytesDe u.plana pid l n)) ∧
      (puntero + n ≤ ((u.archivos i).contenido nombre).length →
        Memoria.CabeLectura cfg l n ∧ 0 ∉ bytesDe u.plana pid l n)
  | .fsRead nombre l n puntero =>
    (nombre ∈ (u.archivos i).nombres ∧ 0 ≤ puntero ∧ 0 ≤ n ∧
      puntero + n ≤ ((u.archivos i).contenido nombre).length) ∧
    Memoria.EnPaginas cfg m pid l ((u.archivos i).texto nombre n puntero resto).length

/-- There is a request to handle, and it can be handled. -/
def AtendibleCola (cfg : MemoriaConfiguracion) (c : ℕ → DialFS.InoutConfig) (u : Usuarios)
    (m : Memoria.Estado) (i : ℕ) (leido : Option (List UInt8)) (resto : List UInt8) :
    List (ℤ × Pedido) → Prop
  | [] => False
  | (pid, p) :: _ => Atendible cfg c u m i leido resto pid p

/-- When a step can be taken. -/
def Admite (cfg : MemoriaConfiguracion) (c : ℕ → DialFS.InoutConfig) (e : Usuarios × Equipo) :
    Orden → Prop
  | .accion a => Memoria.Admisible cfg e.2.memoria a ∧ a.Cabe cfg
  | .pedir _ pid p => Pedible cfg e.2.memoria (pid, p)
  | .atender i leido resto =>
    AtendibleCola cfg c e.1 e.2.memoria i leido resto (e.1.colas i)

instance : (p : Pedido) → Decidable p.EnRango
  | .genSleep _ => inferInstanceAs (Decidable (InRange _))
  | .stdinRead _ _ => inferInstanceAs (Decidable (InRange _ ∧ InRange _))
  | .stdoutWrite _ _ => inferInstanceAs (Decidable (InRange _ ∧ InRange _))
  | .fsCreate _ => isTrue trivial
  | .fsDelete _ => isTrue trivial
  | .fsTruncate _ _ => inferInstanceAs (Decidable (InRange _))
  | .fsWrite _ _ _ _ => inferInstanceAs (Decidable (InRange _ ∧ InRange _ ∧ InRange _))
  | .fsRead _ _ _ _ => inferInstanceAs (Decidable (InRange _ ∧ InRange _ ∧ InRange _))

instance (cfg : MemoriaConfiguracion) (m : Memoria.Estado) (q : ℤ × Pedido) :
    Decidable (Pedible cfg m q) :=
  inferInstanceAs (Decidable (_ ∧ _ ∧ _))

instance (cfg : MemoriaConfiguracion) (c : ℕ → DialFS.InoutConfig) (u : Usuarios)
    (m : Memoria.Estado) (i : ℕ) (leido : Option (List UInt8)) (resto : List UInt8) (pid : ℤ) :
    (p : Pedido) → Decidable (Atendible cfg c u m i leido resto pid p)
  | .genSleep _ => isTrue trivial
  | .stdinRead _ _ => inferInstanceAs (Decidable (_ = _))
  | .stdoutWrite _ _ => inferInstanceAs (Decidable (Memoria.CabeLectura _ _ _ ∧ _ ∉ _))
  | .fsCreate nombre =>
    inferInstanceAs (Decidable (Almacen.Permitida (c i) (u.archivos i) (.create [] nombre)))
  | .fsDelete nombre =>
    inferInstanceAs (Decidable (Almacen.Permitida (c i) (u.archivos i) (.delete [] nombre)))
  | .fsTruncate nombre n =>
    inferInstanceAs (Decidable (Almacen.Permitida (c i) (u.archivos i) (.truncate [] nombre n)))
  | .fsWrite nombre l n puntero => inferInstanceAs (Decidable (Almacen.Permitida (c i)
      (u.archivos i) (.write [] nombre l n puntero (bytesDe u.plana pid l n)) ∧
        (_ → Memoria.CabeLectura _ _ _ ∧ _ ∉ _)))
  | .fsRead _ _ _ _ => inferInstanceAs (Decidable ((_ ∧ _ ∧ _ ∧ _) ∧ Memoria.EnPaginas _ _ _ _ _))

instance (cfg : MemoriaConfiguracion) (c : ℕ → DialFS.InoutConfig) (u : Usuarios)
    (m : Memoria.Estado) (i : ℕ) (leido : Option (List UInt8)) (resto : List UInt8) :
    (cola : List (ℤ × Pedido)) → Decidable (AtendibleCola cfg c u m i leido resto cola)
  | [] => isFalse id
  | (pid, p) :: _ => inferInstanceAs (Decidable (Atendible cfg c u m i leido resto pid p))

instance (cfg : MemoriaConfiguracion) (c : ℕ → DialFS.InoutConfig) (e : Usuarios × Equipo) :
    (o : Orden) → Decidable (Admite cfg c e o)
  | .accion a => inferInstanceAs (Decidable (Memoria.Admisible cfg e.2.memoria a ∧ a.Cabe cfg))
  | .pedir _ pid p => inferInstanceAs (Decidable (Pedible cfg e.2.memoria (pid, p)))
  | .atender i leido resto =>
    inferInstanceAs (Decidable (AtendibleCola cfg c e.1 e.2.memoria i leido resto (e.1.colas i)))

end SimuladorSO.Sistema
