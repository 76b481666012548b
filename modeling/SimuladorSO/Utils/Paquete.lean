import SimuladorSO.Library.LittleEndian
import SimuladorSO.Library.Readers
import Mathlib.Data.List.TakeWhile

/-!
# Messages and packets on a connection

The frames of `utils.c`: the code of the operation, the size, and that many bytes.  The bytes of a
message are a text with its terminator; those of a packet are values, each after its own size.

* `enviarMensaje`, `crearPaquete`, `agregarAPaquete`, `enviarPaquete`: the writer;
* `recibirOperacion`, `leerMensaje`, `recibirPaquete`: the reader, and `recibirTodo` the loop of the
  servers;
* `formato_ida_y_vuelta`: the reader recovers what the writer was given.

`none` is undefined behaviour of C, an allocation of a negative size, or a read that waits for more
bytes than there are.
-/

namespace SimuladorSO.Utils

open CInt LittleEndian Readers

/-- A C string: the bytes before its terminator. -/
structure Texto where
  bytes : List UInt8
  sinNulos : 0 ∉ bytes

/-- A text in memory. -/
def Texto.enMemoria (t : Texto) : List UInt8 := t.bytes ++ [0]

/-- The text at the beginning of a buffer; there must be a terminator. -/
def leerTexto (buffer : List UInt8) : Option Texto :=
  if 0 ∈ buffer then
    some ⟨buffer.takeWhile (· ≠ 0), fun h => by simpa using List.mem_takeWhile_imp h⟩
  else none

/-- `op_code`. -/
inductive OpCode
  | MENSAJE
  | PAQUETE

/-- The value of the enumeration. -/
def OpCode.valor : OpCode → ℤ
  | .MENSAJE => 0
  | .PAQUETE => 1

theorem OpCode.inRange (codigo : OpCode) : InRange codigo.valor := by
  cases codigo <;> decide

/-- `t_buffer`. -/
structure Buffer where
  size : ℤ
  stream : List UInt8

/-- `t_paquete`. -/
structure Paquete where
  codigoOperacion : OpCode
  buffer : Buffer

/-- `memcpy` of `n` bytes from an offset of a region.  A negative `n` is a `size_t` larger than
any region. -/
def memcpy (origen : List UInt8) (desplazamiento n : ℤ) : Option (List UInt8) :=
  if 0 ≤ desplazamiento ∧ 0 ≤ n ∧ desplazamiento + n ≤ origen.length then
    some ((origen.drop desplazamiento.toNat).take n.toNat)
  else none

/-! ### The writer -/

/-- `serializar_paquete`: an allocation of `bytes` bytes, the two `int`s and the stream. -/
def serializarPaquete (paquete : Paquete) (bytes : ℤ) : Option (List UInt8) :=
  if 0 ≤ bytes then
    (memcpy paquete.buffer.stream 0 paquete.buffer.size).map fun stream =>
      intBytes paquete.codigoOperacion.valor ++ (intBytes paquete.buffer.size ++ stream)
  else none

/-- `enviar_paquete`: the bytes that are written. -/
def enviarPaquete (paquete : Paquete) : Option (List UInt8) :=
  serializarPaquete paquete (int32 (paquete.buffer.size + 2 * 4))

/-- `enviar_mensaje`: the size is `strlen` and the terminator, in an `int`. -/
def enviarMensaje (mensaje : Texto) : Option (List UInt8) :=
  let size := int32 (mensaje.bytes.length + 1)
  (memcpy mensaje.enMemoria 0 size).bind fun stream => enviarPaquete ⟨.MENSAJE, ⟨size, stream⟩⟩

/-- `crear_paquete`. -/
def crearPaquete : Paquete := ⟨.PAQUETE, ⟨0, []⟩⟩

/-- `agregar_a_paquete`: the sum of the two sizes is one of `int`s, which must not overflow. -/
def agregarAPaquete (paquete : Paquete) (valor : List UInt8) (tamanio : ℤ) : Option Paquete :=
  if 0 ≤ paquete.buffer.size ∧ InRange (paquete.buffer.size + tamanio) then
    (memcpy valor 0 tamanio).map fun bytes =>
      { paquete with buffer :=
        ⟨int32 (paquete.buffer.size + (tamanio + 4)),
          paquete.buffer.stream ++ (intBytes tamanio ++ bytes)⟩ }
  else none

/-- The calls of `agregar_a_paquete` with whole values. -/
def agregarTodos (paquete : Paquete) (valores : List (List UInt8)) : Option Paquete :=
  valores.foldlM (fun paquete valor => agregarAPaquete paquete valor (int32 valor.length)) paquete

/-! ### The reader -/

/-- `recv` with `MSG_WAITALL`. -/
def recv (n : ℤ) : Reader UInt8 (List UInt8) :=
  fun s => if 0 ≤ n then take n.toNat s else none

/-- `recibir_operacion`: a closed connection is -1. -/
def recibirOperacion : Reader UInt8 ℤ
  | [] => some (-1, [])
  | s => (recv 4 s).map fun r => (intValue r.1, r.2)

/-- The size of a buffer, of an `int`. -/
def recibirSize : Reader UInt8 ℤ := fun s => (recv 4 s).map fun r => (intValue r.1, r.2)

/-- `recibir_buffer`. -/
def recibirBuffer : Reader UInt8 (ℤ × List UInt8) :=
  andThen recibirSize fun size s => (recv size s).map fun r => ((size, r.1), r.2)

/-- `leer_mensaje`. -/
def leerMensaje : Reader UInt8 (List UInt8) :=
  fun s => (recibirBuffer s).map fun r => (r.1.2, r.2)

/-- The loop of `recibir_paquete` over the buffer.  Each iteration passes four bytes at least, so
the fuel is never what stops it. -/
def recorrer (buffer : List UInt8) (size : ℤ) :
    ℕ → ℤ → List (List UInt8) → Option (List (List UInt8))
  | 0, _, _ => none
  | n + 1, desplazamiento, valores =>
    if desplazamiento < size then
      (memcpy buffer desplazamiento 4).bind fun bytes =>
        let tamanio := intValue bytes
        (memcpy buffer (desplazamiento + 4) tamanio).bind fun valor =>
          recorrer buffer size n (desplazamiento + 4 + tamanio) (valores ++ [valor])
    else some valores

/-- `recibir_paquete`. -/
def recibirPaquete : Reader UInt8 (List (List UInt8)) := fun s =>
  (recibirBuffer s).bind fun r =>
    (recorrer r.1.2 r.1.1 (r.1.2.length + 1) 0 []).map fun valores => (valores, r.2)

/-- A message, or the values of a packet. -/
inductive Trama
  | mensaje (texto : Texto)
  | paquete (valores : List (List UInt8))

/-- What a server reads after the code of the operation. -/
def recibirContenido (codOp : ℤ) : Reader UInt8 Trama := fun s =>
  if codOp = OpCode.MENSAJE.valor then
    (leerMensaje s).bind fun r => (leerTexto r.1).map fun texto => (.mensaje texto, r.2)
  else if codOp = OpCode.PAQUETE.valor then
    (recibirPaquete s).map fun r => (.paquete r.1, r.2)
  else none

/-- The loop of the servers: -1 ends it, and an unknown operation is passed over.  What it received,
and what it left. -/
def recibirTodo : ℕ → List UInt8 → Option (List Trama × List UInt8)
  | 0, _ => none
  | n + 1, s =>
    (recibirOperacion s).bind fun r =>
      if r.1 = OpCode.MENSAJE.valor ∨ r.1 = OpCode.PAQUETE.valor then
        (recibirContenido r.1 r.2).bind fun c =>
          (recibirTodo n c.2).map fun resto => (c.1 :: resto.1, resto.2)
      else if r.1 = -1 then some ([], r.2)
      else recibirTodo n r.2

/-! ### What a program sends -/

/-- The call that sends a message, or builds a packet and sends it. -/
def Trama.enviar : Trama → Option (List UInt8)
  | .mensaje texto => enviarMensaje texto
  | .paquete valores => (agregarTodos crearPaquete valores).bind enviarPaquete

/-- The bytes of several calls, one after another. -/
def enviarTodo (tramas : List Trama) : Option (List UInt8) :=
  (tramas.mapM Trama.enviar).map List.flatten

/-- The values of a packet on the wire. -/
def valoresEnBytes (valores : List (List UInt8)) : List UInt8 :=
  valores.flatMap fun valor => intBytes valor.length ++ valor

/-- The contents of a frame. -/
def Trama.contenido : Trama → List UInt8
  | .mensaje texto => texto.enMemoria
  | .paquete valores => valoresEnBytes valores

/-- The operation of a frame. -/
def Trama.codigo : Trama → OpCode
  | .mensaje _ => .MENSAJE
  | .paquete _ => .PAQUETE

/-- The bytes of a frame. -/
def Trama.bytes (t : Trama) : List UInt8 :=
  intBytes t.codigo.valor ++ (intBytes t.contenido.length ++ t.contenido)

/-- The frame, with its two `int`s, is smaller than an `int` can say. -/
def Trama.Cabe (t : Trama) : Prop := t.bytes.length < 2 ^ 31

instance (t : Trama) : Decidable t.Cabe := inferInstanceAs (Decidable (_ < _))

variable {t : Trama} {texto : Texto} {valores : List (List UInt8)}

/-! ### The writer writes the frame -/

theorem memcpy_todo (origen : List UInt8) : memcpy origen 0 origen.length = some origen := by
  unfold memcpy
  rw [if_pos ⟨le_rfl, by omega, by omega⟩, Int.toNat_natCast, Int.toNat_zero, List.drop_zero,
    List.take_length]

theorem memcpy_medio (antes medio despues : List UInt8) :
    memcpy (antes ++ (medio ++ despues)) antes.length medio.length = some medio := by
  unfold memcpy
  rw [if_pos ⟨by omega, by omega, by simp only [List.length_append]; push_cast; omega⟩,
    Int.toNat_natCast, Int.toNat_natCast, List.drop_left, List.take_left]

theorem Trama.bytes_length (t : Trama) : t.bytes.length = 8 + t.contenido.length := by
  unfold Trama.bytes
  rw [List.length_append, List.length_append, intBytes_length, intBytes_length]
  omega

/-- The contents of a frame leave room for its two `int`s. -/
theorem Trama.Cabe.contenido (h : t.Cabe) : t.contenido.length + 8 < 2 ^ 31 := by
  unfold Trama.Cabe at h
  rw [Trama.bytes_length] at h
  omega

@[simp] theorem valoresEnBytes_nil : valoresEnBytes [] = [] := rfl

theorem valoresEnBytes_cons (valor : List UInt8) (valores : List (List UInt8)) :
    valoresEnBytes (valor :: valores) =
      (intBytes valor.length ++ valor) ++ valoresEnBytes valores :=
  List.flatMap_cons ..

/-- Fewer values take fewer bytes. -/
theorem length_valoresEnBytes_le {l l' : List (List UInt8)} (h : l.Sublist l') :
    (valoresEnBytes l).length ≤ (valoresEnBytes l').length := by
  induction h with
  | slnil => exact le_rfl
  | cons valor _ ih =>
    rw [valoresEnBytes_cons, List.length_append]
    omega
  | cons_cons valor _ ih =>
    simp only [valoresEnBytes_cons, List.length_append]
    omega

theorem cabe_paquete_iff :
    (Trama.paquete valores).Cabe ↔ 8 + (valoresEnBytes valores).length < 2 ^ 31 := by
  unfold Trama.Cabe
  rw [Trama.bytes_length]
  exact Iff.rfl

/-- A packet with fewer values fits too. -/
theorem Trama.Cabe.sublist {l l' : List (List UInt8)} (h : (Trama.paquete l').Cabe)
    (hsub : l.Sublist l') : (Trama.paquete l).Cabe := by
  rw [cabe_paquete_iff] at h ⊢
  have hle := length_valoresEnBytes_le hsub
  omega

/-- A packet that knows its size is written as a frame. -/
theorem enviarPaquete_eq (codigo : OpCode) {stream : List UInt8} (h : stream.length + 8 < 2 ^ 31) :
    enviarPaquete ⟨codigo, ⟨stream.length, stream⟩⟩ =
      some (intBytes codigo.valor ++ (intBytes stream.length ++ stream)) := by
  unfold enviarPaquete serializarPaquete
  show (if 0 ≤ int32 ((stream.length : ℤ) + 2 * 4) then
    (memcpy stream 0 stream.length).map _ else none) = _
  rw [int32_of_inRange ⟨by omega, by omega⟩, if_pos (by omega), memcpy_todo]
  rfl

/-- One more value, while there is room. -/
theorem agregarAPaquete_eq {codigo : OpCode} {stream valor : List UInt8}
    (h : stream.length + (4 + valor.length) < 2 ^ 31) :
    agregarAPaquete ⟨codigo, ⟨stream.length, stream⟩⟩ valor (int32 valor.length) =
      some ⟨codigo, ⟨(stream ++ (intBytes valor.length ++ valor)).length,
        stream ++ (intBytes valor.length ++ valor)⟩⟩ := by
  have hsize : int32 ((stream.length : ℤ) + (valor.length + 4)) =
      (stream ++ (intBytes valor.length ++ valor)).length := by
    rw [int32_of_inRange ⟨by omega, by omega⟩, List.length_append, List.length_append,
      intBytes_length]
    push_cast
    omega
  unfold agregarAPaquete
  rw [int32_of_inRange (x := valor.length) ⟨by omega, by omega⟩]
  show (if 0 ≤ (stream.length : ℤ) ∧ InRange (stream.length + valor.length) then
    (memcpy valor 0 valor.length).map _ else none) = _
  rw [if_pos ⟨by omega, by omega, by omega⟩, memcpy_todo]
  show some (Paquete.mk codigo ⟨int32 ((stream.length : ℤ) + (valor.length + 4)), _⟩) = _
  rw [hsize]

/-- A packet holds its values one after another, each with its size. -/
theorem agregarTodos_eq (codigo : OpCode) (stream : List UInt8) (valores : List (List UInt8))
    (h : stream.length + (valoresEnBytes valores).length < 2 ^ 31) :
    agregarTodos ⟨codigo, ⟨stream.length, stream⟩⟩ valores =
      some ⟨codigo, ⟨(stream ++ valoresEnBytes valores).length,
        stream ++ valoresEnBytes valores⟩⟩ := by
  induction valores generalizing stream with
  | nil =>
    rw [valoresEnBytes_nil, List.append_nil]
    rfl
  | cons valor valores ih =>
    rw [valoresEnBytes_cons] at h ⊢
    rw [List.length_append, List.length_append, intBytes_length] at h
    have htodos := ih (stream ++ (intBytes valor.length ++ valor)) (by
      rw [List.length_append, List.length_append, intBytes_length]
      omega)
    rw [List.append_assoc] at htodos
    rw [agregarTodos, List.foldlM_cons, agregarAPaquete_eq (by omega)]
    exact htodos

theorem agregarTodos_append (paquete : Paquete) (antes despues : List (List UInt8)) :
    agregarTodos paquete (antes ++ despues) =
      (agregarTodos paquete antes).bind fun paquete => agregarTodos paquete despues := by
  unfold agregarTodos
  rw [List.foldlM_append]
  rfl

/-- The `int` of the size of a packet does not hold one more value that is too long for it. -/
theorem agregarTodos_desborda {antes : List (List UInt8)} {valor : List UInt8}
    (hantes : (valoresEnBytes antes).length < 2 ^ 31) (hvalor : valor.length < 2 ^ 31)
    (h : 2 ^ 31 ≤ (valoresEnBytes antes).length + valor.length) :
    agregarTodos crearPaquete (antes ++ [valor]) = none := by
  have hpaquete : agregarTodos crearPaquete antes =
      some ⟨.PAQUETE, ⟨(valoresEnBytes antes).length, valoresEnBytes antes⟩⟩ :=
    agregarTodos_eq _ [] antes (by rw [List.length_nil]; omega)
  have hultimo : agregarAPaquete
      ⟨.PAQUETE, ⟨(valoresEnBytes antes).length, valoresEnBytes antes⟩⟩ valor
        (int32 valor.length) = none := by
    unfold agregarAPaquete
    rw [int32_of_inRange (x := valor.length) ⟨by omega, by omega⟩]
    refine if_neg ?_
    rintro ⟨-, -, hlt⟩
    have hlt : ((valoresEnBytes antes).length : ℤ) + valor.length < 2 ^ 31 := hlt
    omega
  rw [agregarTodos_append, hpaquete, Option.bind_some, agregarTodos, List.foldlM_cons, hultimo]
  rfl

/-- **A call writes its frame.** -/
theorem enviar_eq (h : t.Cabe) : t.enviar = some t.bytes := by
  have hlt := h.contenido
  cases t with
  | mensaje texto =>
    have hlen : (texto.enMemoria.length : ℤ) = texto.bytes.length + 1 := by
      rw [Texto.enMemoria, List.length_append]
      rfl
    change texto.enMemoria.length + 8 < 2 ^ 31 at hlt
    show enviarMensaje texto = _
    unfold enviarMensaje
    rw [← hlen, int32_of_inRange ⟨by omega, by omega⟩]
    show (memcpy texto.enMemoria 0 texto.enMemoria.length).bind _ = _
    rw [memcpy_todo, Option.bind_some]
    exact enviarPaquete_eq _ hlt
  | paquete valores =>
    change (valoresEnBytes valores).length + 8 < 2 ^ 31 at hlt
    have hpaquete : agregarTodos crearPaquete valores =
        some ⟨.PAQUETE, ⟨(valoresEnBytes valores).length, valoresEnBytes valores⟩⟩ :=
      agregarTodos_eq _ [] valores (by rw [List.length_nil]; omega)
    show (agregarTodos crearPaquete valores).bind enviarPaquete = _
    rw [hpaquete, Option.bind_some]
    exact enviarPaquete_eq _ hlt

theorem enviarTodo_eq {tramas : List Trama} (h : ∀ t ∈ tramas, t.Cabe) :
    enviarTodo tramas = some (tramas.flatMap Trama.bytes) := by
  have hmap : tramas.mapM Trama.enviar = some (tramas.map Trama.bytes) := by
    induction tramas with
    | nil => rfl
    | cons t tramas ih =>
      rw [List.mapM_cons, enviar_eq (h t List.mem_cons_self),
        ih fun u hu => h u (List.mem_cons_of_mem _ hu)]
      rfl
  rw [enviarTodo, hmap, List.flatMap_def]
  rfl

/-! ### The reader reads the frame -/

theorem reads_recv (front : List UInt8) : Reads (recv front.length) front front := by
  intro rest
  unfold recv
  rw [if_pos (by omega), Int.toNat_natCast]
  exact reads_take rfl rest

theorem reads_recibirSize {n : ℤ} (h : InRange n) : Reads recibirSize (intBytes n) n := by
  have hcuatro := reads_recv (intBytes n)
  rw [intBytes_length] at hcuatro
  have hsize := hcuatro.map intValue
  rwa [intValue_intBytes h] at hsize

theorem reads_recibirBuffer {contenido : List UInt8} (h : contenido.length < 2 ^ 31) :
    Reads recibirBuffer (intBytes contenido.length ++ contenido)
      (contenido.length, contenido) :=
  (reads_recibirSize ⟨by omega, by omega⟩).andThen ((reads_recv contenido).map fun b => (_, b))

theorem recibirOperacion_eq {s : List UInt8} (h : s ≠ []) : recibirOperacion s = recibirSize s := by
  cases s with
  | nil => exact absurd rfl h
  | cons b s => rfl

theorem reads_recibirOperacion {n : ℤ} (h : InRange n) :
    Reads recibirOperacion (intBytes n) n := by
  intro rest
  have hne : intBytes n ++ rest ≠ [] := by
    intro hnil
    have hlen := intBytes_length n
    rw [(List.append_eq_nil_iff.1 hnil).1] at hlen
    cases hlen
  rw [recibirOperacion_eq hne]
  exact reads_recibirSize h rest

/-- A value and its size, in the middle of a buffer. -/
theorem memcpy_valor (antes valor despues : List UInt8) :
    memcpy (antes ++ ((intBytes valor.length ++ valor) ++ despues)) antes.length 4 =
        some (intBytes valor.length) ∧
      memcpy (antes ++ ((intBytes valor.length ++ valor) ++ despues)) (antes.length + 4)
        valor.length = some valor := by
  constructor
  · have hmedio := memcpy_medio antes (intBytes valor.length) (valor ++ despues)
    rw [intBytes_length] at hmedio
    rw [List.append_assoc]
    exact hmedio
  · have hmedio := memcpy_medio (antes ++ intBytes valor.length) valor despues
    rw [List.length_append, intBytes_length] at hmedio
    rw [List.append_assoc, ← List.append_assoc antes]
    exact_mod_cast hmedio

/-- The loop over a buffer, from any of its values on. -/
theorem recorrer_eq (valores : List (List UInt8)) (antes : List UInt8)
    (h : antes.length + (valoresEnBytes valores).length < 2 ^ 31) {n : ℕ}
    (hn : valores.length < n) (leidos : List (List UInt8)) :
    recorrer (antes ++ valoresEnBytes valores) (antes ++ valoresEnBytes valores).length n
      antes.length leidos = some (leidos ++ valores) := by
  induction valores generalizing antes n leidos with
  | nil =>
    obtain ⟨n, rfl⟩ : ∃ k, n = k + 1 := ⟨n - 1, by omega⟩
    rw [valoresEnBytes_nil, List.append_nil, recorrer, if_neg (lt_irrefl _),
      List.append_nil]
  | cons valor valores ih =>
    obtain ⟨n, rfl⟩ : ∃ k, n = k + 1 := ⟨n - 1, by omega⟩
    rw [valoresEnBytes_cons] at h ⊢
    simp only [List.length_append, intBytes_length] at h
    obtain ⟨hsize, hvalor⟩ := memcpy_valor antes valor (valoresEnBytes valores)
    have hlt : (antes.length : ℤ) <
        (antes ++ ((intBytes valor.length ++ valor) ++ valoresEnBytes valores)).length := by
      simp only [List.length_append, intBytes_length]
      push_cast
      omega
    have hresto := ih (antes ++ (intBytes valor.length ++ valor))
      (by simp only [List.length_append, intBytes_length]; omega)
      (Nat.lt_of_succ_lt_succ hn) (leidos ++ [valor])
    have hdesplazamiento : (antes.length : ℤ) + 4 + valor.length =
        (antes ++ (intBytes valor.length ++ valor)).length := by
      simp only [List.length_append, intBytes_length]
      push_cast
      omega
    rw [List.append_assoc] at hresto
    rw [recorrer, if_pos hlt, hsize, Option.bind_some]
    dsimp only
    rw [intValue_intBytes ⟨by omega, by omega⟩, hvalor, Option.bind_some, hdesplazamiento, hresto,
      List.append_assoc]
    rfl

/-- There are no more values than bytes. -/
theorem length_le_valoresEnBytes (valores : List (List UInt8)) :
    valores.length ≤ (valoresEnBytes valores).length := by
  induction valores with
  | nil => exact le_rfl
  | cons valor valores ih =>
    rw [valoresEnBytes_cons, List.length_append, List.length_append, intBytes_length, List.length_cons]
    omega

/-- **`recibir_paquete` reads the values of a packet.** -/
theorem reads_recibirPaquete (h : (valoresEnBytes valores).length < 2 ^ 31) :
    Reads recibirPaquete
      (intBytes (valoresEnBytes valores).length ++ valoresEnBytes valores) valores := by
  intro rest
  have hrecorrer := recorrer_eq valores [] (by rw [List.length_nil]; omega)
    (Nat.lt_succ_of_le (length_le_valoresEnBytes valores)) []
  unfold recibirPaquete
  rw [reads_recibirBuffer h rest, Option.bind_some]
  show (recorrer (valoresEnBytes valores) (valoresEnBytes valores).length _ 0 []).map _ = _
  rw [List.nil_append] at hrecorrer
  exact congrArg _ hrecorrer

/-- A frame with a packet is received in two steps, as the loops of the programs do. -/
theorem Trama.Cabe.recibirPaquete (h : (Trama.paquete valores).Cabe) :
    ∃ s, recibirOperacion (Trama.paquete valores).bytes = some (OpCode.PAQUETE.valor, s) ∧
      Utils.recibirPaquete s = some (valores, []) := by
  have hlt : (valoresEnBytes valores).length < 2 ^ 31 := by
    have hcontenido : (valoresEnBytes valores).length + 8 < 2 ^ 31 := h.contenido
    omega
  have hreads := reads_recibirPaquete hlt []
  rw [List.append_nil] at hreads
  refine ⟨_, ?_, hreads⟩
  rw [Trama.bytes, reads_recibirOperacion (Trama.paquete valores).codigo.inRange]
  rfl

/-- A text in memory is read up to its terminator. -/
@[simp] theorem leerTexto_enMemoria (texto : Texto) : leerTexto texto.enMemoria = some texto := by
  obtain ⟨bytes, hnulos⟩ := texto
  have hmem : (0 : UInt8) ∈ bytes ++ [0] := by simp
  have htake : (bytes ++ [0]).takeWhile (· ≠ 0) = bytes := by
    rw [List.takeWhile_append_of_pos fun b hb => by
      have hne : b ≠ 0 := fun h0 => hnulos (h0 ▸ hb)
      simpa using hne]
    simp
  unfold leerTexto Texto.enMemoria
  rw [if_pos hmem]
  simp only [htake]

theorem reads_recibirContenido (h : t.Cabe) :
    Reads (recibirContenido t.codigo.valor) (intBytes t.contenido.length ++ t.contenido) t := by
  have hlt : t.contenido.length < 2 ^ 31 := by
    have hcontenido := h.contenido
    omega
  intro rest
  unfold recibirContenido
  cases t with
  | mensaje texto =>
    rw [if_pos (show (Trama.mensaje texto).codigo.valor = OpCode.MENSAJE.valor from rfl)]
    unfold leerMensaje
    rw [reads_recibirBuffer hlt rest, Option.map_some, Option.bind_some]
    show (leerTexto texto.enMemoria).map _ = _
    rw [leerTexto_enMemoria]
    rfl
  | paquete valores =>
    have hpaquete : (Trama.paquete valores).codigo.valor = OpCode.PAQUETE.valor := rfl
    rw [if_neg (by rw [hpaquete]; decide), if_pos hpaquete]
    show (recibirPaquete (intBytes (valoresEnBytes valores).length ++ valoresEnBytes valores ++
      rest)).map _ = _
    rw [reads_recibirPaquete hlt rest]
    rfl

/-- One turn of the loop receives one frame. -/
theorem recibirTodo_trama (h : t.Cabe) (n : ℕ) (s : List UInt8) :
    recibirTodo (n + 1) (t.bytes ++ s) =
      (recibirTodo n s).map fun resto => (t :: resto.1, resto.2) := by
  have hcodigo : t.codigo.valor = OpCode.MENSAJE.valor ∨ t.codigo.valor = OpCode.PAQUETE.valor := by
    cases t
    · exact Or.inl rfl
    · exact Or.inr rfl
  rw [recibirTodo, Trama.bytes, List.append_assoc, reads_recibirOperacion t.codigo.inRange,
    Option.bind_some]
  dsimp only
  rw [if_pos hcodigo, reads_recibirContenido h, Option.bind_some]

/-- **What is sent is what is received**: any messages and packets, in the order in which they were
written, and nothing is left. -/
theorem formato_ida_y_vuelta {tramas : List Trama} (h : ∀ t ∈ tramas, t.Cabe) {n : ℕ}
    (hn : tramas.length < n) :
    ∃ s, enviarTodo tramas = some s ∧ recibirTodo n s = some (tramas, []) := by
  refine ⟨_, enviarTodo_eq h, ?_⟩
  induction tramas generalizing n with
  | nil =>
    obtain ⟨n, rfl⟩ : ∃ k, n = k + 1 := ⟨n - 1, by omega⟩
    rfl
  | cons t tramas ih =>
    obtain ⟨n, rfl⟩ : ∃ k, n = k + 1 := ⟨n - 1, by omega⟩
    rw [List.length_cons] at hn
    rw [List.flatMap_cons, recibirTodo_trama (h t List.mem_cons_self),
      ih (fun u hu => h u (List.mem_cons_of_mem _ hu)) (by omega)]
    rfl

/-- A message, a packet with an empty value, and an empty packet. -/
theorem formato_ida_y_vuelta_tres :
    ∃ s, enviarTodo [.mensaje ⟨[72, 105], by decide⟩, .paquete [[], [1, 0, 2]], .paquete []] =
        some s ∧
      recibirTodo 4 s =
        some ([.mensaje ⟨[72, 105], by decide⟩, .paquete [[], [1, 0, 2]], .paquete []], []) :=
  formato_ida_y_vuelta (by decide) (by decide)

/-- A message that comes without a terminator is not a text. -/
theorem recibirTodo_sin_terminador {contenido : List UInt8} (hnulos : 0 ∉ contenido)
    (hlt : contenido.length < 2 ^ 31) (n : ℕ) :
    recibirTodo n (intBytes OpCode.MENSAJE.valor ++ (intBytes contenido.length ++ contenido)) =
      none := by
  cases n with
  | zero => rfl
  | succ n =>
    have hbuffer := reads_recibirBuffer hlt []
    rw [List.append_nil] at hbuffer
    have hcontenido : recibirContenido OpCode.MENSAJE.valor
        (intBytes contenido.length ++ contenido) = none := by
      unfold recibirContenido leerMensaje leerTexto
      rw [if_pos rfl, hbuffer, Option.map_some, Option.bind_some, if_neg hnulos, Option.map_none]
    rw [recibirTodo, reads_recibirOperacion OpCode.MENSAJE.inRange, Option.bind_some]
    dsimp only
    rw [if_pos (Or.inl rfl), hcontenido, Option.bind_none]

/-- The size of a text of 4 GiB and its terminator, in an `int`, is that of its first byte. -/
theorem enMemoria_largo {b : UInt8} {bs : List UInt8} (h : texto.bytes = b :: bs)
    (hlen : texto.bytes.length = 2 ^ 32) :
    int32 ((texto.bytes.length : ℤ) + 1) = 1 ∧ memcpy texto.enMemoria 0 1 = some [b] := by
  constructor
  · rw [hlen]
    decide
  · unfold Texto.enMemoria
    rw [h]
    exact memcpy_medio [] [b] (bs ++ [0])

/-- Of a message of 4 GiB one byte is sent. -/
theorem enviarMensaje_largo {b : UInt8} {bs : List UInt8} (h : texto.bytes = b :: bs)
    (hlen : texto.bytes.length = 2 ^ 32) :
    enviarMensaje texto =
      some (intBytes OpCode.MENSAJE.valor ++ (intBytes [b].length ++ [b])) := by
  obtain ⟨hsize, hbyte⟩ := enMemoria_largo h hlen
  unfold enviarMensaje
  rw [hsize]
  show (memcpy texto.enMemoria 0 1).bind _ = _
  rw [hbyte, Option.bind_some]
  have hfrente : enviarPaquete ⟨.MENSAJE, ⟨([b].length : ℕ), [b]⟩⟩ = _ :=
    enviarPaquete_eq _ (by rw [List.length_singleton]; norm_num)
  exact hfrente

/-- A text of 4 GiB. -/
theorem exists_texto_largo : ∃ texto : Texto, texto.bytes = List.replicate (2 ^ 32) 97 ∧
    texto.bytes = 97 :: List.replicate (2 ^ 32 - 1) 97 ∧ texto.bytes.length = 2 ^ 32 := by
  have hnulos : (0 : UInt8) ∉ List.replicate (2 ^ 32) 97 := fun h =>
    absurd (List.eq_of_mem_replicate h) (by decide)
  have hcons : List.replicate (2 ^ 32) (97 : UInt8) = 97 :: List.replicate (2 ^ 32 - 1) 97 :=
    (congrArg (List.replicate · 97) (by norm_num : 2 ^ 32 = 2 ^ 32 - 1 + 1)).trans
      List.replicate_succ
  exact ⟨⟨List.replicate (2 ^ 32) 97, hnulos⟩, rfl, hcons, List.length_replicate⟩

/-- **A message of 4 GiB does not come back**: one byte of it is sent, without a terminator. -/
theorem mensaje_largo_no_vuelve :
    ∃ texto : Texto, texto.bytes = List.replicate (2 ^ 32) 97 ∧
      ∃ s, enviarTodo [.mensaje texto] = some s ∧
        ∀ n, recibirTodo n s ≠ some ([.mensaje texto], []) := by
  obtain ⟨texto, htexto, hcons, hlen⟩ := exists_texto_largo
  have henviar := enviarMensaje_largo hcons hlen
  refine ⟨texto, htexto, intBytes OpCode.MENSAJE.valor ++
    (intBytes [(97 : UInt8)].length ++ [97]), ?_, fun n => ?_⟩
  · rw [enviarTodo, List.mapM_cons, Trama.enviar, henviar]
    rfl
  · rw [recibirTodo_sin_terminador (by decide) (by decide)]
    exact nofun

end SimuladorSO.Utils
