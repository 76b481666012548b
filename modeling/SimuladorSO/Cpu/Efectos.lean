import SimuladorSO.Cpu.Instrucciones
import SimuladorSO.Library.LittleEndian
import SimuladorSO.Library.Tracing

/-!
# What an instruction does

All that the instructions of `cpu.c` do: the requests to memoria and the packets to the kernel, in
their order, and the registers after them.

* `hacerInstruccion`: the instructions as computations that leave a trace;
* `traducir_denegado`, `traducir_concedido`: what a translation leaves in it;
* `hacerInstruccion_anuncia`: its packets are those of the model of the packets.
-/

namespace SimuladorSO.Cpu.Efectos

open CInt Commons LittleEndian Tracing

/-- What is sent: a request to memoria, with its answer for `MARCO`, or a packet to the kernel. -/
inductive Efecto
  | marco (nroPagina marco : ℤ)
  | leer (direccionFisica : ℤ) (tamLectura : Cadena)
  | escribir (direccionFisica tamanio : ℤ) (dato : List UInt8)
  | resize (nuevoTam : Cadena)
  | kernel (paquete : Paquete)
  deriving DecidableEq

/-- What an instruction reads: also memoria's answer to `LEER`, which is no packet when the read
failed. -/
structure Contexto extends Cpu.Contexto where
  leido : ℤ → Cadena → Option (List UInt8)

variable (cpu : CpuConfiguracion) (tamPagina : ℕ) (pid : ℕ) (c : Contexto)

/-- `obtener_marco_memoria` and `recibir_marco_memoria`: what is sent. -/
def obtenerMarcoMemoria (nroPagina : ℤ) : List Efecto :=
  let marco := c.obtenerMarcoMemoria nroPagina
  .marco nroPagina marco ::
    if marco = -1 then [.kernel ⟨pid, "DENIED_ACCESS".toList, []⟩] else []

/-- `obtener_direccion_fisica` on the address in a register: memoria is asked on a miss, or when
there is no TLB. -/
def traducir (registro : Cadena) : Traced Efecto (ℤ × Contexto) where
  effects :=
    let nroPagina := obtenerPagina tamPagina (obtenerValor c.registros registro)
    if cpu.cantidadEntradasTlb = 0 ∨ buscarEnTlb c.tlb pid nroPagina = -1 then
      obtenerMarcoMemoria pid c nroPagina
    else []
  value :=
    (obtenerDireccionFisica cpu tamPagina c.obtenerMarcoMemoria c.tlb
      (obtenerValor c.registros registro) pid).map fun (direccionFisica, tlb) =>
        (direccionFisica, { c with tlb := tlb })

/-- A request `LEER` and its answer, copied up to its end as a C string. -/
def leerMemoria (direccionFisica : ℤ) (tamLectura : Cadena) : Traced Efecto (List UInt8) where
  effects := [.leer direccionFisica tamLectura]
  value := c.leido direccionFisica tamLectura

/-! ### Instructions -/

/-- `set`. -/
def set (registro valor : Cadena) : Registros := setearValor c.registros registro (atoi valor)

/-- `sum`. -/
def sum (registroDestino registroOrigen : Cadena) : Registros :=
  setearValor c.registros registroDestino
    (obtenerValor c.registros registroDestino + obtenerValor c.registros registroOrigen)

/-- `sub`. -/
def sub (registroDestino registroOrigen : Cadena) : Registros :=
  setearValor c.registros registroDestino
    (obtenerValor c.registros registroDestino - obtenerValor c.registros registroOrigen)

/-- `jnz`. -/
def jnz (registro instruccion : Cadena) : Registros :=
  if obtenerValor c.registros registro ≠ 0 then
    { c.registros with pc := UInt32.ofInt (atoi instruccion) }
  else c.registros

/-- `mov_in`: without an address the text is a literal, and freeing it does not come back. -/
def movIn (registroDatos registroDireccion : Cadena) : Traced Efecto Registros := do
  let (direccionFisica, c) ← traducir cpu tamPagina pid c registroDireccion
  if direccionFisica ≠ -1 then
    let leido ← leerMemoria c direccionFisica "4".toList
    if stringEqualsIgnoreCase (texto leido) "ERROR".toList then pure c.registros
    else pure (set c registroDatos (texto leido))
  else ofOption none

/-- `mov_out`. -/
def movOut (registroDireccion registroDatos : Cadena) : Traced Efecto Registros := do
  let valor := obtenerValor c.registros registroDatos
  let tamanio := obtenerTamanioRegistro registroDatos
  let (direccionFisica, c) ← traducir cpu tamPagina pid c registroDireccion
  if direccionFisica ≠ -1 then
    emit [.escribir direccionFisica tamanio ((intBytes valor).take tamanio.toNat)]
  pure c.registros

/-- `resize`. -/
def resize (nuevoTam : Cadena) : Traced Efecto Registros := do
  emit [.resize nuevoTam]
  emit ((Cpu.resize pid c.toContexto nuevoTam).map .kernel)
  pure c.registros

/-- `copy_string`: the text is read at the first address and written at the second one, with its
final zero, whatever they are. -/
def copyString (tam : Cadena) : Traced Efecto Registros := do
  let (direccionLeer, c) ← traducir cpu tamPagina pid c "SI".toList
  let dato ← leerMemoria c direccionLeer tam
  let (direccionEscribir, c) ← traducir cpu tamPagina pid c "DI".toList
  emit [.escribir direccionEscribir dato.length (dato ++ [0])]
  pure c.registros

/-- `io_stdout_write_o_stdin_read`. -/
def ioStdoutWriteOStdinRead (instruccion interfaz registroDireccion registroTam : Cadena) :
    Traced Efecto Registros := do
  let (direccionFisica, c) ← traducir cpu tamPagina pid c registroDireccion
  emit [.kernel ⟨pid, instruccion,
    [interfaz, itoa direccionFisica, itoa (obtenerValor c.registros registroTam)]⟩]
  pure c.registros

/-- `io_fs_write_o_read`. -/
def ioFsWriteORead (instruccion interfaz nombreArchivo registroDireccion registroTam
    registroPunteroArchivo : Cadena) : Traced Efecto Registros := do
  let (direccionFisica, c) ← traducir cpu tamPagina pid c registroDireccion
  emit [.kernel ⟨pid, instruccion,
    [interfaz, nombreArchivo, itoa direccionFisica, itoa (obtenerValor c.registros registroTam),
      itoa (obtenerValor c.registros registroPunteroArchivo)]⟩]
  pure c.registros

/-- An instruction that only sends a packet to the kernel. -/
def avisar (paquetes : List Paquete) : Traced Efecto Registros := do
  emit (paquetes.map .kernel)
  pure c.registros

/-- The function that `hacer_instruccion` calls. -/
def ejecutar : Instruccion → Traced Efecto Registros
  | .set registro valor => pure (set c registro valor)
  | .movIn registroDatos registroDireccion =>
    movIn cpu tamPagina pid c registroDatos registroDireccion
  | .movOut registroDireccion registroDatos =>
    movOut cpu tamPagina pid c registroDireccion registroDatos
  | .sum registroDestino registroOrigen => pure (sum c registroDestino registroOrigen)
  | .sub registroDestino registroOrigen => pure (sub c registroDestino registroOrigen)
  | .jnz registro destino => pure (jnz c registro destino)
  | .resize nuevoTam => resize pid c nuevoTam
  | .copyString tam => copyString cpu tamPagina pid c tam
  | .waitOSignal nombre recurso => avisar c (waitOSignal pid nombre recurso)
  | .ioGenSleep nombre interfaz unidades => avisar c (ioGenSleep pid nombre interfaz unidades)
  | .ioStdoutWriteOStdinRead nombre interfaz registroDireccion registroTam =>
    ioStdoutWriteOStdinRead cpu tamPagina pid c nombre interfaz registroDireccion registroTam
  | .ioFsCreateODelete nombre interfaz nombreArchivo =>
    avisar c (ioFsCreateODelete pid nombre interfaz nombreArchivo)
  | .ioFsTruncate nombre interfaz nombreArchivo registroTam =>
    avisar c (ioFsTruncate pid c.toContexto nombre interfaz nombreArchivo registroTam)
  | .ioFsWriteORead nombre interfaz nombreArchivo registroDireccion registroTam
      registroPunteroArchivo =>
    ioFsWriteORead cpu tamPagina pid c nombre interfaz nombreArchivo registroDireccion registroTam
      registroPunteroArchivo
  | .exit => avisar c (exitPrima pid)
  | .ninguna => pure c.registros

/-- `hacer_instruccion`. -/
def hacerInstruccion (instruccion : Cadena) : Traced Efecto Registros := do
  let i ← ofOption (decodificar instruccion)
  ejecutar cpu tamPagina pid c i

/-! ### Translations -/

/-- The packets to the kernel. -/
def paquetes (efectos : List Efecto) : List Paquete :=
  efectos.filterMap fun e => match e with
    | .kernel p => some p
    | _ => none

/-- Memoria has no frame for the page. -/
def esDenegacion : Efecto → Bool
  | .marco _ marco => marco = -1
  | _ => false

/-- A request that reads or writes the memory. -/
def esAcceso : Efecto → Bool
  | .leer _ _ => true
  | .escribir _ _ _ => true
  | _ => false

variable {cpu} {tamPagina} {pid} {c}

/-- Requests for frames that memoria answered. -/
def Concedidos (efectos : List Efecto) : Prop :=
  ∀ e ∈ efectos, ∃ nroPagina marco, e = .marco nroPagina marco ∧ marco ≠ -1

theorem Concedidos.esDenegacion {efectos : List Efecto} (h : Concedidos efectos) :
    ∀ e ∈ efectos, Efectos.esDenegacion e = false := by
  intro e he
  obtain ⟨nroPagina, marco, rfl, hmarco⟩ := h e he
  simpa [Efectos.esDenegacion] using hmarco

theorem Concedidos.any_append {efectos : List Efecto} (h : Concedidos efectos)
    (resto : List Efecto) :
    (efectos ++ resto).any Efectos.esDenegacion = resto.any Efectos.esDenegacion := by
  rw [List.any_append, List.any_eq_false.2 fun e he => by simp [h.esDenegacion e he],
    Bool.false_or]

theorem Concedidos.paquetes_append {efectos : List Efecto} (h : Concedidos efectos)
    (resto : List Efecto) : paquetes (efectos ++ resto) = paquetes resto := by
  have hnada : paquetes efectos = [] := by
    refine List.filterMap_eq_nil_iff.2 fun e he => ?_
    obtain ⟨nroPagina, marco, rfl, -⟩ := h e he
    rfl
  rw [paquetes, List.filterMap_append]
  exact (congrArg (· ++ paquetes resto) hnada).trans (List.nil_append _)

/-- A denied translation: the packet is sent, and the address is `-1`. -/
theorem traducir_denegado {registro : Cadena}
    (h : c.denegado cpu tamPagina pid registro = true) :
    traducir cpu tamPagina pid c registro =
      ⟨[.marco (obtenerPagina tamPagina (obtenerValor c.registros registro)) (-1),
        .kernel ⟨pid, "DENIED_ACCESS".toList, []⟩], some (-1, c)⟩ := by
  have hmarco : marcoParaPagina cpu c.obtenerMarcoMemoria c.tlb pid
      (obtenerPagina tamPagina (obtenerValor c.registros registro)) = -1 := by
    simpa [Contexto.denegado] using h
  have hpide : cpu.cantidadEntradasTlb = 0 ∨ buscarEnTlb c.tlb pid
      (obtenerPagina tamPagina (obtenerValor c.registros registro)) = -1 := by
    by_contra hno
    rw [marcoParaPagina, if_neg hno] at hmarco
    exact hno (Or.inr hmarco)
  have hrespuesta := hmarco
  rw [marcoParaPagina, if_pos hpide] at hrespuesta
  unfold traducir obtenerDireccionFisica obtenerMarcoMemoria
  dsimp only
  rw [if_pos hpide, hmarco, hrespuesta, if_pos rfl, if_neg (by simp)]
  rfl

/-- A translation that is not denied sends requests for frames only. -/
theorem traducir_concedido {registro : Cadena}
    (h : c.denegado cpu tamPagina pid registro = false) :
    Concedidos (traducir cpu tamPagina pid c registro).effects := by
  have hmarco : marcoParaPagina cpu c.obtenerMarcoMemoria c.tlb pid
      (obtenerPagina tamPagina (obtenerValor c.registros registro)) ≠ -1 := by
    simpa [Contexto.denegado] using h
  intro e he
  unfold traducir obtenerMarcoMemoria at he
  dsimp only at he
  split_ifs at he with hpide hrespuesta
  · rw [marcoParaPagina, if_pos hpide] at hmarco
    exact absurd hrespuesta hmarco
  · rw [marcoParaPagina, if_pos hpide] at hmarco
    exact ⟨_, _, List.mem_singleton.1 he, hmarco⟩
  · cases he

/-! ### The packets of the instruction -/

theorem paquetes_append (efectos efectos' : List Efecto) :
    paquetes (efectos ++ efectos') = paquetes efectos ++ paquetes efectos' :=
  List.filterMap_append

theorem paquetes_map_kernel (ps : List Paquete) : paquetes (ps.map .kernel) = ps := by
  unfold paquetes
  rw [List.filterMap_map]
  exact List.filterMap_some

/-- The translation seen from the kernel. -/
theorem traducir_paquetes (cpu : CpuConfiguracion) (tamPagina pid : ℕ) (c : Contexto)
    (registro : Cadena) :
    Cpu.traducir cpu tamPagina pid c.toContexto registro =
      (traducir cpu tamPagina pid c registro).value.map fun r =>
        (r.1, r.2.toContexto, paquetes (traducir cpu tamPagina pid c registro).effects) := by
  have hpaquetes : paquetes (traducir cpu tamPagina pid c registro).effects =
      if c.denegado cpu tamPagina pid registro then
        [⟨pid, "DENIED_ACCESS".toList, []⟩] else [] := by
    cases h : c.denegado cpu tamPagina pid registro with
    | true => rw [traducir_denegado h]; rfl
    | false =>
      have hnada := (traducir_concedido h).paquetes_append []
      rw [List.append_nil] at hnada
      exact hnada
  rw [hpaquetes]
  unfold Cpu.traducir traducir
  rw [Option.map_map]
  rfl

/-- The packets in a trace are a first part of those of the other model, if it comes back. -/
def Anuncia (e : Traced Efecto Registros) (ps : Option (List Paquete)) : Prop :=
  ∀ l, ps = some l → paquetes e.effects <+: l

theorem anuncia_nada (r : Registros) : Anuncia (pure r) (some []) := by
  rintro l ⟨⟩
  exact List.prefix_rfl

theorem anuncia_avisar (ps : List Paquete) : Anuncia (avisar c ps) (some ps) := by
  intro l hl
  cases hl
  simp only [avisar, emit_bind, pure_eq, List.append_nil, paquetes_map_kernel]
  exact List.prefix_rfl

/-- What comes after a translation adds its packets to that of the translation. -/
theorem anuncia_traducir {registro : Cadena} {f : ℤ × Contexto → Traced Efecto Registros}
    {g : ℤ × Cpu.Contexto × List Paquete → Option (List Paquete)}
    (h : ∀ direccion c' ps, ∀ l, g (direccion, c'.toContexto, ps) = some l →
      ps ++ paquetes (f (direccion, c')).effects <+: l) :
    Anuncia (traducir cpu tamPagina pid c registro >>= f)
      ((Cpu.traducir cpu tamPagina pid c.toContexto registro).bind g) := by
  rw [traducir_paquetes]
  generalize traducir cpu tamPagina pid c registro = t
  obtain ⟨efectos, _ | ⟨direccion, c'⟩⟩ := t
  · exact fun l hl => by cases hl
  · intro l hl
    rw [mk_some_bind, paquetes_append]
    exact h direccion c' _ l hl

theorem anuncia_resize (nuevoTam : Cadena) :
    Anuncia (resize pid c nuevoTam) (some (Cpu.resize pid c.toContexto nuevoTam)) := by
  intro l hl
  cases hl
  have hefectos : (resize pid c nuevoTam).effects =
      .resize nuevoTam :: (avisar c (Cpu.resize pid c.toContexto nuevoTam)).effects := rfl
  rw [hefectos]
  exact anuncia_avisar _ _ rfl

theorem anuncia_movIn (registroDatos registroDireccion : Cadena) :
    Anuncia (movIn cpu tamPagina pid c registroDatos registroDireccion)
      (paquetesMovIn cpu tamPagina pid c.toContexto registroDireccion) := by
  unfold movIn paquetesMovIn
  refine anuncia_traducir fun direccion c' ps l hl => ?_
  dsimp only at hl ⊢
  split_ifs at hl ⊢
  cases hl
  unfold leerMemoria
  cases c'.leido direccion "4".toList with
  | none => simp [paquetes]
  | some leido =>
    rw [mk_some_bind]
    split_ifs <;> simp [paquetes]

theorem anuncia_movOut (registroDireccion registroDatos : Cadena) :
    Anuncia (movOut cpu tamPagina pid c registroDireccion registroDatos)
      (paquetesMovOut cpu tamPagina pid c.toContexto registroDireccion) := by
  unfold movOut paquetesMovOut
  rw [Option.map_eq_bind]
  refine anuncia_traducir fun direccion c' ps l hl => ?_
  cases hl
  dsimp only
  split_ifs <;> simp [paquetes]

theorem anuncia_copyString (tam : Cadena) :
    Anuncia (copyString cpu tamPagina pid c tam)
      (Cpu.copyString cpu tamPagina pid c.toContexto) := by
  unfold copyString Cpu.copyString
  refine anuncia_traducir fun direccion c' ps l hl => ?_
  dsimp only at hl ⊢
  rw [Option.map_eq_bind] at hl
  unfold leerMemoria
  cases c'.leido direccion tam with
  | none =>
    obtain ⟨r, -, hl⟩ := Option.bind_eq_some_iff.1 hl
    cases hl
    simp [paquetes]
  | some leido =>
    have hdi : Anuncia
        (traducir cpu tamPagina pid c' "DI".toList >>= fun r => do
          emit [.escribir r.1 leido.length (leido ++ [0])]
          pure r.2.registros)
        ((Cpu.traducir cpu tamPagina pid c'.toContexto "DI".toList).bind fun r => some r.2.2) := by
      refine anuncia_traducir fun d c'' qs l hl => ?_
      cases hl
      simp [paquetes]
    obtain ⟨r, hr, hl⟩ := Option.bind_eq_some_iff.1 hl
    cases hl
    rw [mk_some_bind, paquetes_append]
    exact (List.prefix_append_right_inj ps).2 (hdi _ (by rw [hr]; rfl))

theorem anuncia_pide {registro motivo : Cadena} (f : ℤ → Cpu.Contexto → List Cadena) :
    Anuncia (do
        let (direccion, c) ← traducir cpu tamPagina pid c registro
        emit [.kernel ⟨pid, motivo, f direccion c.toContexto⟩]
        pure c.registros)
      ((Cpu.traducir cpu tamPagina pid c.toContexto registro).map fun (d, c, paquetes) =>
        paquetes ++ [⟨pid, motivo, f d c⟩]) := by
  rw [Option.map_eq_bind]
  refine anuncia_traducir fun direccion c' ps l hl => ?_
  cases hl
  exact List.prefix_rfl

theorem anuncia_ejecutar (i : Instruccion) :
    Anuncia (ejecutar cpu tamPagina pid c i) (paquetesDe cpu tamPagina pid c.toContexto i) := by
  cases i with
  | set | sum | sub | jnz | ninguna => exact anuncia_nada _
  | movIn => exact anuncia_movIn _ _
  | movOut => exact anuncia_movOut _ _
  | resize => exact anuncia_resize _
  | copyString => exact anuncia_copyString _
  | waitOSignal | ioGenSleep | ioFsCreateODelete | ioFsTruncate | exit => exact anuncia_avisar _
  | ioStdoutWriteOStdinRead nombre interfaz direccion tam =>
    exact anuncia_pide fun d c => [interfaz, itoa d, itoa (obtenerValor c.registros tam)]
  | ioFsWriteORead nombre interfaz archivo direccion tam puntero =>
    exact anuncia_pide fun d c => [interfaz, archivo, itoa d, itoa (obtenerValor c.registros tam),
      itoa (obtenerValor c.registros puntero)]

/-- **The two models of an instruction agree.**  What has been sent to the kernel, whether or not the
instruction comes back, is a first part of the packets of the instruction. -/
theorem hacerInstruccion_anuncia (cpu : CpuConfiguracion) (tamPagina pid : ℕ) (c : Contexto)
    (instruccion : Cadena) :
    Anuncia (hacerInstruccion cpu tamPagina pid c instruccion)
      (Cpu.hacerInstruccion cpu tamPagina pid c.toContexto instruccion) := by
  unfold hacerInstruccion Cpu.hacerInstruccion
  cases decodificar instruccion with
  | none => exact fun l hl => by cases hl
  | some i => exact anuncia_ejecutar i

end SimuladorSO.Cpu.Efectos
