import SimuladorSO.Library.Tracing
import SimuladorSO.Cpu.Copias
import SimuladorSO.Cpu.Aritmetica
import SimuladorSO.Cpu.Coherencia
import SimuladorSO.Cpu.Instrucciones

/-!
# The instruction cycle

`empezar_a_ejecutar_proceso` between two answers of the kernel, with memoria at the other end of the
connection: the instruction is asked of memoria by the program counter, the counter is advanced, and
the instruction is executed against memoria.

* `ejecutar`: what an instruction does to the CPU and memoria, with its packets to the kernel;
* `ciclo`: one turn of the loop;
* `ejecutar_avisa`: its packets are those of the model of the packets.
-/

namespace SimuladorSO.Cpu.Ciclo

open CInt Commons Dictionary LittleEndian Memoria Tracing

/-- A packet to the kernel, with the registers that its PCB carries. -/
structure Aviso where
  registros : Registros
  paquete : Paquete

variable (cpu : CpuConfiguracion) (cfg : MemoriaConfiguracion)

/-! ### Execution -/

/-- A packet with the PCB of the process as it is. -/
def avisar (s : EstadoCpu) (pid : ℕ) (motivo : Cadena) (lista : List Cadena) :
    Traced Aviso EstadoCpu := do
  emit [⟨s.registros, ⟨pid, motivo, lista⟩⟩]
  pure s

/-- Memoria is asked for the frame of the page: on a miss, or without a TLB. -/
def pideMarco (s : EstadoCpu) (pid : ℕ) (nroPagina : ℤ) : Bool :=
  cpu.cantidadEntradasTlb == 0 || buscarEnTlb s.tlb pid nroPagina == -1

/-- `obtener_direccion_fisica` on the address in a register: `recibir_marco_memoria` sends a packet
when memoria has no frame. -/
def traducir (s : EstadoCpu) (pid : ℕ) (registro : Cadena) : Traced Aviso (ℤ × EstadoCpu) where
  effects :=
    let nroPagina := obtenerPagina cfg.tamPagina (obtenerValor s.registros registro)
    if pideMarco cpu s pid nroPagina ∧
        (obtenerMarcoMemoria cfg s pid nroPagina).map Prod.fst = some (-1) then
      [⟨s.registros, ⟨pid, "DENIED_ACCESS".toList, []⟩⟩]
    else []
  value := traducirDireccion cpu cfg s pid (obtenerValor s.registros registro)

/-- `mov_in`, with `set`: without an address the text is a literal, and freeing it does not come
back. -/
def movIn (s : EstadoCpu) (pid : ℕ) (registroDatos registroDireccion : Cadena) :
    Traced Aviso EstadoCpu := do
  let (direccion, s) ← traducir cpu cfg s pid registroDireccion
  if direccion ≠ -1 then
    let (leido, s) ← ofOption (leerValorMemoria cfg s pid direccion)
    if stringEqualsIgnoreCase (texto leido) "ERROR".toList then pure s
    else pure { s with registros := setearValor s.registros registroDatos (atoi (texto leido)) }
  else ofOption none

/-- `mov_out`. -/
def movOut (s : EstadoCpu) (pid : ℕ) (registroDireccion registroDatos : Cadena) :
    Traced Aviso EstadoCpu := do
  let valor := obtenerValor s.registros registroDatos
  let tamanio := obtenerTamanioRegistro registroDatos
  let (direccion, s) ← traducir cpu cfg s pid registroDireccion
  if direccion ≠ -1 then
    ofOption (escribirEnMemoria cfg s pid ((intBytes valor).take tamanio.toNat) tamanio direccion)
  else pure s

/-- `resize`: the reply is read as a message.  What is left of a packet so read is not the text. -/
def resize (s : EstadoCpu) (pid : ℕ) (nuevoTam : Cadena) : Traced Aviso EstadoCpu := do
  let (respuesta, s) ← ofOption (pedir cfg s (.resize pid (atoi nuevoTam)))
  match respuesta with
  | .mensaje respuesta =>
    if stringEqualsIgnoreCase respuesta.toList "OUT_OF_MEMORY".toList then
      avisar s pid "OUT_OF_MEMORY".toList []
    else pure s
  | .paquete _ => pure s

/-- `copy_string`, which does not look at whether there are addresses. -/
def copyString (s : EstadoCpu) (pid : ℕ) (tam : Cadena) : Traced Aviso EstadoCpu := do
  let (direccionALeer, s) ← traducir cpu cfg s pid "SI".toList
  let (datoApuntado, s) ← ofOption (leerValorMemoriaPrima cfg s pid direccionALeer tam)
  let (direccionAEscribir, s) ← traducir cpu cfg s pid "DI".toList
  ofOption (escribirEnMemoria cfg s pid (datoApuntado ++ [0]) datoApuntado.length
    direccionAEscribir)

/-- The request of an interface with an address: it is sent with the address `-1` too. -/
def pedirConDireccion (s : EstadoCpu) (pid : ℕ) (nombre registroDireccion : Cadena)
    (lista : ℤ → Registros → List Cadena) : Traced Aviso EstadoCpu := do
  let (direccionFisica, s) ← traducir cpu cfg s pid registroDireccion
  avisar s pid nombre (lista direccionFisica s.registros)

/-- An instruction that works on the registers alone. -/
def conRegistros (s : EstadoCpu) (r : Option Registros) : Traced Aviso EstadoCpu :=
  ofOption (r.map fun registros => { s with registros := registros })

/-- The function that `hacer_instruccion` calls. -/
def ejecutar (s : EstadoCpu) (pid : ℕ) : Instruccion → Traced Aviso EstadoCpu
  | .set registro valor => conRegistros s (some (setearValor s.registros registro (atoi valor)))
  | .movIn registroDatos registroDireccion => movIn cpu cfg s pid registroDatos registroDireccion
  | .movOut registroDireccion registroDatos => movOut cpu cfg s pid registroDireccion registroDatos
  | .sum registroDestino registroOrigen =>
    conRegistros s (Aritmetica.sum s.registros registroDestino registroOrigen)
  | .sub registroDestino registroOrigen =>
    conRegistros s (Aritmetica.sub s.registros registroDestino registroOrigen)
  | .jnz registro instruccion =>
    conRegistros s (some (if obtenerValor s.registros registro ≠ 0 then
      { s.registros with pc := UInt32.ofInt (atoi instruccion) } else s.registros))
  | .resize nuevoTam => resize cfg s pid nuevoTam
  | .copyString tam => copyString cpu cfg s pid tam
  | .waitOSignal nombre recurso => avisar s pid nombre [recurso]
  | .ioGenSleep nombre interfaz unidades => avisar s pid nombre [interfaz, unidades]
  | .ioStdoutWriteOStdinRead nombre interfaz registroDireccion registroTam =>
    pedirConDireccion cpu cfg s pid nombre registroDireccion fun direccion r =>
      [interfaz, itoa direccion, itoa (obtenerValor r registroTam)]
  | .ioFsCreateODelete nombre interfaz nombreArchivo =>
    avisar s pid nombre [interfaz, nombreArchivo]
  | .ioFsTruncate nombre interfaz nombreArchivo registroTam =>
    avisar s pid nombre [interfaz, nombreArchivo, itoa (obtenerValor s.registros registroTam)]
  | .ioFsWriteORead nombre interfaz nombreArchivo registroDireccion registroTam
      registroPunteroArchivo =>
    pedirConDireccion cpu cfg s pid nombre registroDireccion fun direccion r =>
      [interfaz, nombreArchivo, itoa direccion, itoa (obtenerValor r registroTam),
        itoa (obtenerValor r registroPunteroArchivo)]
  | .exit => avisar s pid "EXIT".toList []
  | .ninguna => pure s

/-- `hacer_instruccion`. -/
def hacerInstruccion (s : EstadoCpu) (pid : ℕ) (instruccion : Cadena) :
    Traced Aviso EstadoCpu := do
  let i ← ofOption (decodificar instruccion)
  ejecutar cpu cfg s pid i

/-- `pedir_instruccion_a_memoria` and `recibir_instruccion_memoria`: the counter goes through an
`int`, and after a message the instruction is a pointer without a value. -/
def pedirInstruccion (s : EstadoCpu) (pid : ℕ) : Option (Cadena × EstadoCpu) :=
  (pedir cfg s (.instruccion pid (int32 s.registros.pc.toNat))).bind fun (envio, s) =>
    match envio with
    | .paquete (.linea instruccion) => some (instruccion, s)
    | .paquete (.texto instruccion) => some (instruccion.toList, s)
    | _ => none

/-- The text that memoria has for an instruction: past the last one it is not of the script. -/
def lineaDe (lista : List Cadena) (programCounter : ℤ) : Option Cadena :=
  if programCounter ≥ lista.length then some "END_OF_PROCESS".toList
  else listGet lista programCounter

/-- The registers with the counter advanced. -/
def avanzarPc (r : Registros) : Registros := { r with pc := r.pc + 1 }

/-- One turn of `empezar_a_ejecutar_proceso`, up to its message to the kernel. -/
def ciclo (s : EstadoCpu) (pid : ℕ) : Traced Aviso EstadoCpu := do
  let (instruccion, s) ← ofOption (pedirInstruccion cfg s pid)
  hacerInstruccion cpu cfg { s with registros := avanzarPc s.registros } pid instruccion

/-- What the instruction reads, for the model of the packets: memoria as it is. -/
def contexto (s : EstadoCpu) (pid : ℕ) : Contexto where
  registros := s.registros
  tlb := s.tlb
  obtenerMarcoMemoria := obtenerMarco s.memoria pid
  respuestaResize := fun nuevoTam =>
    match redimensionarProceso cfg s.memoria pid (atoi nuevoTam) with
    | some (_, .mensaje respuesta :: _) => respuesta.toList
    | _ => []

variable {cpu} {cfg} {s s' : EstadoCpu} {pid : ℕ}

/-- Over a connection in step the instruction is a line of the script that memoria has. -/
theorem pedirInstruccion_eq (hpend : s.pendientes = []) (pid : ℕ) :
    pedirInstruccion cfg s pid =
      ((get s.memoria.diccionarioInstrucciones (pid : ℤ)).bind fun lista =>
        lineaDe lista (int32 s.registros.pc.toNat)).map fun instruccion => (instruccion, s) := by
  obtain ⟨registros, tlb, m, pendientes⟩ := s
  cases hpend
  unfold pedirInstruccion pedir recibirInfoCpu enviarInstruccion lineaDe
  dsimp only
  cases hlista : get m.diccionarioInstrucciones (pid : ℤ) with
  | none =>
    dsimp only
    split_ifs <;> rfl
  | some lista =>
    have hno : m.diccionarioInstrucciones.isEmpty = false := by
      cases hd : m.diccionarioInstrucciones with
      | nil => rw [hd] at hlista; cases hlista
      | cons => rfl
    dsimp only
    rw [hno, if_neg Bool.false_ne_true, Option.bind_some]
    split_ifs
    · rfl
    · cases listGet lista (int32 registros.pc.toNat) <;> rfl

/-! ### Translations -/

/-- A translation over a connection in step reads memoria's frame for its page. -/
theorem traducirDireccion_de_marco (hpend : s.pendientes = []) (pid direccionLogica : ℤ) :
    traducirDireccion cpu cfg s pid direccionLogica =
      (Cpu.obtenerDireccionFisica cpu cfg.tamPagina (obtenerMarco s.memoria pid) s.tlb
        direccionLogica pid).map fun (direccion, tlb) => (direccion, { s with tlb := tlb }) := by
  unfold traducirDireccion
  dsimp only
  by_cases hpide : cpu.cantidadEntradasTlb = 0 ∨
      buscarEnTlb s.tlb pid (obtenerPagina cfg.tamPagina direccionLogica) = -1
  · rw [if_pos hpide, obtenerMarcoMemoria_eq hpend, Option.bind_some]
    simp only [Cpu.obtenerDireccionFisica, marcoParaPagina, if_pos hpide]
  · rw [if_neg hpide, Option.bind_some]
    simp only [Cpu.obtenerDireccionFisica, marcoParaPagina, if_neg hpide]

/-- The packet of a translation, over a connection in step. -/
theorem traducir_effects (hpend : s.pendientes = []) (registro : Cadena) :
    (traducir cpu cfg s pid registro).effects =
      if (contexto cfg s pid).denegado cpu cfg.tamPagina pid registro then
        [⟨s.registros, ⟨pid, "DENIED_ACCESS".toList, []⟩⟩] else [] := by
  have hiff : (pideMarco cpu s pid
        (obtenerPagina cfg.tamPagina (obtenerValor s.registros registro)) ∧
      (obtenerMarcoMemoria cfg s pid
        (obtenerPagina cfg.tamPagina (obtenerValor s.registros registro))).map Prod.fst =
          some (-1)) ↔ (contexto cfg s pid).denegado cpu cfg.tamPagina pid registro := by
    have hdenegado : (contexto cfg s pid).denegado cpu cfg.tamPagina pid registro =
        (marcoParaPagina cpu (obtenerMarco s.memoria pid) s.tlb pid
          (obtenerPagina cfg.tamPagina (obtenerValor s.registros registro)) == -1) := rfl
    rw [obtenerMarcoMemoria_eq hpend, hdenegado, marcoParaPagina]
    simp only [pideMarco, Option.map_some, Option.some_inj, beq_iff_eq, Bool.or_eq_true]
    by_cases hpide : cpu.cantidadEntradasTlb = 0 ∨ buscarEnTlb s.tlb pid
        (obtenerPagina cfg.tamPagina (obtenerValor s.registros registro)) = -1
    · rw [if_pos hpide]
      exact and_iff_right hpide
    · rw [if_neg hpide]
      exact iff_of_false (fun h => hpide h.1) fun h => hpide (Or.inr h)
  unfold traducir
  dsimp only
  simp only [hiff]

/-- What a translation over a connection in step comes back with: memoria is as it was, there is no
address if a packet was sent, and the packets are those of the other model. -/
theorem traducir_yields (hpend : s.pendientes = []) (registro : Cadena) :
    Yields (traducir cpu cfg s pid registro) fun (direccion, s') es =>
      (∃ tlb, s' = { s with tlb := tlb }) ∧
      (∀ a ∈ es, a.registros = s.registros ∧ direccion = -1) ∧
      Cpu.traducir cpu cfg.tamPagina pid (contexto cfg s pid) registro =
        some (direccion, contexto cfg s' pid, es.map Aviso.paquete) := by
  rintro ⟨direccion, s'⟩ hvalue
  have htraducir : traducirDireccion cpu cfg s pid (obtenerValor s.registros registro) =
      some (direccion, s') := hvalue
  rw [traducirDireccion_de_marco hpend] at htraducir
  obtain ⟨⟨d, tlb⟩, hd, heq⟩ := Option.map_eq_some_iff.1 htraducir
  obtain ⟨rfl, rfl⟩ := Prod.mk.inj heq
  rw [traducir_effects hpend]
  refine ⟨⟨tlb, rfl⟩, fun a ha => ?_, ?_⟩
  · split_ifs at ha with hden
    · have hmarco : marcoParaPagina cpu (obtenerMarco s.memoria pid) s.tlb pid
          (obtenerPagina cfg.tamPagina (obtenerValor s.registros registro)) = -1 :=
        beq_iff_eq.1 hden
      refine ⟨by rw [List.mem_singleton.1 ha], ?_⟩
      unfold Cpu.obtenerDireccionFisica at hd
      dsimp only at hd
      rw [hmarco, if_neg (by simp)] at hd
      cases hd
      rfl
    · cases ha
  · have hctx : Cpu.obtenerDireccionFisica cpu cfg.tamPagina
        (contexto cfg s pid).obtenerMarcoMemoria (contexto cfg s pid).tlb
        (obtenerValor (contexto cfg s pid).registros registro) pid = some (d, tlb) := hd
    unfold Cpu.traducir
    rw [hctx, Option.map_some]
    split_ifs
    · rfl
    · rfl

/-! ### The packets of an instruction -/

/-- What a read over a connection in step comes back with: nothing is left to read. -/
theorem pedir_leer {direccion tamanio : ℤ} {valor : Valor} (hpend : s.pendientes = [])
    (h : pedir cfg s (.leer pid direccion tamanio) = some (.paquete valor, s')) : s' = s := by
  unfold pedir at h
  obtain ⟨⟨m, envios⟩, hrecibir, h⟩ := Option.bind_eq_some_iff.1 h
  obtain ⟨envios', hleer, heq⟩ := Option.map_eq_some_iff.1
    (show (leerMemoria cfg s.memoria direccion tamanio pid).map (fun envios => (s.memoria, envios)) =
      some (m, envios) from hrecibir)
  obtain ⟨rfl, rfl⟩ := Prod.mk.inj heq
  obtain ⟨mensaje, huboError, -, rfl⟩ := leerMemoria_eq_some hleer
  dsimp only at h
  rw [hpend, List.nil_append] at h
  rcases verificarLimiteMemoria_cases cfg direccion tamanio with ⟨-, hlimite⟩ | ⟨-, hlimite⟩
  · rw [hlimite, List.nil_append] at h
    obtain ⟨-, rfl⟩ := Prod.mk.inj (Option.some.inj h)
    rw [← hpend]
  · rw [hlimite] at h
    cases h

theorem leerValorMemoriaPrima_eq {direccion : ℤ} {tam : Cadena} {leido : List UInt8}
    (hpend : s.pendientes = [])
    (h : leerValorMemoriaPrima cfg s pid direccion tam = some (leido, s')) : s' = s := by
  obtain ⟨⟨envio, s₁⟩, hpedir, h⟩ := Option.bind_eq_some_iff.1 h
  dsimp only at h
  split at h
  · cases h
    exact pedir_leer hpend hpedir
  · cases h

/-- A write leaves the registers and the TLB as they were. -/
theorem escribirEnMemoria_eq {dato : List UInt8} {tamanio direccion : ℤ}
    (h : escribirEnMemoria cfg s pid dato tamanio direccion = some s') :
    s'.registros = s.registros ∧ s'.tlb = s.tlb := by
  obtain ⟨⟨envio, s₁⟩, hpedir, rfl⟩ := Option.map_eq_some_iff.1 h
  obtain ⟨⟨m, envios⟩, -, hpedir⟩ := Option.bind_eq_some_iff.1 hpedir
  dsimp only at hpedir
  split at hpedir
  · cases hpedir
  · cases hpedir
    exact ⟨rfl, rfl⟩

/-- The packets that an instruction has sent when it comes back: they carry its registers, and the
other model sends the same. -/
def Avisa (ps : Option (List Paquete)) (s' : EstadoCpu) (es : List Aviso) : Prop :=
  (∀ a ∈ es, a.registros = s'.registros) ∧ ps = some (es.map Aviso.paquete)

theorem avisar_avisa (s : EstadoCpu) (pid : ℕ) (motivo : Cadena) (lista : List Cadena) :
    Yields (avisar s pid motivo lista) (Avisa (some [⟨pid, motivo, lista⟩])) := by
  rintro s' ⟨⟩
  exact ⟨fun a ha => congrArg Aviso.registros (List.mem_singleton.1 ha), rfl⟩

theorem conRegistros_avisa (s : EstadoCpu) (r : Option Registros) :
    Yields (conRegistros s r) (Avisa (some [])) :=
  fun _ _ => ⟨fun _ ha => absurd ha List.not_mem_nil, rfl⟩

theorem movIn_avisa (hpend : s.pendientes = []) (registroDatos registroDireccion : Cadena) :
    Yields (movIn cpu cfg s pid registroDatos registroDireccion)
      (Avisa (paquetesMovIn cpu cfg.tamPagina pid (contexto cfg s pid) registroDireccion)) := by
  refine (traducir_yields hpend registroDireccion).bind ?_
  rintro ⟨direccion, s₁⟩ es ⟨-, hes, hpaquetes⟩ s' hs'
  unfold paquetesMovIn
  rw [hpaquetes]
  by_cases hdir : direccion = -1
  · simp [hdir, ofOption] at hs'
  · -- nothing was sent, since there is an address
    have hnada : es = [] := List.eq_nil_iff_forall_not_mem.2 fun a ha => hdir (hes a ha).2
    simp only [hdir, ne_eq, not_false_eq_true, if_true] at hs' ⊢
    obtain ⟨⟨leido, s₂⟩, hleer, hs', heffects⟩ := bind_value_eq_some hs'
    rw [heffects, hnada, Option.bind_some, if_pos hdir]
    split_ifs
    · exact ⟨fun _ ha => absurd ha List.not_mem_nil, rfl⟩
    · exact ⟨fun _ ha => absurd ha List.not_mem_nil, rfl⟩

theorem movOut_avisa (hpend : s.pendientes = []) (registroDireccion registroDatos : Cadena) :
    Yields (movOut cpu cfg s pid registroDireccion registroDatos)
      (Avisa (paquetesMovOut cpu cfg.tamPagina pid (contexto cfg s pid) registroDireccion)) := by
  refine (traducir_yields hpend registroDireccion).bind ?_
  rintro ⟨direccion, s₁⟩ es ⟨⟨tlb, rfl⟩, hes, hpaquetes⟩ s' hs'
  unfold paquetesMovOut
  rw [hpaquetes]
  dsimp only at hs' ⊢
  split_ifs at hs' ⊢
  · have hregistros := (escribirEnMemoria_eq hs').1
    refine ⟨fun a ha => ?_, by simp [ofOption]⟩
    rw [hregistros]
    exact (hes a (by simpa [ofOption] using ha)).1
  · cases hs'
    refine ⟨fun a ha => (hes a (by simpa using ha)).1, by simp⟩

theorem resize_avisa (hpend : s.pendientes = []) (nuevoTam : Cadena) :
    Yields (resize cfg s pid nuevoTam)
      (Avisa (some (Cpu.resize pid (contexto cfg s pid) nuevoTam))) := by
  unfold resize
  refine Yields.bind (P := fun (envio, s₁) es => es = [] ∧
      (contexto cfg s pid).respuestaResize nuevoTam = match envio with
        | .mensaje respuesta => respuesta.toList
        | .paquete _ => []) (yields_ofOption ?_) ?_
  · rintro ⟨envio, s₁⟩ hpedir
    obtain ⟨⟨m, envios⟩, hrecibir, hpedir⟩ := Option.bind_eq_some_iff.1 hpedir
    have hredimensionar : redimensionarProceso cfg s.memoria pid (atoi nuevoTam) =
        some (m, envios) := hrecibir
    dsimp only at hpedir
    rw [hpend, List.nil_append] at hpedir
    cases envios with
    | nil => cases hpedir
    | cons envio' resto =>
      cases hpedir
      refine ⟨rfl, ?_⟩
      unfold contexto
      dsimp only
      rw [hredimensionar]
      cases envio <;> rfl
  · rintro ⟨envio, s₁⟩ es ⟨rfl, hrespuesta⟩
    unfold Cpu.resize
    rw [hrespuesta]
    cases envio with
    | mensaje respuesta =>
      dsimp only
      split_ifs
      · exact avisar_avisa s₁ pid "OUT_OF_MEMORY".toList []
      · exact yields_pure ⟨fun _ ha => absurd ha List.not_mem_nil, rfl⟩
    | paquete _ => exact yields_pure ⟨fun _ ha => absurd ha List.not_mem_nil, rfl⟩

theorem copyString_avisa (hpend : s.pendientes = []) (tam : Cadena) :
    Yields (copyString cpu cfg s pid tam)
      (Avisa (Cpu.copyString cpu cfg.tamPagina pid (contexto cfg s pid))) := by
  refine (traducir_yields hpend "SI".toList).bind ?_
  rintro ⟨direccionALeer, s₁⟩ es ⟨⟨tlb, rfl⟩, hes, hleer⟩ s' hs'
  obtain ⟨⟨dato, s₂⟩, hdato, hs', heffects⟩ := bind_value_eq_some hs'
  obtain rfl := leerValorMemoriaPrima_eq (s := { s with tlb := tlb }) hpend hdato
  rw [heffects]
  dsimp only at hs' ⊢
  obtain ⟨⟨direccionAEscribir, s₃⟩, htraducir, hs', heffects'⟩ := bind_value_eq_some hs'
  obtain ⟨⟨tlb', rfl⟩, hes', hescribir⟩ :=
    traducir_yields (s := { s with tlb := tlb }) hpend "DI".toList _ htraducir
  have hregistros := (escribirEnMemoria_eq hs').1
  rw [heffects']
  refine ⟨fun a ha => ?_, ?_⟩
  · rw [hregistros]
    rcases List.mem_append.1 (by simpa [ofOption] using ha) with ha | ha
    · exact (hes a ha).1
    · exact (hes' a ha).1
  · unfold Cpu.copyString
    rw [hleer, Option.bind_some]
    dsimp only
    rw [hescribir]
    simp [ofOption]

theorem pedirConDireccion_avisa (hpend : s.pendientes = []) (nombre registroDireccion : Cadena)
    (lista : ℤ → Registros → List Cadena) :
    Yields (pedirConDireccion cpu cfg s pid nombre registroDireccion lista)
      (Avisa ((Cpu.traducir cpu cfg.tamPagina pid (contexto cfg s pid) registroDireccion).map
        fun (direccion, c, paquetes) =>
          paquetes ++ [⟨pid, nombre, lista direccion c.registros⟩])) := by
  refine (traducir_yields hpend registroDireccion).bind ?_
  rintro ⟨direccion, s₁⟩ es ⟨⟨tlb, rfl⟩, hes, hpaquetes⟩
  rw [hpaquetes]
  rintro _ ⟨⟩
  refine ⟨fun a ha => ?_, by simp [avisar, contexto]⟩
  rcases List.mem_append.1 ha with ha | ha
  · exact (hes a ha).1
  · exact congrArg Aviso.registros (List.mem_singleton.1 ha)

/-- **The packets of the connected CPU.**  An instruction that comes back over a connection in step
has sent the packets of the other model, each with the registers that it ends with. -/
theorem ejecutar_avisa (hpend : s.pendientes = []) (i : Instruccion) :
    Yields (ejecutar cpu cfg s pid i)
      (Avisa (paquetesDe cpu cfg.tamPagina pid (contexto cfg s pid) i)) := by
  cases i with
  | set => exact conRegistros_avisa s _
  | movIn registroDatos registroDireccion => exact movIn_avisa hpend registroDatos _
  | movOut registroDireccion registroDatos => exact movOut_avisa hpend _ registroDatos
  | sum => exact conRegistros_avisa s _
  | sub => exact conRegistros_avisa s _
  | jnz => exact conRegistros_avisa s _
  | resize nuevoTam => exact resize_avisa hpend nuevoTam
  | copyString tam => exact copyString_avisa hpend tam
  | waitOSignal => exact avisar_avisa s pid _ _
  | ioGenSleep => exact avisar_avisa s pid _ _
  | ioStdoutWriteOStdinRead => exact pedirConDireccion_avisa hpend _ _ _
  | ioFsCreateODelete => exact avisar_avisa s pid _ _
  | ioFsTruncate => exact avisar_avisa s pid _ _
  | ioFsWriteORead => exact pedirConDireccion_avisa hpend _ _ _
  | exit => exact avisar_avisa s pid _ _
  | ninguna => exact yields_pure ⟨fun _ ha => absurd ha List.not_mem_nil, rfl⟩

end SimuladorSO.Cpu.Ciclo
