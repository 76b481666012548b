import SimuladorSO.Cpu.Efectos

/-!
# Denied translations

When memoria has no frame for a page, `recibir_marco_memoria` tells the kernel so, and the
instruction that asked goes on with the address `-1`.  MOV_IN and MOV_OUT look at it; COPY_STRING
reads and writes there, and the instructions of input and output send their request all the same.

* `Detiene`: a denied translation stops the instruction;
* `detiene_traducir_bind`, `traducir_denegado_bind`: an instruction up to its first translation;
* `detiene_iff`: when it stops.
-/

namespace SimuladorSO.Cpu.Efectos

open CInt Commons LittleEndian Tracing

variable (cpu : CpuConfiguracion) (tamPagina : ℕ) (pid : ℕ) (c : Contexto)

/-- What is sent after the first denial. -/
def trasDenegacion (efectos : List Efecto) : List Efecto :=
  (efectos.dropWhile fun e => !esDenegacion e).tail

/-- An instruction sends one packet to the kernel at most; and if a translation is denied then it
sends the packet that says so, reads and writes nothing from there on, and changes no register. -/
structure Detiene (e : Traced Efecto Registros) : Prop where
  uno : (paquetes e.effects).length ≤ 1
  denegada : e.effects.any esDenegacion = true →
    paquetes e.effects = [⟨pid, "DENIED_ACCESS".toList, []⟩] ∧
      (∀ x ∈ trasDenegacion e.effects, esAcceso x = false) ∧
      ∀ r, e.value = some r → r = c.registros

/-- One of the translations of `copy_string` is denied. -/
def CopiaDenegada (tam : Cadena) : Prop :=
  c.denegado cpu tamPagina pid "SI".toList = true ∨
    ∃ direccion c' leido,
      (traducir cpu tamPagina pid c "SI".toList).value = some (direccion, c') ∧
      c.leido direccion tam = some leido ∧ c'.denegado cpu tamPagina pid "DI".toList = true

/-- A translation of the instruction is denied, and it is none of those that look at it. -/
def SigueTrasDenegacion (instruccion : Cadena) : Prop :=
  let datos := instruccion.splitOn ' '
  let nombre := datos.headD []
  (stringEqualsIgnoreCase nombre "COPY_STRING".toList = true ∧
    ∃ tam, datos[1]? = some tam ∧ CopiaDenegada cpu tamPagina pid c tam) ∨
  ((stringEqualsIgnoreCase nombre "IO_STDOUT_WRITE".toList = true ∨
      stringEqualsIgnoreCase nombre "IO_STDIN_READ".toList = true) ∧
    4 ≤ datos.length ∧ c.denegadoEn cpu tamPagina pid datos 2 = true) ∨
  ((stringEqualsIgnoreCase nombre "IO_FS_WRITE".toList = true ∨
      stringEqualsIgnoreCase nombre "IO_FS_READ".toList = true) ∧
    6 ≤ datos.length ∧ c.denegadoEn cpu tamPagina pid datos 3 = true)

variable {cpu} {tamPagina} {pid} {c}

theorem Concedidos.trasDenegacion_append {efectos : List Efecto} (h : Concedidos efectos)
    (resto : List Efecto) : trasDenegacion (efectos ++ resto) = trasDenegacion resto := by
  rw [trasDenegacion, List.dropWhile_append_of_pos fun e he => by simp [h.esDenegacion e he]]
  rfl

/-- Without a denial, one packet at most is all that is asked. -/
theorem Detiene.of_concedidos {e : Traced Efecto Registros}
    (hno : e.effects.any Efectos.esDenegacion = false) (huno : (paquetes e.effects).length ≤ 1) :
    Detiene pid c e :=
  ⟨huno, fun h => by rw [hno] at h; cases h⟩

/-- After what was conceded, the rest decides. -/
theorem detiene_append_iff {efectos : List Efecto} (h : Concedidos efectos) (resto : List Efecto)
    (valor : Option Registros) :
    Detiene pid c ⟨efectos ++ resto, valor⟩ ↔ Detiene pid c ⟨resto, valor⟩ := by
  constructor
  · rintro ⟨huno, hdenegada⟩
    dsimp only at huno hdenegada
    rw [h.paquetes_append] at huno
    rw [h.any_append, h.paquetes_append, h.trasDenegacion_append] at hdenegada
    exact ⟨huno, hdenegada⟩
  · rintro ⟨huno, hdenegada⟩
    refine ⟨?_, ?_⟩
    · rw [h.paquetes_append]
      exact huno
    · rw [h.any_append, h.paquetes_append, h.trasDenegacion_append]
      exact hdenegada

/-! ### One instruction -/

/-- An instruction that stops at a first translation that is not denied, or goes on from it. -/
theorem detiene_traducir_bind {registro : Cadena} {f : ℤ × Contexto → Traced Efecto Registros}
    (h : c.denegado cpu tamPagina pid registro = false)
    (hf : ∀ direccion c', (traducir cpu tamPagina pid c registro).value = some (direccion, c') →
      Detiene pid c (f (direccion, c'))) :
    Detiene pid c (traducir cpu tamPagina pid c registro >>= f) := by
  have hconcedidos := traducir_concedido h
  generalize traducir cpu tamPagina pid c registro = t at hconcedidos hf
  obtain ⟨efectos, valor⟩ := t
  cases valor with
  | none =>
    rw [mk_none_bind, ← List.append_nil efectos, detiene_append_iff hconcedidos]
    exact Detiene.of_concedidos rfl (Nat.zero_le _)
  | some r =>
    rw [mk_some_bind, detiene_append_iff hconcedidos]
    exact hf r.1 r.2 rfl

theorem detiene_traducir_bind_iff {registro : Cadena}
    {f : ℤ × Contexto → Traced Efecto Registros} {direccion : ℤ} {c' : Contexto}
    (h : c.denegado cpu tamPagina pid registro = false)
    (hvalor : (traducir cpu tamPagina pid c registro).value = some (direccion, c')) :
    Detiene pid c (traducir cpu tamPagina pid c registro >>= f) ↔
      Detiene pid c (f (direccion, c')) := by
  have hconcedidos := traducir_concedido h
  generalize traducir cpu tamPagina pid c registro = t at hconcedidos hvalor
  obtain ⟨efectos, valor⟩ := t
  cases hvalor
  rw [mk_some_bind, detiene_append_iff hconcedidos]

/-- A translation that is not denied adds no denial and no packet to what comes after it. -/
theorem traducir_concedido_bind {registro : Cadena} {f : ℤ × Contexto → Traced Efecto Registros}
    (h : c.denegado cpu tamPagina pid registro = false)
    (hf : ∀ r, (f r).effects.any Efectos.esDenegacion = false ∧ paquetes (f r).effects = []) :
    (traducir cpu tamPagina pid c registro >>= f).effects.any Efectos.esDenegacion = false ∧
      paquetes (traducir cpu tamPagina pid c registro >>= f).effects = [] := by
  have hconcedidos := traducir_concedido h
  generalize traducir cpu tamPagina pid c registro = t at hconcedidos
  obtain ⟨efectos, _ | r⟩ := t
  · rw [mk_none_bind, ← List.append_nil efectos]
    exact ⟨hconcedidos.any_append [], hconcedidos.paquetes_append []⟩
  · rw [mk_some_bind]
    exact ⟨(hconcedidos.any_append _).trans (hf r).1,
      (hconcedidos.paquetes_append _).trans (hf r).2⟩

theorem traducir_denegado_bind {registro : Cadena} {f : ℤ × Contexto → Traced Efecto Registros}
    (h : c.denegado cpu tamPagina pid registro = true) :
    traducir cpu tamPagina pid c registro >>= f =
      ⟨.marco (obtenerPagina tamPagina (obtenerValor c.registros registro)) (-1) ::
        .kernel ⟨pid, "DENIED_ACCESS".toList, []⟩ :: (f (-1, c)).effects, (f (-1, c)).value⟩ := by
  rw [traducir_denegado h]
  rfl

theorem movIn_detiene (registroDatos registroDireccion : Cadena) :
    Detiene pid c (movIn cpu tamPagina pid c registroDatos registroDireccion) := by
  unfold movIn
  cases h : c.denegado cpu tamPagina pid registroDireccion with
  | true =>
    rw [traducir_denegado_bind h]
    exact ⟨le_rfl, fun _ => ⟨rfl, by simp [trasDenegacion, esDenegacion, ofOption, esAcceso],
      fun r hr => by cases hr⟩⟩
  | false =>
    refine detiene_traducir_bind h fun direccion c' _ => ?_
    dsimp only
    split_ifs with hdir
    · unfold leerMemoria
      cases c'.leido direccion "4".toList with
      | none => exact Detiene.of_concedidos rfl (Nat.zero_le _)
      | some leido =>
        rw [mk_some_bind]
        split_ifs
        · exact Detiene.of_concedidos rfl (Nat.zero_le _)
        · exact Detiene.of_concedidos rfl (Nat.zero_le _)
    · exact Detiene.of_concedidos rfl (Nat.zero_le _)

theorem movOut_detiene (registroDireccion registroDatos : Cadena) :
    Detiene pid c (movOut cpu tamPagina pid c registroDireccion registroDatos) := by
  unfold movOut
  dsimp only
  cases h : c.denegado cpu tamPagina pid registroDireccion with
  | true =>
    rw [traducir_denegado_bind h]
    refine ⟨le_rfl, fun _ => ⟨rfl, by simp [trasDenegacion, esDenegacion, esAcceso],
      fun r hr => ?_⟩⟩
    exact (Option.some.inj hr).symm
  | false =>
    refine detiene_traducir_bind h fun direccion c' _ => ?_
    dsimp only
    split_ifs with hdir
    · exact Detiene.of_concedidos rfl (Nat.zero_le _)
    · exact Detiene.of_concedidos rfl (Nat.zero_le _)

/-- A request to the kernel after a translation is one packet too many when it is denied. -/
theorem detiene_pide_iff {registro instruccion : Cadena} (f : ℤ → Contexto → List Cadena) :
    Detiene pid c (do
        let (direccion, c) ← traducir cpu tamPagina pid c registro
        emit [.kernel ⟨pid, instruccion, f direccion c⟩]
        pure c.registros) ↔
      c.denegado cpu tamPagina pid registro = false := by
  cases h : c.denegado cpu tamPagina pid registro with
  | true =>
    rw [traducir_denegado_bind h]
    refine iff_of_false (fun hdetiene => ?_) (by simp)
    have huno := hdetiene.uno
    simp [paquetes] at huno
  | false =>
    refine iff_of_true (detiene_traducir_bind h fun direccion c' _ => ?_) rfl
    exact Detiene.of_concedidos rfl le_rfl

theorem ioStdoutWriteOStdinRead_detiene_iff (instruccion interfaz registroDireccion registroTam :
    Cadena) :
    Detiene pid c (ioStdoutWriteOStdinRead cpu tamPagina pid c instruccion interfaz
      registroDireccion registroTam) ↔ c.denegado cpu tamPagina pid registroDireccion = false :=
  detiene_pide_iff fun d c => [interfaz, itoa d, itoa (obtenerValor c.registros registroTam)]

theorem ioFsWriteORead_detiene_iff (instruccion interfaz nombreArchivo registroDireccion
    registroTam registroPunteroArchivo : Cadena) :
    Detiene pid c (ioFsWriteORead cpu tamPagina pid c instruccion interfaz nombreArchivo
      registroDireccion registroTam registroPunteroArchivo) ↔
        c.denegado cpu tamPagina pid registroDireccion = false :=
  detiene_pide_iff fun d c => [interfaz, nombreArchivo, itoa d,
    itoa (obtenerValor c.registros registroTam),
    itoa (obtenerValor c.registros registroPunteroArchivo)]

theorem copyString_detiene_iff (tam : Cadena) :
    Detiene pid c (copyString cpu tamPagina pid c tam) ↔
      ¬ CopiaDenegada cpu tamPagina pid c tam := by
  unfold copyString CopiaDenegada
  cases hsi : c.denegado cpu tamPagina pid "SI".toList with
  | true =>
    rw [traducir_denegado_bind hsi]
    refine iff_of_false (fun hdetiene => ?_) (by simp)
    -- the text is asked for at the address `-1`
    obtain ⟨-, hacceso, -⟩ := hdetiene.denegada (by simp [esDenegacion])
    have hleer := hacceso (.leer (-1) tam) (by
      simp only [trasDenegacion, esDenegacion, leerMemoria]
      cases c.leido (-1) tam <;> simp)
    cases hleer
  | false =>
    cases hvalor : (traducir cpu tamPagina pid c "SI".toList).value with
    | none =>
      refine iff_of_true (detiene_traducir_bind hsi fun direccion c' h => ?_) (by simp)
      rw [hvalor] at h
      cases h
    | some r =>
      obtain ⟨direccion, c'⟩ := r
      have hleidos : c'.leido = c.leido := by
        obtain ⟨⟨d, tlb⟩, -, heq⟩ := Option.map_eq_some_iff.1 hvalor
        cases heq
        rfl
      rw [detiene_traducir_bind_iff hsi hvalor]
      unfold leerMemoria
      dsimp only
      rw [hleidos]
      cases hleido : c.leido direccion tam with
      | none =>
        exact iff_of_true (Detiene.of_concedidos rfl (Nat.zero_le _)) (by simp [hleido])
      | some leido =>
        rw [mk_some_bind]
        cases hdi : c'.denegado cpu tamPagina pid "DI".toList with
        | true =>
          rw [traducir_denegado_bind hdi]
          refine iff_of_false (fun hdetiene => ?_) (by simpa [hleido] using hdi)
          -- the text is written at the address `-1`
          obtain ⟨-, hacceso, -⟩ := hdetiene.denegada (by simp [esDenegacion])
          have hescribir := hacceso (.escribir (-1) leido.length (leido ++ [0]))
            (by simp [trasDenegacion, esDenegacion])
          cases hescribir
        | false =>
          obtain ⟨hno, hnada⟩ := traducir_concedido_bind hdi
            (f := fun r => do
              emit [.escribir r.1 leido.length (leido ++ [0])]
              pure r.2.registros) fun _ => ⟨rfl, rfl⟩
          refine iff_of_true (Detiene.of_concedidos hno ?_) (by simpa [hleido] using hdi)
          exact (congrArg List.length hnada).le.trans (Nat.zero_le _)

/-! ### Every instruction -/

theorem avisar_sin_denegar (ps : List Paquete) :
    (avisar c ps).effects.any Efectos.esDenegacion = false := by
  refine List.any_eq_false.2 fun e he => ?_
  simp only [avisar, emit_bind, pure_eq, List.append_nil] at he
  obtain ⟨p, -, rfl⟩ := List.mem_map.1 he
  exact Bool.false_ne_true

theorem avisar_detiene {ps : List Paquete} (h : ps.length ≤ 1) : Detiene pid c (avisar c ps) := by
  refine Detiene.of_concedidos (avisar_sin_denegar ps) ?_
  simp only [avisar, emit_bind, pure_eq, List.append_nil, paquetes]
  exact (List.length_filterMap_le _ _).trans (by simpa using h)

theorem resize_detiene (nuevoTam : Cadena) : Detiene pid c (resize pid c nuevoTam) := by
  obtain ⟨-, huno⟩ := resize_paquetes pid c.toContexto nuevoTam
  have hefectos : (resize pid c nuevoTam).effects =
      .resize nuevoTam :: (avisar c (Cpu.resize pid c.toContexto nuevoTam)).effects := rfl
  have havisar : Detiene pid c (avisar c (Cpu.resize pid c.toContexto nuevoTam)) :=
    avisar_detiene huno
  obtain ⟨huno', -⟩ := havisar
  refine Detiene.of_concedidos ?_ ?_
  · rw [hefectos, List.any_cons]
    exact avisar_sin_denegar _
  · rw [hefectos]
    exact huno'

/-- An instruction of another name does not go on. -/
theorem not_sigueTrasDenegacion {instruccion nombre : Cadena}
    (hnombre : (instruccion.splitOn ' ').headD [] = nombre)
    (hotro : ∀ x ∈ nombresTrasTraducir, stringEqualsIgnoreCase nombre x = false) :
    ¬ SigueTrasDenegacion cpu tamPagina pid c instruccion := by
  unfold SigueTrasDenegacion
  dsimp only
  rw [hnombre, hotro _ (by decide), hotro _ (by decide), hotro _ (by decide), hotro _ (by decide),
    hotro _ (by decide)]
  simp

theorem sigueTrasDenegacion_copyString {instruccion nombre : Cadena}
    (hnombre : (instruccion.splitOn ' ').headD [] = nombre)
    (h : stringEqualsIgnoreCase nombre "COPY_STRING".toList = true) :
    SigueTrasDenegacion cpu tamPagina pid c instruccion ↔
      ∃ tam, (instruccion.splitOn ' ')[1]? = some tam ∧ CopiaDenegada cpu tamPagina pid c tam := by
  have hno : ∀ y, stringEqualsIgnoreCase "COPY_STRING".toList y = false →
      stringEqualsIgnoreCase nombre y = false := fun _ hy => not_stringEquals_of_equals h hy
  unfold SigueTrasDenegacion
  dsimp only
  rw [hnombre, h, hno "IO_STDOUT_WRITE".toList (by decide),
    hno "IO_STDIN_READ".toList (by decide), hno "IO_FS_WRITE".toList (by decide),
    hno "IO_FS_READ".toList (by decide)]
  simp only [Bool.false_eq_true, or_self, false_and, or_false, true_and]

theorem sigueTrasDenegacion_stdio {instruccion nombre : Cadena}
    (hnombre : (instruccion.splitOn ' ').headD [] = nombre)
    (h : stringEqualsIgnoreCase nombre "IO_STDOUT_WRITE".toList = true ∨
      stringEqualsIgnoreCase nombre "IO_STDIN_READ".toList = true) :
    SigueTrasDenegacion cpu tamPagina pid c instruccion ↔
      4 ≤ (instruccion.splitOn ' ').length ∧
        c.denegadoEn cpu tamPagina pid (instruccion.splitOn ' ') 2 = true := by
  have hno : ∀ y, stringEqualsIgnoreCase "IO_STDOUT_WRITE".toList y = false →
      stringEqualsIgnoreCase "IO_STDIN_READ".toList y = false →
      stringEqualsIgnoreCase nombre y = false := fun _ h1 h2 => not_stringEquals_of_or h h1 h2
  unfold SigueTrasDenegacion
  dsimp only
  rw [hnombre, hno "COPY_STRING".toList (by decide) (by decide),
    hno "IO_FS_WRITE".toList (by decide) (by decide),
    hno "IO_FS_READ".toList (by decide) (by decide)]
  simp only [Bool.false_eq_true, or_self, false_and, or_false, false_or, h, true_and]

theorem sigueTrasDenegacion_fs {instruccion nombre : Cadena}
    (hnombre : (instruccion.splitOn ' ').headD [] = nombre)
    (h : stringEqualsIgnoreCase nombre "IO_FS_WRITE".toList = true ∨
      stringEqualsIgnoreCase nombre "IO_FS_READ".toList = true) :
    SigueTrasDenegacion cpu tamPagina pid c instruccion ↔
      6 ≤ (instruccion.splitOn ' ').length ∧
        c.denegadoEn cpu tamPagina pid (instruccion.splitOn ' ') 3 = true := by
  have hno : ∀ y, stringEqualsIgnoreCase "IO_FS_WRITE".toList y = false →
      stringEqualsIgnoreCase "IO_FS_READ".toList y = false →
      stringEqualsIgnoreCase nombre y = false := fun _ h1 h2 => not_stringEquals_of_or h h1 h2
  unfold SigueTrasDenegacion
  dsimp only
  rw [hnombre, hno "COPY_STRING".toList (by decide) (by decide),
    hno "IO_STDOUT_WRITE".toList (by decide) (by decide),
    hno "IO_STDIN_READ".toList (by decide) (by decide)]
  simp only [Bool.false_eq_true, or_self, false_and, false_or, h, true_and]

/-- An instruction that asks for nothing after a translation. -/
theorem ejecutar_detiene {i : Instruccion} (h : i.pideTrasTraducir = false) :
    Detiene pid c (ejecutar cpu tamPagina pid c i) := by
  cases i with
  | set | sum | sub | jnz | ninguna => exact Detiene.of_concedidos rfl (Nat.zero_le _)
  | movIn => exact movIn_detiene _ _
  | movOut => exact movOut_detiene _ _
  | resize => exact resize_detiene _
  | waitOSignal | ioGenSleep | ioFsCreateODelete | ioFsTruncate | exit =>
    exact avisar_detiene le_rfl
  | copyString => cases h
  | ioStdoutWriteOStdinRead => cases h
  | ioFsWriteORead => cases h

/-- A line that is not decoded does nothing. -/
theorem none_detiene {f : Instruccion → Traced Efecto Registros} :
    Detiene pid c (ofOption none >>= f) :=
  Detiene.of_concedidos rfl (Nat.zero_le _)

/-- **When a denied translation stops the instruction.**  Whatever the registers, the TLB, the
tables and the answers of memoria, the instruction sends one packet at most, and stops at a denied
translation, exactly when it does not go on after one as COPY_STRING and the instructions of
input and output do. -/
theorem detiene_iff (cpu : CpuConfiguracion) (tamPagina pid : ℕ) (c : Contexto)
    (instruccion : Cadena) :
    Detiene pid c (hacerInstruccion cpu tamPagina pid c instruccion) ↔
      ¬ SigueTrasDenegacion cpu tamPagina pid c instruccion := by
  unfold hacerInstruccion
  cases hnombre : (instruccion.splitOn ' ')[0]? with
  | none =>
    have hvacia : (instruccion.splitOn ' ').headD [] = [] := by
      rw [List.headD_eq_head?_getD, List.head?_eq_getElem?, hnombre]
      rfl
    have hnada : decodificar instruccion = none := by
      unfold decodificar
      dsimp only
      rw [hnombre, Option.bind_none]
    rw [hnada]
    exact iff_of_true none_detiene (not_sigueTrasDenegacion hvacia (by decide))
  | some nombre =>
    have hhead := headD_splitOn hnombre
    rcases nombresTrasTraducir_cases nombre with hx | hx | hx | hotro
    · -- `COPY_STRING`
      rw [decodificar_copyString hnombre hx, sigueTrasDenegacion_copyString hhead hx]
      cases (instruccion.splitOn ' ')[1]? with
      | none => exact iff_of_true none_detiene (by simp)
      | some tam =>
        rw [Option.map_some, ofOption_some_bind]
        simpa [ejecutar] using copyString_detiene_iff tam
    · -- `IO_STDOUT_WRITE` and `IO_STDIN_READ`
      rw [decodificar_stdio hnombre hx, sigueTrasDenegacion_stdio hhead hx]
      generalize instruccion.splitOn ' ' = datos
      by_cases hlen : 4 ≤ datos.length
      · have h1 : 1 < datos.length := by omega
        have h2 : 2 < datos.length := by omega
        have h3 : 3 < datos.length := by omega
        rw [Contexto.denegadoEn, List.getElem?_eq_getElem h1, List.getElem?_eq_getElem h2,
          List.getElem?_eq_getElem h3, Option.bind_some, Option.bind_some, Option.map_some,
          ofOption_some_bind]
        simpa [ejecutar, hlen] using ioStdoutWriteOStdinRead_detiene_iff nombre _ _ _
      · -- the last operand is missing
        have hfalta : datos[3]? = none := List.getElem?_eq_none (by omega)
        rw [hfalta]
        simp only [Option.map_none, Option.bind_fun_none]
        exact iff_of_true none_detiene (by simp [hlen])
    · -- `IO_FS_WRITE` and `IO_FS_READ`
      rw [decodificar_fs hnombre hx, sigueTrasDenegacion_fs hhead hx]
      generalize instruccion.splitOn ' ' = datos
      by_cases hlen : 6 ≤ datos.length
      · have h1 : 1 < datos.length := by omega
        have h2 : 2 < datos.length := by omega
        have h3 : 3 < datos.length := by omega
        have h4 : 4 < datos.length := by omega
        have h5 : 5 < datos.length := by omega
        rw [Contexto.denegadoEn, List.getElem?_eq_getElem h1, List.getElem?_eq_getElem h2,
          List.getElem?_eq_getElem h3, List.getElem?_eq_getElem h4, List.getElem?_eq_getElem h5,
          Option.bind_some, Option.bind_some, Option.bind_some, Option.bind_some, Option.map_some,
          ofOption_some_bind]
        simpa [ejecutar, hlen] using ioFsWriteORead_detiene_iff nombre _ _ _ _ _
      · -- the last operand is missing
        have hfalta : datos[5]? = none := List.getElem?_eq_none (by omega)
        rw [hfalta]
        simp only [Option.map_none, Option.bind_fun_none]
        exact iff_of_true none_detiene (by simp [hlen])
    · -- another name
      refine iff_of_true ?_ (not_sigueTrasDenegacion hhead hotro)
      cases hi : decodificar instruccion with
      | none => exact none_detiene
      | some i => exact ejecutar_detiene (decodificar_otro hnombre hotro hi)

/-- A process without pages. -/
def sinPaginas : Contexto where
  registros := ⟨0, 0, 0, 0, 0, 0, 0, 0, 0, 0, 0⟩
  tlb := []
  obtenerMarcoMemoria _ := -1
  respuestaResize _ := "OK".toList
  leido _ _ := some []

/-- **COPY_STRING goes on.**  It reads and writes at the address `-1`, and the kernel gets two
packets; so it does for IO_STDIN_READ, with the address `-1` in the second one. -/
theorem detiene_no_copyString :
    (hacerInstruccion ⟨0, "FIFO".toList⟩ 16 1 sinPaginas "COPY_STRING 4".toList).effects =
      [.marco 0 (-1), .kernel ⟨1, "DENIED_ACCESS".toList, []⟩, .leer (-1) "4".toList,
        .marco 0 (-1), .kernel ⟨1, "DENIED_ACCESS".toList, []⟩, .escribir (-1) 0 [0]] ∧
    (hacerInstruccion ⟨0, "FIFO".toList⟩ 16 1 sinPaginas
        "IO_STDIN_READ TECLADO EAX EBX".toList).effects =
      [.marco 0 (-1), .kernel ⟨1, "DENIED_ACCESS".toList, []⟩,
        .kernel ⟨1, "IO_STDIN_READ".toList, ["TECLADO".toList, "-1".toList, "0".toList]⟩] ∧
    ¬ Detiene 1 sinPaginas
      (hacerInstruccion ⟨0, "FIFO".toList⟩ 16 1 sinPaginas "COPY_STRING 4".toList) ∧
    ¬ Detiene 1 sinPaginas
      (hacerInstruccion ⟨0, "FIFO".toList⟩ 16 1 sinPaginas
        "IO_STDIN_READ TECLADO EAX EBX".toList) := by
  refine ⟨by decide, by decide, fun h => ?_, fun h => ?_⟩
  · exact absurd h.uno (by decide)
  · exact absurd h.uno (by decide)

end SimuladorSO.Cpu.Efectos
