import SimuladorSO.Cpu.Aislamiento
import SimuladorSO.Cpu.Ciclo

/-!
# An instruction stays with its process

An instruction of a CPU whose TLB agrees with the page tables and whose connection is in step.  When
its addresses are not negative and memoria has no more than one reply to send for each request
(`Confinada`), nobody else sees what it does, and what it does depends only on what its process
sees; RESIZE, which takes frames out of those that nobody has, is the exception to the second part.

* `Sano`: the TLB and the connection are as they should be;
* `traducir_eq`: what a translation then is;
* `SoloSuyo`, `Parecido`: what nobody else sees, and what the process cannot tell apart;
* `ejecutar_juntos`: an instruction other than RESIZE in two states that its process cannot tell
  apart;
* `ejecutar_soloSuyo`: what any instruction leaves as it was for the others.
-/

namespace SimuladorSO.Cpu.Ciclo

open CInt Dictionary Commons LittleEndian Memoria Tracing

variable (cpu : CpuConfiguracion) (cfg : MemoriaConfiguracion)

/-- The TLB agrees with the page tables, and there is nothing left to read. -/
structure Sano (contadorPid : ℤ) (s : EstadoCpu) : Prop where
  valido : Valido cfg cpu ⟨s.memoria, s.tlb, contadorPid⟩
  coherente : TlbCoherente s.memoria s.tlb
  pendientes : s.pendientes = []

/-- The address is not negative, or there is no frame for its page. -/
def DireccionSana (m : Memoria.Estado) (pid l : ℤ) : Prop :=
  0 ≤ l ∨ obtenerMarco m pid (obtenerPagina cfg.tamPagina l) = -1

/-- The address is in a mapped page. -/
def Concedida (m : Memoria.Estado) (pid l : ℤ) : Prop :=
  0 ≤ l ∧ obtenerMarco m pid (obtenerPagina cfg.tamPagina l) ≠ -1

/-- What memoria answers to a read, if it is one packet. -/
def leidoDe (m : Memoria.Estado) (pid direccion n : ℤ) : Option (List UInt8) :=
  match leerMemoria cfg m direccion n pid with
  | some [.paquete (.bytes leido)] => some leido
  | _ => none

/-- The conditions on what an instruction does with memoria.  A write ends before the end of the
memory that the limit check looks for; COPY_STRING does not go on without an address; and RESIZE
touches no page that the TLB holds. -/
def Confinada (s : EstadoCpu) (pid : ℕ) : Instruccion → Prop
  | .movIn _ registroDireccion =>
    DireccionSana cfg s.memoria pid (obtenerValor s.registros registroDireccion)
  | .movOut registroDireccion registroDatos =>
    DireccionSana cfg s.memoria pid (obtenerValor s.registros registroDireccion) ∧
      DentroDelLimite cfg
        (direccionTraducida cfg s.memoria pid (obtenerValor s.registros registroDireccion))
        (obtenerTamanioRegistro registroDatos)
  | .copyString tam =>
    Concedida cfg s.memoria pid (obtenerValor s.registros "SI".toList) ∧
      Concedida cfg s.memoria pid (obtenerValor s.registros "DI".toList) ∧
      ∀ leido, leidoDe cfg s.memoria pid
          (direccionTraducida cfg s.memoria pid (obtenerValor s.registros "SI".toList))
          (atoi tam) = some leido →
        DentroDelLimite cfg
          (direccionTraducida cfg s.memoria pid (obtenerValor s.registros "DI".toList))
          (hastaCero leido).length
  | .resize nuevoTam =>
    SinTocarTlb cfg ⟨s.memoria, s.tlb, 0⟩ (.redimensionar pid (atoi nuevoTam))
  | _ => True

/-- The state is as it should be, and what is of no process or of another one is as it was. -/
structure SoloSuyo (contadorPid : ℤ) (pid : ℕ) (s s' : EstadoCpu) : Prop where
  sano : Sano cpu cfg contadorPid s'
  otros : ∀ q : ℤ, q ≠ pid → Igual cfg q s.memoria s'.memoria
  guiones : s'.memoria.diccionarioInstrucciones = s.memoria.diccionarioInstrucciones
  vivos : ∀ q, Vivo s'.memoria q ↔ Vivo s.memoria q

/-- The process cannot tell the states apart. -/
structure Parecido (pid : ℕ) (s s' : EstadoCpu) : Prop where
  registros : s'.registros = s.registros
  memoria : Igual cfg pid s.memoria s'.memoria

/-- Two states after those that the process could not tell apart, which it still cannot. -/
structure Juntos (contadorPid contadorPid' : ℤ) (pid : ℕ) (s₀ s₀' s s' : EstadoCpu) : Prop where
  izquierda : SoloSuyo cpu cfg contadorPid pid s₀ s
  derecha : SoloSuyo cpu cfg contadorPid' pid s₀' s'
  parecido : Parecido cfg pid s s'

variable {cpu} {cfg} {s s' s₀ s₀' s₁ s₁' : EstadoCpu} {pid : ℕ} {contadorPid contadorPid' : ℤ}

/-! ### Translations -/

theorem direccionTraducida_cases (he : MarcosExclusivos cfg s.memoria) {l : ℤ}
    (h : DireccionSana cfg s.memoria pid l) :
    direccionTraducida cfg s.memoria pid l = -1 ∨
      (0 ≤ direccionTraducida cfg s.memoria pid l ∧
        SuByte cfg s.memoria pid (direccionTraducida cfg s.memoria pid l)) := by
  by_cases hmarco : obtenerMarco s.memoria pid (obtenerPagina cfg.tamPagina l) = -1
  · refine Or.inl ?_
    unfold direccionTraducida direccionEnMarco
    rw [hmarco, if_neg (by simp)]
  · have hl : 0 ≤ l := h.resolve_right hmarco
    have ht := tamPagina_pos_int cfg
    have hmap := (obtenerMarco_cases s.memoria pid
      (obtenerPagina cfg.tamPagina l)).resolve_left hmarco
    have hm0 := SuMarco.nonneg he ⟨_, hmap⟩
    rw [obtenerPagina_eq hl] at hmap hm0
    rw [direccionTraducida_eq hm0 hl hmap, direccionFisica]
    have hoff := Int.emod_nonneg l ht.ne'
    have hlt := Int.emod_lt_of_pos l ht
    refine Or.inr ⟨add_nonneg (mul_nonneg hm0 ht.le) hoff, ⟨l / cfg.tamPagina, ?_⟩⟩
    rw [add_comm, Int.add_mul_ediv_right _ _ ht.ne', Int.ediv_eq_zero_of_lt hoff hlt, zero_add]
    exact hmap

/-- An address from a translation begins a walk in the frames of the process. -/
theorem tramoPropio_traducida (he : MarcosExclusivos cfg s.memoria) {l : ℤ}
    (h : DireccionSana cfg s.memoria pid l)
    (hne : direccionTraducida cfg s.memoria pid l ≠ -1) (n : ℤ) :
    TramoPropio s.memoria pid
      (Recorrido.inicial cfg (direccionTraducida cfg s.memoria pid l) n) := by
  obtain ⟨h0, hsuyo⟩ := (direccionTraducida_cases he h).resolve_left hne
  exact tramoPropio_inicial h0 hsuyo n

theorem Concedida.ne (he : MarcosExclusivos cfg s.memoria) {l : ℤ}
    (h : Concedida cfg s.memoria pid l) : direccionTraducida cfg s.memoria pid l ≠ -1 := by
  intro heq
  have ht := tamPagina_pos_int cfg
  have hmap := (obtenerMarco_cases s.memoria pid
    (obtenerPagina cfg.tamPagina l)).resolve_left h.2
  have hm0 := SuMarco.nonneg he ⟨_, hmap⟩
  rw [obtenerPagina_eq h.1] at hmap hm0
  rw [direccionTraducida_eq hm0 h.1 hmap, direccionFisica] at heq
  have hoff := Int.emod_nonneg l ht.ne'
  have := mul_nonneg hm0 ht.le
  omega

/-- **What a translation is.**  It gives the address in the frame that memoria has for the page, and
sends a packet when it has none. -/
theorem traducir_eq (h : Sano cpu cfg contadorPid s) (hv : Vivo s.memoria pid)
    (registro : Cadena) :
    ∃ tlb, Sano cpu cfg contadorPid { s with tlb := tlb } ∧
      traducir cpu cfg s pid registro =
        ⟨if obtenerMarco s.memoria pid
            (obtenerPagina cfg.tamPagina (obtenerValor s.registros registro)) = -1 then
          [⟨s.registros, ⟨pid, "DENIED_ACCESS".toList, []⟩⟩] else [],
        some (direccionTraducida cfg s.memoria pid (obtenerValor s.registros registro),
          { s with tlb := tlb })⟩ := by
  have hcoh := h.valido.coherente_iff_tlb.2 h.coherente
  obtain ⟨tlb, htlb⟩ := hcoh.traduccion pid (obtenerValor s.registros registro) hv
  have hpaso : Cpu.paso cfg cpu ⟨s.memoria, s.tlb, contadorPid⟩
      (.traducir pid (obtenerValor s.registros registro)) =
        some ⟨s.memoria, tlb, contadorPid⟩ := by
    show (Cpu.obtenerDireccionFisica _ _ _ _ _ _).map _ = _
    rw [htlb]
    rfl
  have hvalido := paso_valido h.valido hpaso
  have hcoh' := (paso_coherente_iff h.valido hcoh hpaso).2 trivial
  have hmarco : marcoParaPagina cpu (obtenerMarco s.memoria pid) s.tlb pid
      (obtenerPagina cfg.tamPagina (obtenerValor s.registros registro)) =
        obtenerMarco s.memoria pid
          (obtenerPagina cfg.tamPagina (obtenerValor s.registros registro)) := by
    unfold marcoParaPagina
    split_ifs with hpide
    · rfl
    · exact (h.coherente.buscar hv _).resolve_left fun hmiss => hpide (Or.inr hmiss)
  have hdenegado : (contexto cfg s pid).denegado cpu cfg.tamPagina pid registro = true ↔
      obtenerMarco s.memoria pid
        (obtenerPagina cfg.tamPagina (obtenerValor s.registros registro)) = -1 := by
    rw [← hmarco]
    exact beq_iff_eq
  have hvalue : (traducir cpu cfg s pid registro).value =
      some (direccionTraducida cfg s.memoria pid (obtenerValor s.registros registro),
        { s with tlb := tlb }) := by
    show traducirDireccion cpu cfg s pid (obtenerValor s.registros registro) = _
    rw [traducirDireccion_de_marco h.pendientes, htlb]
    rfl
  refine ⟨tlb, ⟨hvalido, hvalido.coherente_iff_tlb.1 hcoh', h.pendientes⟩, ?_⟩
  rw [← hvalue]
  refine congrArg (Traced.mk · _) ((traducir_effects h.pendientes registro).trans ?_)
  simp only [hdenegado]

/-! ### The two relations -/

theorem SoloSuyo.refl (h : Sano cpu cfg contadorPid s) : SoloSuyo cpu cfg contadorPid pid s s :=
  ⟨h, fun q _ => .refl q s.memoria, rfl, fun _ => Iff.rfl⟩

theorem SoloSuyo.trans (h : SoloSuyo cpu cfg contadorPid pid s₀ s)
    (h' : SoloSuyo cpu cfg contadorPid pid s s₁) : SoloSuyo cpu cfg contadorPid pid s₀ s₁ :=
  ⟨h'.sano, fun q hq => (h.otros q hq).trans (h'.otros q hq), h'.guiones.trans h.guiones,
    fun q => (h'.vivos q).trans (h.vivos q)⟩

/-- The registers before are of no concern. -/
theorem SoloSuyo.antes {registros : Registros}
    (h : SoloSuyo cpu cfg contadorPid pid { s with registros := registros } s') :
    SoloSuyo cpu cfg contadorPid pid s s' :=
  ⟨h.sano, h.otros, h.guiones, h.vivos⟩

/-- What the registers and the TLB are is of nobody else. -/
theorem SoloSuyo.de_memoria (h : Sano cpu cfg contadorPid s') (hm : s'.memoria = s.memoria) :
    SoloSuyo cpu cfg contadorPid pid s s' := by
  refine ⟨h, fun q _ => ?_, by rw [hm], fun q => by rw [hm]⟩
  rw [hm]
  exact .refl q s.memoria

theorem Sano.conRegistros (h : Sano cpu cfg contadorPid s) (registros : Registros) :
    Sano cpu cfg contadorPid { s with registros := registros } :=
  ⟨h.valido, h.coherente, h.pendientes⟩

/-- The bytes of the memory are of no concern to the tables. -/
theorem Sano.conEspacio (h : Sano cpu cfg contadorPid s) (espacio : ℤ → UInt8) :
    Sano cpu cfg contadorPid
      { s with memoria := { s.memoria with espacioMemoria := espacio } } :=
  ⟨⟨h.valido.exclusivos, h.valido.contador, h.valido.vivos, h.valido.tlb⟩, h.coherente,
    h.pendientes⟩

theorem Parecido.vivo (h : Parecido cfg pid s s') : Vivo s'.memoria pid ↔ Vivo s.memoria pid := by
  unfold Vivo
  rw [h.memoria.tabla]

theorem Parecido.direccionTraducida (h : Parecido cfg pid s s') (l : ℤ) :
    direccionTraducida cfg s'.memoria pid l = direccionTraducida cfg s.memoria pid l := by
  unfold Cpu.direccionTraducida
  rw [h.memoria.obtenerMarco]

theorem Juntos.trans (h : Juntos cpu cfg contadorPid contadorPid' pid s₀ s₀' s s')
    (h' : Juntos cpu cfg contadorPid contadorPid' pid s s' s₁ s₁') :
    Juntos cpu cfg contadorPid contadorPid' pid s₀ s₀' s₁ s₁' :=
  ⟨h.izquierda.trans h'.izquierda, h.derecha.trans h'.derecha, h'.parecido⟩

/-- Changes to the registers and the TLB alone. -/
theorem Juntos.de_memoria (h : Sano cpu cfg contadorPid s₁) (h' : Sano cpu cfg contadorPid' s₁')
    (hm : s₁.memoria = s.memoria) (hm' : s₁'.memoria = s'.memoria)
    (hp : Igual cfg pid s.memoria s'.memoria) (hr : s₁'.registros = s₁.registros) :
    Juntos cpu cfg contadorPid contadorPid' pid s s' s₁ s₁' :=
  ⟨.de_memoria h hm, .de_memoria h' hm', hr, by rw [hm, hm']; exact hp⟩

/-! ### The parts of an instruction -/

section Partes

variable (hs : Sano cpu cfg contadorPid s) (hs' : Sano cpu cfg contadorPid' s')
  (hp : Parecido cfg pid s s')

include hs hs' hp

theorem avisar_juntos (motivo : Cadena) (lista : List Cadena) :
    Matches (Juntos cpu cfg contadorPid contadorPid' pid s s') (avisar s pid motivo lista)
      (avisar s' pid motivo lista) := by
  rintro _ ⟨⟩
  refine ⟨s', rfl, ?_, .refl hs, .refl hs', hp⟩
  show [Aviso.mk s'.registros _] ++ [] = [Aviso.mk s.registros _] ++ []
  rw [hp.registros]

theorem conRegistros_juntos (f : Registros → Option Registros) :
    Matches (Juntos cpu cfg contadorPid contadorPid' pid s s') (conRegistros s (f s.registros))
      (conRegistros s' (f s'.registros)) := by
  refine matches_ofOption fun s₁ hs₁ => ?_
  obtain ⟨registros, hf, rfl⟩ := Option.map_eq_some_iff.1 hs₁
  rw [hp.registros, hf]
  exact ⟨_, rfl, .de_memoria (hs.conRegistros registros) (hs'.conRegistros registros) rfl rfl
    hp.memoria rfl⟩

/-- The translations of both states give the same address, and change nothing but the TLB. -/
theorem traducir_juntos (hv : Vivo s.memoria pid) (registro : Cadena) :
    Matches (fun a b =>
        a.1 = direccionTraducida cfg s.memoria pid (obtenerValor s.registros registro) ∧
        b.1 = a.1 ∧ (∃ tlb, a.2 = { s with tlb := tlb }) ∧ (∃ tlb, b.2 = { s' with tlb := tlb }) ∧
        Juntos cpu cfg contadorPid contadorPid' pid s s' a.2 b.2)
      (traducir cpu cfg s pid registro) (traducir cpu cfg s' pid registro) := by
  obtain ⟨tlb, hsano, htraducir⟩ := traducir_eq hs hv registro
  obtain ⟨tlb', hsano', htraducir'⟩ := traducir_eq hs' (hp.vivo.2 hv) registro
  rw [htraducir, htraducir']
  rintro _ ⟨⟩
  refine ⟨_, rfl, ?_, rfl, ?_, ⟨tlb, rfl⟩, ⟨tlb', rfl⟩,
    .de_memoria hsano hsano' rfl rfl hp.memoria hp.registros⟩
  · dsimp only
    rw [hp.registros, hp.memoria.obtenerMarco]
  · dsimp only
    rw [hp.registros, hp.direccionTraducida]

end Partes

/-- A read over a connection in step gets the one packet that memoria answers with. -/
theorem pedir_leidoDe {β : Type} (hpend : s.pendientes = []) (direccion n : ℤ)
    (f : List UInt8 → β) :
    ((pedir cfg s (.leer pid direccion n)).bind fun (envio, s) =>
      match envio with
      | .paquete (.bytes leido) => some (f leido, s)
      | _ => none) = (leidoDe cfg s.memoria pid direccion n).map fun leido => (f leido, s) := by
  have hrecibir : recibirInfoCpu cfg s.memoria (.leer pid direccion n) =
      (leerMemoria cfg s.memoria direccion n pid).map fun envios => (s.memoria, envios) := rfl
  unfold leidoDe
  cases hleer : leerMemoria cfg s.memoria direccion n pid with
  | none =>
    unfold pedir
    rw [hrecibir, hleer]
    rfl
  | some envios =>
    rw [hleer, Option.map_some] at hrecibir
    obtain ⟨mensaje, huboError, -, rfl⟩ := leerMemoria_eq_some hleer
    dsimp only at hrecibir ⊢
    rcases verificarLimiteMemoria_cases cfg direccion n with ⟨-, hlimite⟩ | ⟨-, hlimite⟩
    · have hs : { s with memoria := s.memoria, pendientes := [] } = s := by rw [← hpend]
      rw [hlimite, List.nil_append] at hrecibir ⊢
      rw [pedir_eq hpend hrecibir, Option.bind_some, hs]
      cases huboError <;> rfl
    · rw [hlimite] at hrecibir ⊢
      rw [pedir_eq hpend hrecibir]
      rfl

theorem leerValorMemoria_leidoDe (hpend : s.pendientes = []) (direccion : ℤ) :
    leerValorMemoria cfg s pid direccion =
      (leidoDe cfg s.memoria pid direccion tamanioLectura).map fun leido => (leido, s) :=
  pedir_leidoDe hpend direccion tamanioLectura id

theorem leerValorMemoriaPrima_leidoDe (hpend : s.pendientes = []) (direccion : ℤ) (tam : Cadena) :
    leerValorMemoriaPrima cfg s pid direccion tam =
      (leidoDe cfg s.memoria pid direccion (atoi tam)).map fun leido => (hastaCero leido, s) :=
  pedir_leidoDe hpend direccion (atoi tam) hastaCero

theorem leidoDe_igual (he : MarcosExclusivos cfg s.memoria)
    (h : Igual cfg pid s.memoria s'.memoria) {direccion n : ℤ}
    (hpropio : TramoPropio s.memoria pid (Recorrido.inicial cfg direccion n)) :
    leidoDe cfg s'.memoria pid direccion n = leidoDe cfg s.memoria pid direccion n := by
  unfold Ciclo.leidoDe
  rw [leerMemoria_igual he h hpropio]

/-- A write that passes the limit check over a connection in step leaves nothing to read. -/
theorem escribirEnMemoria_dentro (hpend : s.pendientes = []) {dato : List UInt8}
    {tamanio direccion : ℤ} (hdentro : DentroDelLimite cfg direccion tamanio) :
    escribirEnMemoria cfg s pid dato tamanio direccion =
      (escribirMemoria cfg s.memoria direccion dato tamanio pid).map fun (m, _) =>
        { s with memoria := m } := by
  have hlimite := ((verificarLimiteMemoria_cases cfg direccion tamanio).resolve_right
    fun h => h.1 hdentro).2
  have hrecibir : recibirInfoCpu cfg s.memoria (.escribir pid direccion tamanio dato) =
      escribirMemoria cfg s.memoria direccion dato tamanio pid := rfl
  unfold escribirEnMemoria
  cases hescribir : escribirMemoria cfg s.memoria direccion dato tamanio pid with
  | none =>
    unfold pedir
    rw [hrecibir, hescribir]
    rfl
  | some r =>
    obtain ⟨m, envios⟩ := r
    obtain ⟨visitados, huboError, -, -, rfl⟩ := escribirMemoria_eq_some hescribir
    rw [hlimite, List.nil_append] at hescribir
    rw [pedir_eq hpend (hrecibir.trans hescribir), ← hpend]
    rfl

/-- A write of both states in frames of the process. -/
theorem escribirEnMemoria_juntos (hs : Sano cpu cfg contadorPid s)
    (hs' : Sano cpu cfg contadorPid' s') (hp : Parecido cfg pid s s') (dato : List UInt8)
    {tamanio direccion : ℤ} (hdentro : DentroDelLimite cfg direccion tamanio)
    (hpropio : TramoPropio s.memoria pid (Recorrido.inicial cfg direccion tamanio)) :
    Matches (Juntos cpu cfg contadorPid contadorPid' pid s s')
      (ofOption (escribirEnMemoria cfg s pid dato tamanio direccion) : Traced Aviso EstadoCpu)
      (ofOption (escribirEnMemoria cfg s' pid dato tamanio direccion)) := by
  rw [escribirEnMemoria_dentro hs.pendientes hdentro,
    escribirEnMemoria_dentro hs'.pendientes hdentro]
  refine matches_ofOption fun s₁ hs₁ => ?_
  obtain ⟨⟨m, envios⟩, hescribir, rfl⟩ := Option.map_eq_some_iff.1 hs₁
  obtain ⟨m', hescribir', higual⟩ := escribirMemoria_igual hp.memoria hescribir
  have hpropio' : TramoPropio s'.memoria pid (Recorrido.inicial cfg direccion tamanio) :=
    fun hpos => (hpropio hpos).imp_right fun h => ⟨(SuMarco.congr hp.memoria.tabla).2 h.1, h.2⟩
  refine ⟨{ s' with memoria := m' }, by rw [hescribir']; rfl, ⟨?_, ?_, ?_, fun q => ?_⟩,
    ⟨?_, ?_, ?_, fun q => ?_⟩, hp.registros, higual⟩
  · obtain ⟨visitados, huboError, -, rfl, -⟩ := escribirMemoria_eq_some hescribir
    exact hs.conEspacio _
  · exact fun q hq => escribirMemoria_ajeno hs.valido.exclusivos hpropio hescribir hq
  · obtain ⟨visitados, huboError, -, rfl, -⟩ := escribirMemoria_eq_some hescribir
    rfl
  · obtain ⟨visitados, huboError, -, rfl, -⟩ := escribirMemoria_eq_some hescribir
    rfl
  · obtain ⟨visitados, huboError, -, rfl, -⟩ := escribirMemoria_eq_some hescribir'
    exact hs'.conEspacio _
  · exact fun q hq => escribirMemoria_ajeno hs'.valido.exclusivos hpropio' hescribir' hq
  · obtain ⟨visitados, huboError, -, rfl, -⟩ := escribirMemoria_eq_some hescribir'
    rfl
  · obtain ⟨visitados, huboError, -, rfl, -⟩ := escribirMemoria_eq_some hescribir'
    rfl

/-! ### Instructions in two states -/

section Instrucciones

variable (hs : Sano cpu cfg contadorPid s) (hs' : Sano cpu cfg contadorPid' s')
  (hp : Parecido cfg pid s s') (hv : Vivo s.memoria pid)

include hs hs' hp hv

theorem movIn_juntos {registroDireccion : Cadena} (registroDatos : Cadena)
    (hc : Confinada cfg s pid (.movIn registroDatos registroDireccion)) :
    Matches (Juntos cpu cfg contadorPid contadorPid' pid s s')
      (movIn cpu cfg s pid registroDatos registroDireccion)
      (movIn cpu cfg s' pid registroDatos registroDireccion) := by
  refine (traducir_juntos hs hs' hp hv registroDireccion).bind ?_
  rintro ⟨_, s₁⟩ ⟨d, s₁'⟩ ⟨hd, rfl, ⟨tlb, rfl⟩, ⟨tlb', rfl⟩, hj⟩
  dsimp only at hd hj ⊢
  by_cases hne : d = -1
  · rw [if_neg (not_not.2 hne), if_neg (not_not.2 hne)]
    exact matches_ofOption fun _ h => by cases h
  · rw [if_pos hne, if_pos hne]
    have hpropio := tramoPropio_traducida hs.valido.exclusivos hc (hd ▸ hne) tamanioLectura
    rw [leerValorMemoria_leidoDe hj.izquierda.sano.pendientes,
      leerValorMemoria_leidoDe hj.derecha.sano.pendientes]
    dsimp only
    rw [hd, leidoDe_igual hs.valido.exclusivos hp.memoria hpropio]
    refine Matches.bind (R := fun a b => b.1 = a.1 ∧ a.2 = { s with tlb := tlb } ∧
      b.2 = { s' with tlb := tlb' }) (matches_ofOption fun a ha => ?_) ?_
    · obtain ⟨leido, hleido, rfl⟩ := Option.map_eq_some_iff.1 ha
      rw [hleido]
      exact ⟨_, rfl, rfl, rfl, rfl⟩
    · rintro ⟨leido, _⟩ ⟨_, _⟩ ⟨rfl, rfl, rfl⟩
      dsimp only
      split_ifs
      · exact matches_pure hj
      · refine matches_pure (hj.trans (.de_memoria (hj.izquierda.sano.conRegistros _)
          (hj.derecha.sano.conRegistros _) rfl rfl hp.memoria ?_))
        dsimp only
        rw [hp.registros]

theorem movOut_juntos {registroDireccion registroDatos : Cadena}
    (hc : Confinada cfg s pid (.movOut registroDireccion registroDatos)) :
    Matches (Juntos cpu cfg contadorPid contadorPid' pid s s')
      (movOut cpu cfg s pid registroDireccion registroDatos)
      (movOut cpu cfg s' pid registroDireccion registroDatos) := by
  unfold movOut
  dsimp only
  rw [hp.registros]
  refine (traducir_juntos hs hs' hp hv registroDireccion).bind ?_
  rintro ⟨_, s₁⟩ ⟨d, s₁'⟩ ⟨hd, rfl, ⟨tlb, rfl⟩, ⟨tlb', rfl⟩, hj⟩
  dsimp only at hd hj ⊢
  by_cases hne : d = -1
  · rw [if_neg (not_not.2 hne), if_neg (not_not.2 hne)]
    exact matches_pure hj
  · rw [if_pos hne, if_pos hne]
    have hpropio := tramoPropio_traducida hs.valido.exclusivos hc.1 (hd ▸ hne)
      (obtenerTamanioRegistro registroDatos)
    have hescribir := escribirEnMemoria_juntos hj.izquierda.sano hj.derecha.sano hj.parecido
      ((intBytes (obtenerValor s.registros registroDatos)).take
        (obtenerTamanioRegistro registroDatos).toNat) hc.2 hpropio
    rw [hd]
    exact hescribir.imp fun _ _ => hj.trans

theorem copyString_juntos {tam : Cadena} (hc : Confinada cfg s pid (.copyString tam)) :
    Matches (Juntos cpu cfg contadorPid contadorPid' pid s s') (copyString cpu cfg s pid tam)
      (copyString cpu cfg s' pid tam) := by
  obtain ⟨hsi, hdi, hdentro⟩ := hc
  have he := hs.valido.exclusivos
  refine (traducir_juntos hs hs' hp hv "SI".toList).bind ?_
  rintro ⟨_, s₁⟩ ⟨d, s₁'⟩ ⟨hd, rfl, ⟨tlb, rfl⟩, ⟨tlb', rfl⟩, hj⟩
  dsimp only at hd hj ⊢
  have hpropio := tramoPropio_traducida he (Or.inl hsi.1) (hsi.ne he) (atoi tam)
  rw [leerValorMemoriaPrima_leidoDe hj.izquierda.sano.pendientes,
    leerValorMemoriaPrima_leidoDe hj.derecha.sano.pendientes]
  dsimp only
  rw [hd, leidoDe_igual he hp.memoria hpropio]
  refine Matches.bind (R := fun a b => b.1 = a.1 ∧ a.2 = { s with tlb := tlb } ∧
    b.2 = { s' with tlb := tlb' } ∧ ∃ leido, a.1 = hastaCero leido ∧
      leidoDe cfg s.memoria pid
        (direccionTraducida cfg s.memoria pid (obtenerValor s.registros "SI".toList))
        (atoi tam) = some leido) (matches_ofOption fun a ha => ?_) ?_
  · obtain ⟨leido, hleido, rfl⟩ := Option.map_eq_some_iff.1 ha
    rw [hleido]
    exact ⟨_, rfl, rfl, rfl, rfl, leido, rfl, rfl⟩
  rintro ⟨_, _⟩ ⟨_, _⟩ ⟨rfl, rfl, rfl, leido, rfl, hleido⟩
  dsimp only
  refine (traducir_juntos hj.izquierda.sano hj.derecha.sano hj.parecido hv "DI".toList).bind ?_
  rintro ⟨_, s₂⟩ ⟨d', s₂'⟩ ⟨hd', rfl, ⟨tlb₂, rfl⟩, ⟨tlb₂', rfl⟩, hj'⟩
  dsimp only at hd' hj' ⊢
  have hescribir := escribirEnMemoria_juntos hj'.izquierda.sano hj'.derecha.sano hj'.parecido
    (hastaCero leido ++ [0]) (hdentro leido hleido)
    (tramoPropio_traducida he (Or.inl hdi.1) (hdi.ne he) (hastaCero leido).length)
  rw [hd']
  exact hescribir.imp fun _ _ => (hj.trans hj').trans

theorem pedirConDireccion_juntos (nombre registroDireccion : Cadena)
    (lista : ℤ → Registros → List Cadena) :
    Matches (Juntos cpu cfg contadorPid contadorPid' pid s s')
      (pedirConDireccion cpu cfg s pid nombre registroDireccion lista)
      (pedirConDireccion cpu cfg s' pid nombre registroDireccion lista) := by
  refine (traducir_juntos hs hs' hp hv registroDireccion).bind ?_
  rintro ⟨_, s₁⟩ ⟨d, s₁'⟩ ⟨-, rfl, ⟨tlb, rfl⟩, ⟨tlb', rfl⟩, hj⟩
  dsimp only at hj ⊢
  have havisar := avisar_juntos hj.izquierda.sano hj.derecha.sano hj.parecido nombre
    (lista d s.registros)
  have hlista : lista d s'.registros = lista d s.registros := by rw [hp.registros]
  rw [hlista]
  exact havisar.imp fun _ _ => hj.trans

/-- **What an instruction does depends on what its process sees**, and nobody else sees it: in two
states that the process cannot tell apart it sends the same packets with the same registers, and
the process cannot tell apart the states it leaves. -/
theorem ejecutar_juntos {i : Instruccion} (hc : Confinada cfg s pid i) (hi : i.esResize = false) :
    Matches (Juntos cpu cfg contadorPid contadorPid' pid s s') (ejecutar cpu cfg s pid i)
      (ejecutar cpu cfg s' pid i) := by
  cases i with
  | set registro valor =>
    exact conRegistros_juntos hs hs' hp fun r => some (setearValor r registro (atoi valor))
  | movIn registroDatos registroDireccion => exact movIn_juntos hs hs' hp hv registroDatos hc
  | movOut registroDireccion registroDatos => exact movOut_juntos hs hs' hp hv hc
  | sum destino origen =>
    exact conRegistros_juntos hs hs' hp fun r => Aritmetica.sum r destino origen
  | sub destino origen =>
    exact conRegistros_juntos hs hs' hp fun r => Aritmetica.sub r destino origen
  | jnz registro instruccion =>
    exact conRegistros_juntos hs hs' hp fun r => some (if obtenerValor r registro ≠ 0 then
      { r with pc := UInt32.ofInt (atoi instruccion) } else r)
  | resize nuevoTam => cases hi
  | copyString tam => exact copyString_juntos hs hs' hp hv hc
  | waitOSignal nombre recurso => exact avisar_juntos hs hs' hp nombre [recurso]
  | ioGenSleep nombre interfaz unidades =>
    exact avisar_juntos hs hs' hp nombre [interfaz, unidades]
  | ioStdoutWriteOStdinRead nombre interfaz registroDireccion registroTam =>
    exact pedirConDireccion_juntos hs hs' hp hv nombre registroDireccion _
  | ioFsCreateODelete nombre interfaz archivo =>
    exact avisar_juntos hs hs' hp nombre [interfaz, archivo]
  | ioFsTruncate nombre interfaz archivo registroTam =>
    have h := avisar_juntos hs hs' hp nombre
      [interfaz, archivo, itoa (obtenerValor s.registros registroTam)]
    unfold ejecutar
    rw [hp.registros]
    exact h
  | ioFsWriteORead nombre interfaz archivo registroDireccion registroTam registroPuntero =>
    exact pedirConDireccion_juntos hs hs' hp hv nombre registroDireccion _
  | exit => exact avisar_juntos hs hs' hp "EXIT".toList []
  | ninguna => exact matches_pure ⟨.refl hs, .refl hs', hp⟩

end Instrucciones

/-- The condition depends on what the process sees. -/
theorem Confinada.congr {i : Instruccion} (hs : Sano cpu cfg contadorPid s)
    (hp : Parecido cfg pid s s') (hi : i.esResize = false) (hc : Confinada cfg s pid i) :
    Confinada cfg s' pid i := by
  have he := hs.valido.exclusivos
  unfold Confinada at hc ⊢
  simp only [DireccionSana, Concedida, hp.registros, hp.direccionTraducida,
    hp.memoria.obtenerMarco] at hc ⊢
  cases i with
  | resize nuevoTam => cases hi
  | copyString tam =>
    refine ⟨hc.1, hc.2.1, fun leido hleido => hc.2.2 leido ?_⟩
    rw [← hleido]
    have hsi : Concedida cfg s.memoria pid (obtenerValor s.registros "SI".toList) := hc.1
    exact (leidoDe_igual he hp.memoria
      (tramoPropio_traducida he (Or.inl hsi.1) (hsi.ne he) (atoi tam))).symm
  | _ => exact hc

/-! ### RESIZE -/

/-- A reply is what RESIZE gets, and there is at most one. -/
theorem redimensionar_envios {m m' : Memoria.Estado} {tamanio : ℤ} {envio : Envio}
    {envios : List Envio}
    (h : redimensionarProceso cfg m pid tamanio = some (m', envio :: envios)) : envios = [] := by
  obtain ⟨tab, -, ⟨-, x, -, henvios, -⟩ | ⟨-, x, -, henvios, -⟩ | ⟨-, henvios, -⟩⟩ :=
    redimensionarProceso_cases h
  · exact (List.cons.inj henvios).2
  · exact (List.cons.inj henvios).2
  · cases henvios

theorem redimensionar_guiones {m m' : Memoria.Estado} {tamanio : ℤ} {envios : List Envio}
    (h : redimensionarProceso cfg m pid tamanio = some (m', envios)) :
    m'.diccionarioInstrucciones = m.diccionarioInstrucciones := by
  obtain ⟨tab, -, ⟨-, x, -, -, rfl⟩ | ⟨-, x, -, -, rfl⟩ | ⟨-, -, rfl⟩⟩ :=
    redimensionarProceso_cases h
  · rfl
  · rfl
  · rfl

theorem resize_soloSuyo (hs : Sano cpu cfg contadorPid s) {nuevoTam : Cadena}
    (hc : Confinada cfg s pid (.resize nuevoTam)) :
    Yields (resize cfg s pid nuevoTam) fun s' _ => SoloSuyo cpu cfg contadorPid pid s s' := by
  unfold resize
  refine Yields.bind (P := fun a _ => SoloSuyo cpu cfg contadorPid pid s a.2)
    (yields_ofOption ?_) ?_
  · rintro ⟨envio, s₁⟩ hpedir
    obtain ⟨⟨m, envios⟩, hr, hpedir⟩ := Option.bind_eq_some_iff.1 hpedir
    have hredimensionar : redimensionarProceso cfg s.memoria pid (atoi nuevoTam) =
        some (m, envios) := hr
    dsimp only at hpedir
    rw [hs.pendientes, List.nil_append] at hpedir
    cases envios with
    | nil => cases hpedir
    | cons envio' resto =>
      cases hpedir
      have hpaso : Cpu.paso cfg cpu ⟨s.memoria, s.tlb, contadorPid⟩
          (.redimensionar pid (atoi nuevoTam)) = some ⟨m, s.tlb, contadorPid⟩ := by
        show (redimensionarProceso _ _ _ _).map _ = _
        rw [hredimensionar]
        rfl
      have hvalido := paso_valido hs.valido hpaso
      have hcoherente := (paso_coherente_iff hs.valido
        (hs.valido.coherente_iff_tlb.2 hs.coherente) hpaso).2 hc
      exact ⟨⟨hvalido, hvalido.coherente_iff_tlb.1 hcoherente,
        redimensionar_envios hredimensionar⟩,
        fun q hq => redimensionarProceso_ajeno hredimensionar hq,
        redimensionar_guiones hredimensionar, redimensionarProceso_vivo hredimensionar⟩
  · rintro ⟨envio, s₁⟩ _ hs₁
    cases envio with
    | mensaje respuesta =>
      dsimp only
      split_ifs
      · rintro _ ⟨⟩
        exact hs₁
      · exact yields_pure hs₁
    | paquete valor => exact yields_pure hs₁

/-- **Nobody else sees an instruction.** -/
theorem ejecutar_soloSuyo (hs : Sano cpu cfg contadorPid s) (hv : Vivo s.memoria pid)
    {i : Instruccion} (hc : Confinada cfg s pid i) :
    Yields (ejecutar cpu cfg s pid i) fun s' _ => SoloSuyo cpu cfg contadorPid pid s s' := by
  by_cases hi : i.esResize = true
  · cases i with
    | resize nuevoTam => exact resize_soloSuyo hs hc
    | _ => cases hi
  · intro s' hs'
    obtain ⟨_, -, -, hj⟩ := ejecutar_juntos hs hs ⟨rfl, .refl pid s.memoria⟩ hv hc
      (Bool.not_eq_true _ ▸ hi) s' hs'
    exact hj.izquierda

/-! ### Turns of the loop -/

/-- The text of the instruction that the process is at. -/
def lineaProxima (m : Memoria.Estado) (pid : ℕ) (pc : UInt32) : Option Cadena :=
  (get m.diccionarioInstrucciones (pid : ℤ)).bind fun lista => lineaDe lista (int32 pc.toNat)

/-- The instruction that the process is at, if it is one that the CPU can take apart. -/
def proxima (m : Memoria.Estado) (pid : ℕ) (pc : UInt32) : Option Instruccion :=
  (lineaProxima m pid pc).bind decodificar

/-- The condition on a turn is that of its instruction. -/
def TurnoConfinado (cfg : MemoriaConfiguracion) (s : EstadoCpu) (pid : ℕ) : Prop :=
  ∀ i, proxima s.memoria pid s.registros.pc = some i →
    Confinada cfg { s with registros := avanzarPc s.registros } pid i

theorem ciclo_eq (hpend : s.pendientes = []) (pid : ℕ) :
    ciclo cpu cfg s pid = ofOption (proxima s.memoria pid s.registros.pc) >>= fun i =>
      ejecutar cpu cfg { s with registros := avanzarPc s.registros } pid i := by
  unfold ciclo hacerInstruccion proxima lineaProxima
  rw [pedirInstruccion_eq hpend]
  cases (get s.memoria.diccionarioInstrucciones (pid : ℤ)).bind fun lista =>
    lineaDe lista (int32 s.registros.pc.toNat) with
  | none => rfl
  | some instruccion => rfl

theorem ciclo_soloSuyo (hs : Sano cpu cfg contadorPid s) (hv : Vivo s.memoria pid)
    (hc : TurnoConfinado cfg s pid) :
    Yields (ciclo cpu cfg s pid) fun s' _ => SoloSuyo cpu cfg contadorPid pid s s' := by
  rw [ciclo_eq hs.pendientes]
  have hproxima : Yields (ofOption (proxima s.memoria pid s.registros.pc) : Traced Aviso _)
      fun i _ => proxima s.memoria pid s.registros.pc = some i := fun _ h => h
  refine hproxima.bind fun i _ hi => ?_
  have hejecutar := ejecutar_soloSuyo (hs.conRegistros (avanzarPc s.registros)) hv (hc i hi)
  exact hejecutar.imp fun _ _ h => h.antes

theorem Parecido.proxima (hp : Parecido cfg pid s s') :
    proxima s'.memoria pid s'.registros.pc = proxima s.memoria pid s.registros.pc := by
  unfold Ciclo.proxima lineaProxima
  rw [hp.registros, hp.memoria.guion]

theorem Parecido.avanzarPc (hp : Parecido cfg pid s s') :
    Parecido cfg pid { s with registros := avanzarPc s.registros }
      { s' with registros := Ciclo.avanzarPc s'.registros } :=
  ⟨congrArg Ciclo.avanzarPc hp.registros, hp.memoria⟩

theorem ciclo_juntos (hs : Sano cpu cfg contadorPid s) (hs' : Sano cpu cfg contadorPid' s')
    (hp : Parecido cfg pid s s') (hv : Vivo s.memoria pid) (hc : TurnoConfinado cfg s pid)
    (hi : ∀ i, proxima s.memoria pid s.registros.pc = some i → i.esResize = false) :
    Matches (Juntos cpu cfg contadorPid contadorPid' pid s s') (ciclo cpu cfg s pid)
      (ciclo cpu cfg s' pid) := by
  rw [ciclo_eq hs.pendientes, ciclo_eq hs'.pendientes, hp.proxima]
  refine Matches.bind (R := fun i i' => i' = i ∧ proxima s.memoria pid s.registros.pc = some i)
    (matches_ofOption fun i h => ⟨i, h, rfl, h⟩) ?_
  rintro _ i ⟨rfl, h⟩
  exact (ejecutar_juntos (hs.conRegistros _) (hs'.conRegistros _) hp.avanzarPc hv (hc i h)
    (hi i h)).imp fun _ _ hj => ⟨hj.izquierda.antes, hj.derecha.antes, hj.parecido⟩

theorem TurnoConfinado.congr (hs : Sano cpu cfg contadorPid s) (hp : Parecido cfg pid s s')
    (hi : ∀ i, proxima s.memoria pid s.registros.pc = some i → i.esResize = false)
    (hc : TurnoConfinado cfg s pid) : TurnoConfinado cfg s' pid := by
  intro i h
  rw [hp.proxima] at h
  exact (hc i h).congr (hs.conRegistros _) hp.avanzarPc (hi i h)

end SimuladorSO.Cpu.Ciclo
