import SimuladorSO.Cpu.Registros
import SimuladorSO.Library.Rounding
import SimuladorSO.Utils.Paquete

/-!
# The context of a process on the wire

`utils.c` writes the PCB as fourteen texts, and reads them back by their positions.

* `Flotante`: a C `float`, as its rational value;
* `agregarPcbAPaquete`, `cargarPcb`: the two directions, and `enviarContexto`, `recibirContexto` the
  packet on a connection;
* `intercambios`: the kernel dispatches the process and gets it back, any number of times.
-/

namespace SimuladorSO.Utils

open CInt Commons LittleEndian Readers Rounding Cpu

/-! ### Floats -/

/-- A `float`: 24 significant bits. -/
structure Flotante where
  valor : ℚ
  representable : Representable 24 valor

/-- A `double` assigned to a `float`. -/
def Flotante.deDouble (x : ℚ) : Flotante := ⟨roundTo 24 x, representable_roundTo (by norm_num) x⟩

/-- A `float` passed as an `int`: its fraction is dropped. -/
def Flotante.aInt (q : Flotante) : ℤ := q.valor.num.tdiv q.valor.den

/-- The digits after the point, and what follows them. -/
def fraccion : Cadena → Cadena × Cadena
  | '.' :: s => (s.takeWhile Char.isDigit, s.dropWhile Char.isDigit)
  | s => ([], s)

/-- The exponent of a number, and 0 where there is none. -/
def exponente : Cadena → ℤ
  | 'e' :: s | 'E' :: s =>
    let (negativo, s) := signo s
    let n : ℤ := Nat.ofDigitChars 10 (s.takeWhile Char.isDigit) 0
    if negativo then -n else n
  | _ => 0

/-- The decimal number that `strtod` reads. -/
def decimal (s : Cadena) : ℚ :=
  let (negativo, s) := signo (s.dropWhile isspace)
  let (decimales, resto) := fraccion (s.dropWhile Char.isDigit)
  let mantisa : ℚ := Nat.ofDigitChars 10 (s.takeWhile Char.isDigit ++ decimales) 0
  (if negativo then -mantisa else mantisa) * 10 ^ (exponente resto - decimales.length)

/-- `atof`: the nearest `double`. -/
def atof (s : Cadena) : ℚ := roundTo 53 (decimal s)

/-! ### The PCB -/

/-- `pcb`. -/
structure Pcb where
  pid : Texto
  programCounter : ℤ
  quantum : Flotante
  registros : Registros
  nroDesalojos : ℤ

/-- The result of `string_itoa`. -/
def itoaTexto (n : ℤ) : Texto where
  bytes := aBytes (itoa n)
  sinNulos := fun h => by
    obtain ⟨c, hc, h0⟩ := List.mem_map.1 h
    have hc := toNat_of_mem_itoa hc
    have hnat := congrArg UInt8.toNat h0
    rw [UInt8.toNat_ofNat', Nat.mod_eq_of_lt (by omega)] at hnat
    exact hc.1.ne' hnat

/-- `agregar_a_paquete(paquete, texto, strlen(texto) + 1)`. -/
def agregarTexto (paquete : Paquete) (texto : Texto) : Option Paquete :=
  agregarAPaquete paquete texto.enMemoria (int32 (texto.bytes.length + 1))

/-- `agregar_registros_a_paquete`: each register goes through an `int`. -/
def agregarRegistrosAPaquete (registros : Registros) (paquete : Paquete) : Option Paquete := do
  let paquete ← agregarTexto paquete (itoaTexto (int32 registros.pc.toNat))
  let paquete ← agregarTexto paquete (itoaTexto registros.ax.toNat)
  let paquete ← agregarTexto paquete (itoaTexto registros.bx.toNat)
  let paquete ← agregarTexto paquete (itoaTexto registros.cx.toNat)
  let paquete ← agregarTexto paquete (itoaTexto registros.dx.toNat)
  let paquete ← agregarTexto paquete (itoaTexto (int32 registros.eax.toNat))
  let paquete ← agregarTexto paquete (itoaTexto (int32 registros.ebx.toNat))
  let paquete ← agregarTexto paquete (itoaTexto (int32 registros.ecx.toNat))
  let paquete ← agregarTexto paquete (itoaTexto (int32 registros.edx.toNat))
  let paquete ← agregarTexto paquete (itoaTexto (int32 registros.si.toNat))
  agregarTexto paquete (itoaTexto (int32 registros.di.toNat))

/-- `agregar_pcb_a_paquete`. -/
def agregarPcbAPaquete (paquete : Paquete) (pcb : Pcb) : Option Paquete := do
  let paquete ← agregarTexto paquete pcb.pid
  let paquete ← agregarTexto paquete (itoaTexto pcb.programCounter)
  let paquete ← agregarTexto paquete (itoaTexto pcb.quantum.aInt)
  agregarRegistrosAPaquete pcb.registros paquete

/-- `list_get`, and the text it points to. -/
def textoEn (lista : List (List UInt8)) (i : ℤ) : Option Texto := (listGet lista i).bind leerTexto

/-- `atoi(list_get(lista, i))`. -/
def atoiEn (lista : List (List UInt8)) (i : ℤ) : Option ℤ :=
  (textoEn lista i).map fun t => atoi (texto t.bytes)

/-- `list_remove_and_destroy_element(lista, 0, …)`, `n` times. -/
def quitarPrimeros (n : ℕ) (lista : List (List UInt8)) : List (List UInt8) := List.tail^[n] lista

/-- `cargar_registros`: each number is cut to its register. -/
def cargarRegistros (lista : List (List UInt8)) : Option (Registros × List (List UInt8)) := do
  let pc ← atoiEn lista 0
  let ax ← atoiEn lista 1
  let bx ← atoiEn lista 2
  let cx ← atoiEn lista 3
  let dx ← atoiEn lista 4
  let eax ← atoiEn lista 5
  let ebx ← atoiEn lista 6
  let ecx ← atoiEn lista 7
  let edx ← atoiEn lista 8
  let si ← atoiEn lista 9
  let di ← atoiEn lista 10
  some (⟨UInt32.ofInt pc, UInt8.ofInt ax, UInt8.ofInt bx, UInt8.ofInt cx, UInt8.ofInt dx,
    UInt32.ofInt eax, UInt32.ofInt ebx, UInt32.ofInt ecx, UInt32.ofInt edx, UInt32.ofInt si,
    UInt32.ofInt di⟩, quitarPrimeros 11 lista)

/-- `cargar_pcb`: the number of evictions is not in the packet. -/
def cargarPcb (nuevoPcb : Pcb) (lista : List (List UInt8)) :
    Option (Pcb × List (List UInt8)) := do
  let pid ← textoEn lista 0
  let programCounter ← atoiEn lista 1
  let quantum ← textoEn lista 2
  let (registros, lista) ← cargarRegistros (quitarPrimeros 3 lista)
  some ({ nuevoPcb with
    pid := pid
    programCounter := programCounter
    quantum := .deDouble (atof (texto quantum.bytes))
    registros := registros }, lista)

/-- A packet with a PCB and other values, as the kernel and the CPU send them. -/
def enviarContexto (pcb : Pcb) (otros : List (List UInt8)) : Option (List UInt8) := do
  let paquete ← agregarPcbAPaquete crearPaquete pcb
  let paquete ← agregarTodos paquete otros
  enviarPaquete paquete

/-- The other side: the PCB is loaded into another one, and the values that are left are read
after it. -/
def recibirContexto (nuevoPcb : Pcb) : Reader UInt8 (Pcb × List (List UInt8)) := fun s =>
  (recibirOperacion s).bind fun r =>
    if r.1 = OpCode.PAQUETE.valor then
      (recibirPaquete r.2).bind fun l => (cargarPcb nuevoPcb l.1).map fun p => (p, l.2)
    else none

/-- A dispatch and an eviction. -/
structure Intercambio where
  /-- The PCB that the CPU loads the context into. -/
  cpu : Pcb
  /-- What the kernel sends after the context. -/
  ida : List (List UInt8)
  /-- What the CPU sends after the context. -/
  vuelta : List (List UInt8)

/-- The kernel sends the context, and the CPU sends it back to the same PCB. -/
def intercambiar (pcb : Pcb) (i : Intercambio) : Option Pcb := do
  let s ← enviarContexto pcb i.ida
  let cpu ← recibirContexto i.cpu s
  let s ← enviarContexto cpu.1.1 i.vuelta
  let kernel ← recibirContexto pcb s
  some kernel.1.1

/-- One exchange after another. -/
def intercambios (pcb : Pcb) (is : List Intercambio) : Option Pcb := is.foldlM intercambiar pcb

/-- The texts of a PCB, in the order of the packet. -/
def textosDelPcb (p : Pcb) : List Texto :=
  [p.pid, itoaTexto p.programCounter, itoaTexto p.quantum.aInt,
    itoaTexto (int32 p.registros.pc.toNat), itoaTexto p.registros.ax.toNat,
    itoaTexto p.registros.bx.toNat, itoaTexto p.registros.cx.toNat, itoaTexto p.registros.dx.toNat,
    itoaTexto (int32 p.registros.eax.toNat), itoaTexto (int32 p.registros.ebx.toNat),
    itoaTexto (int32 p.registros.ecx.toNat), itoaTexto (int32 p.registros.edx.toNat),
    itoaTexto (int32 p.registros.si.toNat), itoaTexto (int32 p.registros.di.toNat)]

/-- The values of a packet with a PCB. -/
def valoresDelPcb (p : Pcb) (otros : List (List UInt8)) : List (List UInt8) :=
  (textosDelPcb p).map Texto.enMemoria ++ otros

/-- The packet of a PCB and other values. -/
def tramaDelPcb (p : Pcb) (otros : List (List UInt8)) : Trama := .paquete (valoresDelPcb p otros)

variable {p : Pcb} {lista otros : List (List UInt8)} {n : ℤ}

/-! ### Numbers -/

theorem decimal_itoa (n : ℤ) : decimal (itoa n) = n := by
  have hdrop : (Nat.toDigits 10 n.natAbs).dropWhile Char.isDigit = [] :=
    List.dropWhile_eq_nil_iff.2 fun c hc => Nat.isDigit_of_mem_toDigits (by omega) (by omega) hc
  have huno : (10 : ℚ) ^ (0 - (([] : Cadena).length : ℤ)) = 1 := by simp
  unfold decimal
  rw [dropWhile_isspace_itoa]
  unfold itoa
  by_cases hneg : n < 0
  · have habs : (n.natAbs : ℚ) = -n := by
      rw [Nat.cast_natAbs, abs_of_neg hneg, Int.cast_neg]
    rw [if_pos hneg]
    simp only [signo, hdrop, fraccion, exponente, takeWhile_isDigit_toDigits, List.append_nil,
      Nat.ofDigitChars_ten_toDigits, if_true, huno, mul_one]
    rw [habs, neg_neg]
  · have habs : (n.natAbs : ℚ) = n := by
      rw [Nat.cast_natAbs, abs_of_nonneg (by omega)]
    rw [if_neg hneg, signo_toDigits]
    simp only [hdrop, fraccion, exponente, takeWhile_isDigit_toDigits, List.append_nil,
      Nat.ofDigitChars_ten_toDigits, Bool.false_eq_true, if_false, huno, mul_one]
    exact habs

/-- A number of 32 bits is read back as a `double`. -/
theorem atof_itoa (h : InRange n) : atof (itoa n) = n := by
  obtain ⟨h1, h2⟩ := h
  have habs : |n| < 2 ^ 53 := abs_lt.2 ⟨by omega, by omega⟩
  unfold atof
  rw [decimal_itoa, roundTo_of_representable (representable_intCast habs)]

/-- A `float` that is an integer survives as a text. -/
theorem deDouble_atof {q : Flotante} (hq : q.valor = n) (hn : InRange n) :
    Flotante.deDouble (atof (texto (itoaTexto q.aInt).bytes)) = q := by
  obtain ⟨valor, hrep⟩ := q
  obtain rfl : valor = n := hq
  have hint : Flotante.aInt ⟨(n : ℚ), hrep⟩ = n := by
    show (n : ℚ).num.tdiv (n : ℚ).den = n
    rw [Rat.num_intCast, Rat.den_intCast]
    exact Int.tdiv_one n
  have htexto : texto (itoaTexto n).bytes = itoa n :=
    texto_aBytes fun c hc => (toNat_of_mem_itoa hc).2
  unfold Flotante.deDouble
  simp only [hint, htexto, atof_itoa hn, roundTo_of_representable hrep]

/-- An `int` goes through its text. -/
theorem atoi_itoaTexto (h : InRange n) : atoi (texto (itoaTexto n).bytes) = n :=
  atoi_texto_itoa h

/-- A register of 32 bits goes through an `int`. -/
theorem ofInt_int32 (x : UInt32) : UInt32.ofInt (int32 x.toNat) = x := by
  have hmod : (int32 x.toNat % 2 ^ 32 : ℤ) = x.toNat := by
    unfold int32
    rw [show ((2 : ℤ) ^ 32) = ((2 ^ 32 : ℕ) : ℤ) by norm_num, Int.bmod_emod]
    exact Int.emod_eq_of_lt (by omega) (by exact_mod_cast x.toNat_lt)
  rw [← UInt32.toNat_inj, toNat_ofInt_uint32, hmod, Int.toNat_natCast]

/-- A register of 8 bits goes through an `int`. -/
theorem ofInt_toNat (x : UInt8) : UInt8.ofInt x.toNat = x := by
  have hlt := x.toNat_lt
  rw [← UInt8.toNat_inj, toNat_ofInt_uint8]
  omega

theorem inRange_uint8 (x : UInt8) : InRange x.toNat := by
  have hlt := x.toNat_lt
  exact ⟨by omega, by omega⟩

/-! ### The fourteen texts -/

theorem agregarTexto_eq (paquete : Paquete) (t : Texto) :
    agregarTexto paquete t =
      agregarAPaquete paquete t.enMemoria (int32 t.enMemoria.length) := by
  unfold agregarTexto Texto.enMemoria
  rw [List.length_append, List.length_singleton]
  push_cast
  rfl

/-- The PCB is written as its texts. -/
theorem agregarPcbAPaquete_eq (paquete : Paquete) (p : Pcb) :
    agregarPcbAPaquete paquete p =
      agregarTodos paquete ((textosDelPcb p).map Texto.enMemoria) := by
  unfold agregarPcbAPaquete agregarRegistrosAPaquete agregarTodos textosDelPcb
  simp only [agregarTexto_eq, List.map_cons, List.map_nil, List.foldlM_cons, List.foldlM_nil,
    bind_pure]

/-- The context is written as the values of one packet. -/
theorem enviarContexto_eq_bind (p : Pcb) (otros : List (List UInt8)) :
    enviarContexto p otros =
      (agregarTodos crearPaquete (valoresDelPcb p otros)).bind enviarPaquete := by
  unfold enviarContexto
  rw [agregarPcbAPaquete_eq, valoresDelPcb, agregarTodos_append]
  exact (Option.bind_assoc ..).symm

/-- **The context is sent as one frame.** -/
theorem enviarContexto_eq (h : (tramaDelPcb p otros).Cabe) :
    enviarContexto p otros = some (tramaDelPcb p otros).bytes := by
  rw [enviarContexto_eq_bind, ← enviar_eq h]
  rfl

/-- A text of the list is the one that was written. -/
theorem textoEn_eq {i : ℤ} {t : Texto} (h : listGet lista i = some t.enMemoria) :
    textoEn lista i = some t := by
  rw [textoEn, h]
  exact leerTexto_enMemoria t

theorem atoiEn_eq {i : ℤ} (h : listGet lista i = some (itoaTexto n).enMemoria) (hn : InRange n) :
    atoiEn lista i = some n := by
  rw [atoiEn, textoEn_eq h, Option.map_some, atoi_itoaTexto hn]

/-- The registers are read in the order in which they were written. -/
theorem cargarRegistros_eq (p : Pcb) (otros : List (List UInt8)) :
    cargarRegistros (((textosDelPcb p).drop 3).map Texto.enMemoria ++ otros) =
      some (p.registros, otros) := by
  unfold cargarRegistros
  rw [atoiEn_eq rfl (inRange_int32 p.registros.pc.toNat), atoiEn_eq rfl (inRange_uint8 p.registros.ax),
    atoiEn_eq rfl (inRange_uint8 p.registros.bx), atoiEn_eq rfl (inRange_uint8 p.registros.cx),
    atoiEn_eq rfl (inRange_uint8 p.registros.dx), atoiEn_eq rfl (inRange_int32 p.registros.eax.toNat),
    atoiEn_eq rfl (inRange_int32 p.registros.ebx.toNat),
    atoiEn_eq rfl (inRange_int32 p.registros.ecx.toNat),
    atoiEn_eq rfl (inRange_int32 p.registros.edx.toNat),
    atoiEn_eq rfl (inRange_int32 p.registros.si.toNat),
    atoiEn_eq rfl (inRange_int32 p.registros.di.toNat)]
  simp only [Option.bind_eq_bind, Option.bind_some, ofInt_int32, ofInt_toNat]
  rfl

/-- **The PCB that is loaded is the one that was written**, and the other values are left. -/
theorem cargarPcb_eq (nuevo : Pcb) (hpc : InRange p.programCounter) (hq : p.quantum.valor = n)
    (hn : InRange n) (otros : List (List UInt8)) :
    cargarPcb nuevo (valoresDelPcb p otros) =
      some ({ p with nroDesalojos := nuevo.nroDesalojos }, otros) := by
  have hregistros : cargarRegistros (quitarPrimeros 3 (valoresDelPcb p otros)) =
      some (p.registros, otros) := cargarRegistros_eq p otros
  unfold cargarPcb
  rw [hregistros, textoEn_eq (show listGet _ 0 = some p.pid.enMemoria from rfl),
    atoiEn_eq (show listGet _ 1 = some (itoaTexto p.programCounter).enMemoria from rfl) hpc,
    textoEn_eq (show listGet _ 2 = some (itoaTexto p.quantum.aInt).enMemoria from rfl)]
  simp only [Option.bind_eq_bind, Option.bind_some, deDouble_atof hq hn]

/-- Whatever the numbers of the PCB, its pid is loaded and the other values are left. -/
theorem cargarPcb_otros (nuevo p : Pcb) (otros : List (List UInt8)) :
    ∃ p', cargarPcb nuevo (valoresDelPcb p otros) = some (p', otros) ∧ p'.pid = p.pid := by
  have hregistros : cargarRegistros (quitarPrimeros 3 (valoresDelPcb p otros)) =
      some (p.registros, otros) := cargarRegistros_eq p otros
  unfold cargarPcb
  rw [hregistros, atoiEn, textoEn_eq (show listGet _ 0 = some p.pid.enMemoria from rfl),
    textoEn_eq (show listGet _ 1 = some (itoaTexto p.programCounter).enMemoria from rfl),
    textoEn_eq (show listGet _ 2 = some (itoaTexto p.quantum.aInt).enMemoria from rfl)]
  exact ⟨_, rfl, rfl⟩

/-- A packet is received, and its values loaded. -/
theorem recibirContexto_paquete {valores : List (List UInt8)} (h : (Trama.paquete valores).Cabe)
    (nuevo : Pcb) :
    recibirContexto nuevo (Trama.paquete valores).bytes =
      (cargarPcb nuevo valores).map fun p => (p, []) := by
  obtain ⟨s, hoperacion, hpaquete⟩ := h.recibirPaquete
  unfold recibirContexto
  rw [hoperacion, Option.bind_some]
  dsimp only
  rw [if_pos rfl, hpaquete, Option.bind_some]

theorem recibirContexto_eq (nuevo : Pcb) (hpc : InRange p.programCounter)
    (hq : p.quantum.valor = n) (hn : InRange n) (h : (tramaDelPcb p otros).Cabe) :
    recibirContexto nuevo (tramaDelPcb p otros).bytes =
      some (({ p with nroDesalojos := nuevo.nroDesalojos }, otros), []) := by
  unfold tramaDelPcb at h ⊢
  rw [recibirContexto_paquete h, cargarPcb_eq nuevo hpc hq hn, Option.map_some]

/-- The number of evictions is not sent. -/
theorem tramaDelPcb_nroDesalojos (p : Pcb) (k : ℤ) (otros : List (List UInt8)) :
    tramaDelPcb { p with nroDesalojos := k } otros = tramaDelPcb p otros := rfl

/-- The kernel gets back the PCB that it sent. -/
theorem intercambiar_eq {i : Intercambio} (hpc : InRange p.programCounter)
    (hq : p.quantum.valor = n) (hn : InRange n) (hida : (tramaDelPcb p i.ida).Cabe)
    (hvuelta : (tramaDelPcb p i.vuelta).Cabe) : intercambiar p i = some p := by
  obtain ⟨cpu, hcpu⟩ : ∃ cpu, cpu = { p with nroDesalojos := i.cpu.nroDesalojos } := ⟨_, rfl⟩
  have htrama : tramaDelPcb cpu i.vuelta = tramaDelPcb p i.vuelta := by
    rw [hcpu, tramaDelPcb_nroDesalojos]
  have hllega : recibirContexto i.cpu (tramaDelPcb p i.ida).bytes = some ((cpu, i.ida), []) := by
    rw [hcpu]
    exact recibirContexto_eq i.cpu hpc hq hn hida
  have hvuelve : enviarContexto cpu i.vuelta = some (tramaDelPcb p i.vuelta).bytes := by
    rw [enviarContexto_eq (htrama ▸ hvuelta), htrama]
  show (enviarContexto p i.ida).bind (fun s => (recibirContexto i.cpu s).bind fun cpu =>
    (enviarContexto cpu.1.1 i.vuelta).bind fun s => (recibirContexto p s).bind fun kernel =>
      some kernel.1.1) = some p
  rw [enviarContexto_eq hida, Option.bind_some, hllega, Option.bind_some, hvuelve,
    Option.bind_some, recibirContexto_eq p hpc hq hn hvuelta, Option.bind_some]

/-- **The context that is restored is the one that was saved.**  What follows it in the packet is
left as it was, and the kernel and the CPU may exchange the process any number of times. -/
theorem contexto_ida_y_vuelta (hpc : InRange p.programCounter) (hq : p.quantum.valor = n)
    (hn : InRange n) :
    (∀ nuevo otros, (tramaDelPcb p otros).Cabe →
      ∃ s, enviarContexto p otros = some s ∧
        recibirContexto nuevo s =
          some (({ p with nroDesalojos := nuevo.nroDesalojos }, otros), [])) ∧
    ∀ is : List Intercambio,
      (∀ i ∈ is, (tramaDelPcb p i.ida).Cabe ∧ (tramaDelPcb p i.vuelta).Cabe) →
        intercambios p is = some p := by
  refine ⟨fun nuevo otros h => ⟨_, enviarContexto_eq h, recibirContexto_eq nuevo hpc hq hn h⟩, ?_⟩
  intro is h
  induction is with
  | nil => rfl
  | cons i is ih =>
    obtain ⟨hida, hvuelta⟩ := h i List.mem_cons_self
    rw [intercambios, List.foldlM_cons, intercambiar_eq hpc hq hn hida hvuelta]
    exact ih fun j hj => h j (List.mem_cons_of_mem _ hj)

/-- A PCB with every kind of register in use. -/
def pcbEnUso (pid : Texto) : Pcb :=
  ⟨pid, 7, ⟨((2000 : ℤ) : ℚ), representable_intCast (by decide)⟩,
    ⟨7, 255, 0, 1, 2, 4294967295, 2147483648, 3, 4, 5, 6⟩, 0⟩

/-- Two exchanges of a process, with the reason of its eviction. -/
theorem contexto_ida_y_vuelta_dos :
    intercambios (pcbEnUso ⟨[49], by decide⟩)
      [⟨pcbEnUso ⟨[], by decide⟩, [], [[81, 0]]⟩, ⟨pcbEnUso ⟨[50], by decide⟩, [], [[87, 0], []]⟩] =
        some (pcbEnUso ⟨[49], by decide⟩) :=
  (contexto_ida_y_vuelta (n := 2000) (by decide) rfl (by decide)).2 _ (by decide +kernel)

/-- The size of a text of 4 GiB, in an `int`, is that of its first byte. -/
theorem agregarTexto_largo {b : UInt8} {bs : List UInt8} {t : Texto} (h : t.bytes = b :: bs)
    (hlen : t.bytes.length = 2 ^ 32) (paquete : Paquete) :
    agregarTexto paquete t = agregarAPaquete paquete [b] 1 := by
  obtain ⟨hsize, hbyte⟩ := enMemoria_largo h hlen
  have hprimero : memcpy [b] 0 1 = some [b] := memcpy_todo [b]
  unfold agregarTexto agregarAPaquete
  rw [hsize, hbyte, hprimero]

/-- A list whose first value has no terminator holds no PCB. -/
theorem cargarPcb_sin_terminador {valor : List UInt8} (h : 0 ∉ valor) (nuevo : Pcb)
    (lista : List (List UInt8)) : cargarPcb nuevo (valor :: lista) = none := by
  have hpid : textoEn (valor :: lista) 0 = none := if_neg h
  unfold cargarPcb
  rw [hpid]
  rfl

/-- **A pid of 4 GiB does not come back**: one byte of it is sent, without a terminator. -/
theorem pid_largo_no_vuelve :
    ∃ pid : Texto, pid.bytes = List.replicate (2 ^ 32) 97 ∧
      ∃ s, enviarContexto (pcbEnUso pid) [] = some s ∧
        ∀ nuevo, recibirContexto nuevo s = none := by
  obtain ⟨pid, hpid, hcons, hlen⟩ := exists_texto_largo
  -- what is sent is the packet of a PCB whose first value is not a text
  obtain ⟨valores, hvalores⟩ : ∃ valores, valores =
    (textosDelPcb (pcbEnUso ⟨[], List.not_mem_nil⟩)).tail.map Texto.enMemoria := ⟨_, rfl⟩
  have hcabe : (Trama.paquete ([97] :: valores)).Cabe := by
    rw [hvalores]
    decide +kernel
  have hpcb : agregarPcbAPaquete crearPaquete (pcbEnUso pid) =
      agregarTodos crearPaquete ([97] :: valores) := by
    have htextos : (textosDelPcb (pcbEnUso pid)).map Texto.enMemoria =
        pid.enMemoria :: valores := hvalores ▸ rfl
    rw [agregarPcbAPaquete_eq, htextos, agregarTodos, agregarTodos, List.foldlM_cons,
      List.foldlM_cons, ← agregarTexto_eq,
      agregarTexto_largo hcons hlen]
    rfl
  have henviar : enviarContexto (pcbEnUso pid) [] =
      some (Trama.paquete ([97] :: valores)).bytes := by
    rw [← enviar_eq hcabe]
    unfold enviarContexto
    rw [hpcb]
    rfl
  refine ⟨pid, hpid, _, henviar, fun nuevo => ?_⟩
  rw [recibirContexto_paquete hcabe, cargarPcb_sin_terminador (by decide), Option.map_none]

end SimuladorSO.Utils
