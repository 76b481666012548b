import SimuladorSO.Kernel.Finalizacion
import SimuladorSO.Library.Naming
import SimuladorSO.Library.Words

/-!
# The interfaces by name

The name of a request is looked up in three ways.  `encontrar_cola` answers the first queue whose
name is equal to it ignoring case; the dictionaries of the permitted instructions and of the
connections answer what was registered under exactly that name, the first time and the last.

* `InterfazIo`: an interface, with the instructions in the text it sends when it connects;
* `run_registradas`: at the end of every run, what the three know is what the connections said;
* `contiene_iff`: `string_contains` finds an instruction in the text of an interface exactly if it
  is one of them, spelled in the same way;
* `Concuerdan`: the three lookups agree; `SinAmbiguedad`: no two names of the interfaces, and no two
  registrations under one name, can be confused;
* `concuerdan_iff`: they agree exactly then.
-/

namespace SimuladorSO.Kernel

open Transitions Commons Dictionary Naming

variable {cfg : KernelConfiguracion} {k k' : Estado}

/-! ### The connections of a run -/

/-- What the interfaces that connected have sent. -/
def conexionesDe (evs : List Evento) : List (Cadena × Cadena × ℤ) :=
  evs.filterMap fun
    | .conectarInterfaz idInterfaz permitidas conexion => some (idInterfaz, permitidas, conexion)
    | _ => none

/-- What the kernel knows by name is what `rs` said. -/
structure Registradas (rs : List (Cadena × Cadena × ℤ)) (k : Estado) : Prop where
  nombres : Registered rs k.interfaces k.diccionarioInstruccionesPermitidasIo
    k.diccionarioConexionesIo
  semHayProceso : ∀ i, k.semHayProceso i = 0

variable {rs : List (Cadena × Cadena × ℤ)}

theorem registradas_inicial (cfg : KernelConfiguracion) : Registradas [] (Estado.inicial cfg) :=
  ⟨Registered.empty, fun _ => rfl⟩

theorem Registradas.conectar (h : Registradas rs k) (idInterfaz permitidas : Cadena)
    (conexion : ℤ) : Registered (rs ++ [(idInterfaz, permitidas, conexion)])
      (conectarInterfaz k idInterfaz permitidas conexion).interfaces
      (conectarInterfaz k idInterfaz permitidas conexion).diccionarioInstruccionesPermitidasIo
      (conectarInterfaz k idInterfaz permitidas conexion).diccionarioConexionesIo := by
  unfold conectarInterfaz
  dsimp only
  split_ifs with hsabido
  · exact h.nombres.again hsabido permitidas conexion
  · exact h.nombres.first hsabido permitidas conexion

theorem Registradas.paso (h : Registradas rs k) {ev : Evento} (hp : paso cfg k ev = some k') :
    Registradas (rs ++ conexionesDe [ev]) k' := by
  refine ⟨?_, paso_semHayProceso h.semHayProceso hp⟩
  by_cases hno : ∀ idInterfaz permitidas conexion,
      ev ≠ .conectarInterfaz idInterfaz permitidas conexion
  · have hnada : conexionesDe [ev] = [] := by
      cases ev with
      | conectarInterfaz idInterfaz permitidas conexion => exact absurd rfl (hno _ _ _)
      | _ => rfl
    obtain ⟨hinterfaces, -, hconexiones, hpermitidas⟩ := paso_mismosNombres h.semHayProceso hno hp
    rw [hnada, List.append_nil, hinterfaces, hconexiones, hpermitidas]
    exact h.nombres
  · push Not at hno
    obtain ⟨idInterfaz, permitidas, conexion, rfl⟩ := hno
    cases hp
    exact h.conectar idInterfaz permitidas conexion

/-- The three structures are those of the connections of the run. -/
theorem run_registradas {evs : List Evento} (h : Registradas rs k)
    (hrun : run (Kernel.paso cfg) k evs = some k') : Registradas (rs ++ conexionesDe evs) k' := by
  induction evs generalizing rs k with
  | nil =>
    cases hrun
    rwa [conexionesDe, List.filterMap_nil, List.append_nil]
  | cons ev evs ih =>
    obtain ⟨k₁, hp, hrun⟩ := run_cons_eq_some.1 hrun
    have hcons : conexionesDe (ev :: evs) = conexionesDe [ev] ++ conexionesDe evs := by
      rw [conexionesDe, ← List.singleton_append, List.filterMap_append]
      rfl
    rw [hcons, ← List.append_assoc]
    exact ih (h.paso hp) hrun

/-! ### The interfaces -/

/-- An interface: its name, its instructions and its connection. -/
structure InterfazIo where
  nombre : Cadena
  permitidas : List Cadena
  deIo : ∀ x ∈ permitidas, x ∈ instruccionesIo
  conexion : ℤ

/-- The text of its instructions. -/
def InterfazIo.instruccionesPermitidas (x : InterfazIo) : Cadena := [' '].intercalate x.permitidas

/-- `INSTRUCCIONES_DIALFS`. -/
example (nombre : Cadena) (conexion : ℤ) : InterfazIo.instruccionesPermitidas
    ⟨nombre, ["IO_FS_CREATE".toList, "IO_FS_DELETE".toList, "IO_FS_TRUNCATE".toList,
      "IO_FS_WRITE".toList, "IO_FS_READ".toList], by decide, conexion⟩ =
    "IO_FS_CREATE IO_FS_DELETE IO_FS_TRUNCATE IO_FS_WRITE IO_FS_READ".toList := rfl

/-- What it sends when it connects. -/
def InterfazIo.registro (x : InterfazIo) : Cadena × Cadena × ℤ :=
  (x.nombre, x.instruccionesPermitidas, x.conexion)

variable {x : InterfazIo} {xs : List InterfazIo} {interfaz instruccion motivo : Cadena}

/-- No instruction is part of another, even ignoring case. -/
theorem instruccionesIo_distintas : ∀ x ∈ instruccionesIo, ∀ y ∈ instruccionesIo,
    x.map Char.toLower <:+: y.map Char.toLower → x = y := by
  decide +kernel

/-- `string_contains` finds an instruction among those of the interface, if it is spelled as there. -/
theorem contiene_iff (x : InterfazIo) (hi : instruccion ∈ instruccionesIo)
    (hm : stringEqualsIgnoreCase motivo instruccion = true) :
    stringContains x.instruccionesPermitidas motivo = true ↔
      motivo = instruccion ∧ instruccion ∈ x.permitidas := by
  have hlower := stringEqualsIgnoreCase_iff.1 hm
  have hlength : motivo.length = instruccion.length := by
    simpa using congrArg List.length hlower
  have hespacio : ' ' ∉ motivo := by
    refine notMem_space_of_equals hm ?_
    have hninguna : ∀ y ∈ instruccionesIo, ' ' ∉ y := by decide
    exact hninguna _ hi
  have hne : motivo ≠ [] := by
    have hlarga : ∀ y ∈ instruccionesIo, y.length ≠ 0 := by decide
    rintro rfl
    exact hlarga _ hi hlength.symm
  rw [stringContains, decide_eq_true_iff, InterfazIo.instruccionesPermitidas,
    Words.infix_intercalate_iff hespacio hne]
  constructor
  · rintro ⟨v, hv, hdentro⟩
    have hmap := hdentro.map Char.toLower
    rw [hlower] at hmap
    obtain rfl := instruccionesIo_distintas _ hi v (x.deIo v hv) hmap
    exact ⟨hdentro.eq_of_length hlength, hv⟩
  · rintro ⟨rfl, hmem⟩
    exact ⟨motivo, hmem, List.infix_rfl⟩

/-! ### The lookups -/

/-- The first interface of this name ignoring case, and the first of exactly this name. -/
def primeraParecida (xs : List InterfazIo) (interfaz : Cadena) : Option InterfazIo :=
  xs.find? fun x => stringEqualsIgnoreCase x.nombre interfaz

def primeraIgual (xs : List InterfazIo) (interfaz : Cadena) : Option InterfazIo :=
  xs.find? fun x => x.nombre = interfaz

theorem primeraIgual_of_parecida (h : primeraParecida xs interfaz = some x)
    (hx : x.nombre = interfaz) : primeraIgual xs interfaz = some x :=
  find?_of_finer (fun y hy => by rw [of_decide_eq_true hy, stringEqualsIgnoreCase_self]) h
    (decide_eq_true hx)

theorem primeraIgual_eq_some (h : primeraIgual xs interfaz = some x) :
    x ∈ xs ∧ x.nombre = interfaz := by
  have hnombre := List.find?_some h
  exact ⟨List.mem_of_find?_eq_some h, of_decide_eq_true hnombre⟩

/-- `encontrar_cola` answers the queue of the first interface of this name ignoring case. -/
theorem Registradas.cola (h : Registradas (xs.map InterfazIo.registro) k) (interfaz : Cadena) :
    (encontrarCola k.interfaces interfaz).bind (k.interfaces[·]?) =
      (primeraParecida xs interfaz).map InterfazIo.nombre := by
  rw [encontrarCola, ← List.find?_eq_bind_findIdx?_getElem?, h.nombres.names, List.map_map,
    List.find?_map]
  rfl

theorem Registradas.isSome_cola (h : Registradas (xs.map InterfazIo.registro) k)
    (interfaz : Cadena) : (encontrarCola k.interfaces interfaz).isSome = true ↔
      ∃ x ∈ xs, stringEqualsIgnoreCase x.nombre interfaz = true := by
  rw [encontrarCola, List.findIdx?_isSome, ← List.isSome_find?, h.nombres.isSome_names]
  simp only [List.mem_map, exists_exists_and_eq_and, InterfazIo.registro]

/-- The permitted instructions are those of the first interface of exactly this name. -/
theorem Registradas.permitidas (h : Registradas (xs.map InterfazIo.registro) k)
    (interfaz : Cadena) : get k.diccionarioInstruccionesPermitidasIo interfaz =
      (primeraIgual xs interfaz).map InterfazIo.instruccionesPermitidas := by
  rw [h.nombres.firsts, List.find?_map, Option.map_map]
  rfl

/-- The connection is that of an interface of exactly this name. -/
theorem Registradas.conexion (h : Registradas (xs.map InterfazIo.registro) k)
    (hx : ∃ x ∈ xs, x.nombre = interfaz) :
    ∃ x ∈ xs, x.nombre = interfaz ∧ get k.diccionarioConexionesIo interfaz = some x.conexion := by
  obtain ⟨x, hx, hnombre⟩ := hx
  obtain ⟨r, hr, hr', hget⟩ :=
    h.nombres.lasts_of_mem ⟨x.registro, List.mem_map.2 ⟨x, hx, rfl⟩, hnombre⟩
  obtain ⟨y, hy, rfl⟩ := List.mem_map.1 hr
  exact ⟨y, hy, hr', hget⟩

/-- `cumple_interfaz` comes back unless the name is known only with another spelling. -/
theorem Registradas.cumple_completa_iff (h : Registradas (xs.map InterfazIo.registro) k)
    (interfaz motivo : Cadena) : (∃ b, cumpleInterfaz k interfaz motivo = some b) ↔
      ((∃ x ∈ xs, stringEqualsIgnoreCase x.nombre interfaz = true) →
        ∃ x ∈ xs, x.nombre = interfaz) := by
  unfold cumpleInterfaz
  rw [← h.isSome_cola]
  split_ifs with hcola
  · rw [forall_prop_of_true hcola, ← Option.isSome_iff_exists, Option.isSome_map, h.permitidas,
      Option.isSome_map, primeraIgual, List.find?_isSome]
    simp only [decide_eq_true_eq]
  · exact iff_of_true ⟨false, rfl⟩ fun hcola' => absurd hcola' hcola

/-- It answers yes if the first interface of exactly this name has the instruction. -/
theorem Registradas.cumple_iff (h : Registradas (xs.map InterfazIo.registro) k)
    (hi : instruccion ∈ instruccionesIo) (hm : stringEqualsIgnoreCase motivo instruccion = true)
    (interfaz : Cadena) : cumpleInterfaz k interfaz motivo = some true ↔
      motivo = instruccion ∧
        ∃ x, primeraIgual xs interfaz = some x ∧ instruccion ∈ x.permitidas := by
  unfold cumpleInterfaz
  rw [h.permitidas, Option.map_map]
  constructor
  · intro hcumple
    split_ifs at hcumple with hcola
    · obtain ⟨x, hx, hcontiene⟩ := Option.map_eq_some_iff.1 hcumple
      obtain ⟨hmotivo, hpermite⟩ := (contiene_iff x hi hm).1 hcontiene
      exact ⟨hmotivo, x, hx, hpermite⟩
    · cases hcumple
  · rintro ⟨hmotivo, x, hx, hpermite⟩
    obtain ⟨hmem, hnombre⟩ := primeraIgual_eq_some hx
    have hcola : (encontrarCola k.interfaces interfaz).isSome = true :=
      (h.isSome_cola interfaz).2 ⟨x, hmem, by rw [hnombre, stringEqualsIgnoreCase_self]⟩
    rw [if_pos hcola, hx]
    exact congrArg some ((contiene_iff x hi hm).2 ⟨hmotivo, hpermite⟩)

/-! ### When they agree -/

/-- The lookups of a request, in which the process has written `motivo` for `instruccion`. -/
structure Concuerdan (k : Estado) (xs : List InterfazIo) (interfaz instruccion motivo : Cadena) :
    Prop where
  completa : ∃ b, cumpleInterfaz k interfaz motivo = some b
  permite : cumpleInterfaz k interfaz motivo = some true ↔
    ∃ x ∈ xs, x.nombre = interfaz ∧ instruccion ∈ x.permitidas
  /-- The process is put in the queue of the interface to which the request is sent. -/
  dispositivo : cumpleInterfaz k interfaz motivo = some true → ∃ i, ∃ x ∈ xs,
    encontrarCola k.interfaces interfaz = some i ∧ k.interfaces[i]? = some interfaz ∧
      x.nombre = interfaz ∧ get k.diccionarioConexionesIo interfaz = some x.conexion

/-- A name written as that of an interface but for case is that of an interface.  An instruction
that an interface of this name permits is written as there, and of all whose names are equal to this
one ignoring case, the first to connect has exactly this name and permits it. -/
structure SinAmbiguedad (xs : List InterfazIo) (interfaz instruccion motivo : Cadena) : Prop where
  conocida : (∃ x ∈ xs, stringEqualsIgnoreCase x.nombre interfaz = true) →
    ∃ x ∈ xs, x.nombre = interfaz
  primera : (∃ x ∈ xs, x.nombre = interfaz ∧ instruccion ∈ x.permitidas) →
    motivo = instruccion ∧ ∃ x, primeraParecida xs interfaz = some x ∧ x.nombre = interfaz ∧
      instruccion ∈ x.permitidas

theorem Registradas.sinAmbiguedad (h : Registradas (xs.map InterfazIo.registro) k)
    (hi : instruccion ∈ instruccionesIo) (hm : stringEqualsIgnoreCase motivo instruccion = true)
    (hc : Concuerdan k xs interfaz instruccion motivo) :
    SinAmbiguedad xs interfaz instruccion motivo where
  conocida := (h.cumple_completa_iff interfaz motivo).1 hc.completa
  primera hpermite := by
    have hcumple := hc.permite.2 hpermite
    obtain ⟨hmotivo, x, hx, hinstruccion⟩ := (h.cumple_iff hi hm interfaz).1 hcumple
    obtain ⟨i, -, -, hcola, hnombre, -⟩ := hc.dispositivo hcumple
    -- the queue is that of the first interface of the name ignoring case
    have hprimera := h.cola interfaz
    rw [hcola, Option.bind_some, hnombre] at hprimera
    obtain ⟨y, hy, hy'⟩ := Option.map_eq_some_iff.1 hprimera.symm
    obtain rfl : y = x := Option.some.inj ((primeraIgual_of_parecida hy hy').symm.trans hx)
    exact ⟨hmotivo, y, hy, hy', hinstruccion⟩

theorem Registradas.concuerdan (h : Registradas (xs.map InterfazIo.registro) k)
    (hi : instruccion ∈ instruccionesIo) (hm : stringEqualsIgnoreCase motivo instruccion = true)
    (hs : SinAmbiguedad xs interfaz instruccion motivo) :
    Concuerdan k xs interfaz instruccion motivo := by
  have hpermite : cumpleInterfaz k interfaz motivo = some true →
      ∃ x ∈ xs, x.nombre = interfaz ∧ instruccion ∈ x.permitidas := by
    intro hcumple
    obtain ⟨-, x, hx, hinstruccion⟩ := (h.cumple_iff hi hm interfaz).1 hcumple
    obtain ⟨hmem, hnombre⟩ := primeraIgual_eq_some hx
    exact ⟨x, hmem, hnombre, hinstruccion⟩
  refine ⟨(h.cumple_completa_iff interfaz motivo).2 hs.conocida, ⟨hpermite, ?_⟩, ?_⟩
  · intro hx
    obtain ⟨hmotivo, x, hx, hnombre, hinstruccion⟩ := hs.primera hx
    exact (h.cumple_iff hi hm interfaz).2
      ⟨hmotivo, x, primeraIgual_of_parecida hx hnombre, hinstruccion⟩
  · intro hcumple
    obtain ⟨-, x, hx, hnombre, -⟩ := hs.primera (hpermite hcumple)
    obtain ⟨y, hy, hy', hconexion⟩ :=
      h.conexion ⟨x, List.mem_of_find?_eq_some hx, hnombre⟩
    have hcola := h.cola interfaz
    rw [hx, Option.map_some, hnombre] at hcola
    obtain ⟨i, hi, hi'⟩ := Option.bind_eq_some_iff.1 hcola
    exact ⟨i, y, hy, hi, hi', hy', hconexion⟩

/-- **When the lookups of a request agree**: at the end of every run, exactly if no two names and no
two registrations can be confused. -/
theorem concuerdan_iff {evs : List Evento}
    (hrun : run (Kernel.paso cfg) (Estado.inicial cfg) evs = some k)
    (hxs : conexionesDe evs = xs.map InterfazIo.registro) (hi : instruccion ∈ instruccionesIo)
    (hm : stringEqualsIgnoreCase motivo instruccion = true) (interfaz : Cadena) :
    Concuerdan k xs interfaz instruccion motivo ↔
      SinAmbiguedad xs interfaz instruccion motivo := by
  have h := run_registradas (registradas_inicial cfg) hrun
  rw [hxs, List.nil_append] at h
  exact ⟨h.sinAmbiguedad hi hm, h.concuerdan hi hm⟩

/-- A keyboard. -/
def teclado (nombre : Cadena) (conexion : ℤ) : InterfazIo :=
  ⟨nombre, ["IO_STDIN_READ".toList], by decide, conexion⟩

/-- Two keyboards, and a request to the second. -/
theorem concuerdan_dos_teclados :
    ∃ k, run (Kernel.paso ⟨.FIFO, [], 1⟩) (Estado.inicial ⟨.FIFO, [], 1⟩)
      [.conectarInterfaz "TECLADO".toList "IO_STDIN_READ".toList 7,
        .conectarInterfaz "PANEL".toList "IO_STDIN_READ".toList 8] = some k ∧
    Concuerdan k [teclado "TECLADO".toList 7, teclado "PANEL".toList 8] "PANEL".toList
      "IO_STDIN_READ".toList "IO_STDIN_READ".toList := by
  have hcon : conexionesDe [.conectarInterfaz "TECLADO".toList "IO_STDIN_READ".toList 7,
      .conectarInterfaz "PANEL".toList "IO_STDIN_READ".toList 8] =
      [teclado "TECLADO".toList 7, teclado "PANEL".toList 8].map InterfazIo.registro := rfl
  have hmem : teclado "PANEL".toList 8 ∈ [teclado "TECLADO".toList 7, teclado "PANEL".toList 8] :=
    List.mem_cons_of_mem _ (List.mem_singleton_self _)
  have hprimera : primeraParecida [teclado "TECLADO".toList 7, teclado "PANEL".toList 8]
      "PANEL".toList = some (teclado "PANEL".toList 8) := rfl
  refine ⟨_, rfl, (concuerdan_iff rfl hcon (by decide) (by decide) _).2 ⟨?_, ?_⟩⟩
  · exact fun _ => ⟨_, hmem, rfl⟩
  · exact fun _ => ⟨rfl, _, hprimera, rfl, List.mem_singleton_self _⟩

/-- **Two spellings of a name.**  With `TECLADO` connected, a request to `teclado` reads the text of
an entry that is missing.  With `TECLADO` and then `teclado`, it is queued at the first and sent to
the second. -/
theorem teclado_ambiguo :
    (∃ k, run (Kernel.paso ⟨.FIFO, [], 1⟩) (Estado.inicial ⟨.FIFO, [], 1⟩)
      [.conectarInterfaz "TECLADO".toList "IO_STDIN_READ".toList 7] = some k ∧
      cumpleInterfaz k "teclado".toList "IO_STDIN_READ".toList = none ∧
      ¬ Concuerdan k [teclado "TECLADO".toList 7] "teclado".toList "IO_STDIN_READ".toList
        "IO_STDIN_READ".toList) ∧
    ∃ k, run (Kernel.paso ⟨.FIFO, [], 1⟩) (Estado.inicial ⟨.FIFO, [], 1⟩)
      [.conectarInterfaz "TECLADO".toList "IO_STDIN_READ".toList 7,
        .conectarInterfaz "teclado".toList "IO_STDIN_READ".toList 8] = some k ∧
      cumpleInterfaz k "teclado".toList "IO_STDIN_READ".toList = some true ∧
      (encontrarCola k.interfaces "teclado".toList).bind (k.interfaces[·]?) =
        some "TECLADO".toList ∧
      get k.diccionarioConexionesIo "teclado".toList = some 8 ∧
      ¬ Concuerdan k [teclado "TECLADO".toList 7, teclado "teclado".toList 8] "teclado".toList
        "IO_STDIN_READ".toList "IO_STDIN_READ".toList := by
  refine ⟨⟨_, rfl, rfl, fun h => ?_⟩, _, rfl, by decide +kernel, by decide +kernel,
    by decide +kernel, fun h => ?_⟩
  · obtain ⟨b, hb⟩ := h.completa
    cases hb
  · obtain ⟨i, x, -, hcola, hnombre, -⟩ := h.dispositivo (by decide +kernel)
    have hi : i = 0 := by
      refine Option.some.inj (hcola.symm.trans ?_)
      decide +kernel
    rw [hi] at hnombre
    revert hnombre
    decide +kernel

end SimuladorSO.Kernel
