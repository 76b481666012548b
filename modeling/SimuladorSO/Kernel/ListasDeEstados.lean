import SimuladorSO.Kernel.Colas
import SimuladorSO.Library.Buckets

/-!
# The lists of states

`lista_estados` and `lista_estados_logueables` as the program keeps them, with the pids and the
states as texts, and `cambiar_estado` over them.

* `cambiarEstado_refina`: over the lists of texts `cambiar_estado` does what `Estado.cambiarEstado`
  does with numbers and states;
* `cambiarEstado_particion`: after any sequence of calls the lists hold the last state of every
  process, and each pid is once in the list of its state.
-/

namespace SimuladorSO.Kernel.ListasDeEstados

open Commons Transitions

/-- The two lists. -/
structure Listas where
  listaEstados : List Cadena
  listaEstadosLogueables : List (List Cadena)
  deriving DecidableEq

/-- The lists of `inicializar_estructuras`. -/
def Listas.iniciales : Listas := ⟨[], [[], [], [], [], [], []]⟩

/-- The `numero_estado` that a turn of the loop of `cambiar_estado_logueable` assigns, if any. -/
def numeroDeEstado (estado : Cadena) : Option ℕ :=
  if stringEqualsIgnoreCase estado "NEW".toList then some 0
  else if stringEqualsIgnoreCase estado "READY".toList then some 1
  else if stringEqualsIgnoreCase estado "READY+".toList then some 2
  else if stringEqualsIgnoreCase estado "EXEC".toList then some 3
  else if stringContains estado "BLOCK".toList then some 4
  else if stringEqualsIgnoreCase estado "EXIT".toList then some 5
  else none

/-- What a turn of the loop does first: `numero_estado`, `sublista_pids` and the outer list without
it. -/
def sacarSublista (listas : List (List Cadena)) (estado : Cadena) :
    Option (ℕ × List Cadena × List (List Cadena)) :=
  (numeroDeEstado estado).bind fun numero => (listRemove listas numero).map fun s => (numero, s)

/-- `cambiar_estado_logueable`, the turn of the loop with `flag = 1` and the one with `flag = 2`.
`none` where `sublista_pids` has no list of the turn. -/
def cambiarEstadoLogueable (listas : List (List Cadena)) (estadoViejo nuevoEstado pid : Cadena) :
    Option (List (List Cadena)) := do
  let listas ←
    if estadoViejo = [] then
      some ((sacarSublista listas estadoViejo).elim listas fun (_, _, resto) => resto)
    else
      (sacarSublista listas estadoViejo).map fun (numero, sublista, resto) =>
        listAddInIndex resto numero
          (sublista.eraseP fun pidElemento => stringEqualsIgnoreCase pidElemento pid)
  (sacarSublista listas nuevoEstado).map fun (numero, sublista, resto) =>
    listAddInIndex resto numero (sublista ++ [pid])

/-- `cambiar_estado`.  `none` where it compares the `NULL` of a process without state. -/
def cambiarEstado (s : Listas) (pid nuevoEstado : Cadena) : Option Listas :=
  if stringEqualsIgnoreCase nuevoEstado "NEW".toList then
    (cambiarEstadoLogueable s.listaEstadosLogueables [] nuevoEstado pid).map fun logueables =>
      ⟨s.listaEstados ++ [nuevoEstado], logueables⟩
  else
    (listRemove s.listaEstados (atoi pid - 1)).bind fun (estadoViejo, estados) =>
      (cambiarEstadoLogueable s.listaEstadosLogueables estadoViejo nuevoEstado pid).map
        fun logueables => ⟨listAddInIndex estados (atoi pid - 1) nuevoEstado, logueables⟩

/-! ### States and pids as texts -/

theorem numeroDeEstado_block (resto : Cadena) :
    numeroDeEstado ("BLOCK".toList ++ resto) = some 4 := by
  have hcontiene : stringContains ("BLOCK".toList ++ resto) "BLOCK".toList = true :=
    decide_eq_true (List.prefix_append _ _).isInfix
  unfold numeroDeEstado
  rw [hcontiene]
  simp [stringEqualsIgnoreCase]

/-- A state is classified by its text. -/
theorem numeroDeEstado_texto (e : EstadoProceso) :
    numeroDeEstado e.texto = some e.numeroEstado := by
  cases e with
  | new => rfl
  | ready => rfl
  | readyM => rfl
  | exec => rfl
  | block => exact numeroDeEstado_block []
  | blockIo interfaz => exact numeroDeEstado_block (" - IO: ".toList ++ interfaz)
  | blockRecurso recurso => exact numeroDeEstado_block (" - RECURSO: ".toList ++ recurso)
  | exit => decide

theorem numeroEstado_lt (e : EstadoProceso) : e.numeroEstado < 6 := by
  cases e <;> simp [EstadoProceso.numeroEstado]

theorem texto_ne_nil (e : EstadoProceso) : e.texto ≠ [] := by
  intro h
  have hnumero := numeroDeEstado_texto e
  rw [h] at hnumero
  cases hnumero

/-- Only the text of NEW is equal to it. -/
theorem equals_new_iff (e : EstadoProceso) :
    stringEqualsIgnoreCase e.texto "NEW".toList = true ↔ e = .new := by
  constructor
  · intro h
    have hnumero := numeroDeEstado_texto e
    rw [numeroDeEstado, if_pos h] at hnumero
    cases e <;> first | rfl | cases hnumero
  · rintro rfl
    rfl

/-! ### The lists of the model -/

/-- The text that `generar_nuevo_proceso` makes of `contador_pid`. -/
def pidTexto (pid : ℕ) : Cadena := itoa pid

/-- The two lists of a state of the kernel, as texts. -/
def listas (k : Estado) : Listas :=
  ⟨k.listaEstados.map EstadoProceso.texto, k.listaEstadosLogueables.map (List.map pidTexto)⟩

/-- A sublist is taken out, changed and put back where it was. -/
theorem sacarSublista_modify {sublistas : List (List ℕ)} (h6 : sublistas.length = 6)
    (e : EstadoProceso) (f : List Cadena → List Cadena) (g : List ℕ → List ℕ)
    (hfg : ∀ l, f (l.map pidTexto) = (g l).map pidTexto) :
    ((sacarSublista (sublistas.map (List.map pidTexto)) e.texto).map
        fun (numero, sublista, resto) => listAddInIndex resto numero (f sublista)) =
      some ((sublistas.modify e.numeroEstado g).map (List.map pidTexto)) := by
  have hi : e.numeroEstado < sublistas.length := h6 ▸ numeroEstado_lt e
  have hi' : e.numeroEstado < (sublistas.map (List.map pidTexto)).length := by
    rwa [List.length_map]
  unfold sacarSublista
  rw [numeroDeEstado_texto, Option.bind_some, listRemove_nat, List.getElem?_eq_getElem hi']
  simp only [Option.map_some]
  rw [listAddInIndex_eraseIdx hi', List.getElem_map, hfg, ← List.map_set]
  congr 2
  refine List.ext_getElem? fun j => ?_
  rw [List.getElem?_modify, List.getElem?_set]
  split_ifs with hj
  · subst hj
    simp [hi]
  · simp

theorem cambiarEstadoLogueable_refina {sublistas : List (List ℕ)} (h6 : sublistas.length = 6)
    (viejo : Option EstadoProceso) (nuevo : EstadoProceso) (pid : ℕ) :
    cambiarEstadoLogueable (sublistas.map (List.map pidTexto))
        (viejo.elim [] EstadoProceso.texto) nuevo.texto (pidTexto pid) =
      some ((Kernel.cambiarEstadoLogueable sublistas viejo nuevo pid).map
        (List.map pidTexto)) := by
  have hagregar (l : List ℕ) : (l.map pidTexto) ++ [pidTexto pid] =
      (l ++ [pid]).map pidTexto := by simp
  let quitar (l : List Cadena) : List Cadena :=
    l.eraseP fun pidElemento => stringEqualsIgnoreCase pidElemento (pidTexto pid)
  have hquitar (l : List ℕ) : quitar (l.map pidTexto) = (l.erase pid).map pidTexto := by
    show List.eraseP _ _ = _
    rw [List.eraseP_map, List.erase_eq_eraseP']
    congr 2
    funext n
    exact equals_itoa n pid
  unfold cambiarEstadoLogueable Kernel.cambiarEstadoLogueable
  cases viejo with
  | none =>
    exact sacarSublista_modify h6 nuevo (fun l => l ++ [pidTexto pid]) (fun l => l ++ [pid])
      hagregar
  | some viejo =>
    rw [Option.elim_some, if_neg (texto_ne_nil viejo),
      sacarSublista_modify h6 viejo quitar (fun l => l.erase pid) hquitar]
    exact sacarSublista_modify (by rwa [List.length_modify]) nuevo (fun l => l ++ [pidTexto pid])
      (fun l => l ++ [pid]) hagregar

/-- **`cambiar_estado` over the lists of texts.**  It does what the model does with the numbers of
the processes and their states. -/
theorem cambiarEstado_refina {k : Estado} (h6 : k.listaEstadosLogueables.length = 6) {pid : ℕ}
    {e : EstadoProceso} (hpid : e ≠ .new → 0 < pid ∧ pid ≤ k.listaEstados.length ∧ pid < 2 ^ 31) :
    cambiarEstado (listas k) (pidTexto pid) e.texto = some (listas (k.cambiarEstado pid e)) := by
  unfold cambiarEstado
  by_cases he : e = .new
  · rw [if_pos ((equals_new_iff e).2 he)]
    have hlogueable := cambiarEstadoLogueable_refina h6 none e pid
    dsimp only [Option.elim_none] at hlogueable
    simp only [listas, hlogueable, Estado.cambiarEstado, if_pos he, Option.map_some,
      List.map_append, List.map_cons, List.map_nil]
  · rw [if_neg fun h => he ((equals_new_iff e).1 h)]
    obtain ⟨h0, hle, hint⟩ := hpid he
    cases pid with
    | zero => omega
    | succ i =>
      have hatoi : atoi (pidTexto (i + 1)) - 1 = (i : ℤ) := by
        rw [pidTexto, atoi_itoa ⟨by omega, by omega⟩]
        push_cast
        ring
      have hi : i < (listas k).listaEstados.length := by
        rw [listas, List.length_map]
        omega
      have hestado : k.estado (i + 1) = some k.listaEstados[i] := List.getElem?_eq_getElem hle
      have hlogueable : cambiarEstadoLogueable (listas k).listaEstadosLogueables
          k.listaEstados[i].texto e.texto (pidTexto (i + 1)) = _ :=
        cambiarEstadoLogueable_refina h6 (some k.listaEstados[i]) e (i + 1)
      have hviejo : (listas k).listaEstados[i] = k.listaEstados[i].texto := List.getElem_map _
      rw [hatoi, listRemove_nat, List.getElem?_eq_getElem hi, Option.map_some, Option.bind_some]
      show (cambiarEstadoLogueable _ (listas k).listaEstados[i] _ _).map _ = _
      rw [hviejo, hlogueable, Option.map_some, listAddInIndex_eraseIdx hi]
      simp only [listas, Estado.cambiarEstado, if_neg he, hestado, List.map_set,
        Nat.add_sub_cancel]

/-! ### Sequences of calls -/

/-- A call of `cambiar_estado`. -/
structure Llamada where
  pid : ℕ
  nuevoEstado : EstadoProceso
  deriving DecidableEq

/-- The call, over the lists of texts. -/
def llamar (s : Listas) (c : Llamada) : Option Listas :=
  cambiarEstado s (pidTexto c.pid) c.nuevoEstado.texto

/-- What the calls say: how many processes there are, and the state last given to each pid. -/
structure Historia where
  introducidos : ℕ
  ultimo : ℕ → Option EstadoProceso

/-- Before the first call. -/
def Historia.vacia : Historia := ⟨0, fun _ => none⟩

/-- The history after a call. -/
def Historia.anotar (h : Historia) (c : Llamada) : Historia where
  introducidos := if c.nuevoEstado = .new then h.introducidos + 1 else h.introducidos
  ultimo := Function.update h.ultimo c.pid (some c.nuevoEstado)

/-- NEW introduces the next pid, an `int`; the other states are given to pids introduced before. -/
def Historia.Admite (h : Historia) (c : Llamada) : Prop :=
  if c.nuevoEstado = .new then c.pid = h.introducidos + 1 ∧ c.pid < 2 ^ 31
  else 0 < c.pid ∧ c.pid ≤ h.introducidos

instance (h : Historia) (c : Llamada) : Decidable (h.Admite c) :=
  inferInstanceAs (Decidable (if c.nuevoEstado = .new then
    c.pid = h.introducidos + 1 ∧ c.pid < 2 ^ 31 else 0 < c.pid ∧ c.pid ≤ h.introducidos))

/-- The lists agree with the states last given to the pids. -/
structure Particion (ultimo : ℕ → Option EstadoProceso) (s : Listas) : Prop where
  /-- `lista_estados[pid - 1]` is the last state. -/
  estado : ∀ pid, 0 < pid → s.listaEstados[pid - 1]? = (ultimo pid).map EstadoProceso.texto
  /-- There are six lists. -/
  seis : s.listaEstadosLogueables.length = 6
  /-- In the six lists together each introduced pid occurs once, and no other. -/
  una : ∀ pid, s.listaEstadosLogueables.flatten.count (pidTexto pid) =
    if (ultimo pid).isSome then 1 else 0
  /-- The list at a position has the pids whose state is of its class, and nothing else. -/
  clase : ∀ i sublista, s.listaEstadosLogueables[i]? = some sublista → ∀ t, t ∈ sublista ↔
    ∃ pid e, t = pidTexto pid ∧ ultimo pid = some e ∧ e.numeroEstado = i

/-- The model keeps the lists of a history: the states in the order of the pids, and the pids sorted
by the class of their state. -/
structure Lleva (h : Historia) (k : Estado) : Prop where
  introducidos : k.listaEstados.length = h.introducidos
  int : h.introducidos < 2 ^ 31
  estado : ∀ pid, k.estado pid = h.ultimo pid
  seis : k.listaEstadosLogueables.length = 6
  clases : Buckets.Sorted k.listaEstadosLogueables fun pid =>
    (h.ultimo pid).map EstadoProceso.numeroEstado

/-- A call keeps the lists. -/
theorem Lleva.anotar {h : Historia} {k : Estado} (hk : Lleva h k) {c : Llamada}
    (hc : h.Admite c) : Lleva (h.anotar c) (k.cambiarEstado c.pid c.nuevoEstado) := by
  have hclase : (fun pid => ((h.anotar c).ultimo pid).map EstadoProceso.numeroEstado) =
      Function.update (fun pid => (h.ultimo pid).map EstadoProceso.numeroEstado) c.pid
        (some c.nuevoEstado.numeroEstado) := by
    funext pid
    by_cases hpid : pid = c.pid
    · simp [Historia.anotar, hpid]
    · simp [Historia.anotar, hpid]
  have hbound : c.nuevoEstado.numeroEstado < k.listaEstadosLogueables.length :=
    hk.seis ▸ numeroEstado_lt _
  have hestado : k.estado = h.ultimo := funext hk.estado
  unfold Historia.Admite at hc
  by_cases hnew : c.nuevoEstado = .new
  · rw [if_pos hnew] at hc
    obtain ⟨hpid, hint⟩ := hc
    have hlibre : h.ultimo c.pid = none := by
      rw [← hestado, hpid, ← hk.introducidos]
      exact List.getElem?_eq_none le_rfl
    have hlogueables : (k.cambiarEstado c.pid c.nuevoEstado).listaEstadosLogueables =
        k.listaEstadosLogueables.modify c.nuevoEstado.numeroEstado fun l => l ++ [c.pid] := by
      simp only [Estado.cambiarEstado, if_pos hnew, Kernel.cambiarEstadoLogueable]
    refine ⟨?_, ?_, fun pid => ?_, ?_, ?_⟩
    · simp [Estado.cambiarEstado, Historia.anotar, hnew, hk.introducidos]
    · simp only [Historia.anotar, if_pos hnew]
      omega
    · rw [hnew, estado_cambiarEstado_new, hk.introducidos, ← hpid, hestado, Historia.anotar, hnew]
    · rw [hlogueables, List.length_modify, hk.seis]
    · rw [hclase, hlogueables]
      exact hk.clases.enter (by simp [hlibre]) hbound
  · rw [if_neg hnew] at hc
    obtain ⟨h0, hle⟩ := hc
    obtain ⟨viejo, hviejo⟩ : ∃ e, h.ultimo c.pid = some e := by
      rw [← hestado, ← Option.isSome_iff_exists, estado_isSome_iff, hk.introducidos]
      exact ⟨h0, hle⟩
    have hlogueables : (k.cambiarEstado c.pid c.nuevoEstado).listaEstadosLogueables =
        (k.listaEstadosLogueables.modify viejo.numeroEstado fun l => l.erase c.pid).modify
          c.nuevoEstado.numeroEstado fun l => l ++ [c.pid] := by
      simp only [Estado.cambiarEstado, if_neg hnew, Kernel.cambiarEstadoLogueable, hestado, hviejo]
    refine ⟨?_, ?_, fun pid => ?_, ?_, ?_⟩
    · simp [Estado.cambiarEstado, Historia.anotar, hnew, hk.introducidos]
    · simp only [Historia.anotar, if_neg hnew]
      exact hk.int
    · rw [estado_of_set h0 (hk.introducidos ▸ hle) (listaEstados_cambiarEstado hnew), hestado,
        Historia.anotar]
    · rw [hlogueables, List.length_modify, List.length_modify, hk.seis]
    · rw [hclase, hlogueables]
      exact hk.clases.move (by simp [hviejo]) hbound

/-- What the lists of texts say of a history that the model keeps. -/
theorem Lleva.particion {h : Historia} {k : Estado} (hk : Lleva h k) :
    Particion h.ultimo (listas k) where
  estado pid hpid := by
    cases pid with
    | zero => omega
    | succ i =>
      rw [← hk.estado]
      exact List.getElem?_map
  seis := by rw [listas, List.length_map, hk.seis]
  una pid := by
    have hflatten : (listas k).listaEstadosLogueables.flatten =
        k.listaEstadosLogueables.flatten.map pidTexto := List.map_flatten.symm
    rw [hflatten, List.count_map_of_injective _ pidTexto itoa_nat_injective,
      hk.clases.count_flatten, Option.isSome_map]
  clase i sublista hi t := by
    obtain ⟨pids, hpids, rfl⟩ : ∃ pids, k.listaEstadosLogueables[i]? = some pids ∧
        pids.map pidTexto = sublista := by
      rw [listas, List.getElem?_map] at hi
      exact Option.map_eq_some_iff.1 hi
    constructor
    · intro ht
      obtain ⟨pid, hpid, rfl⟩ := List.mem_map.1 ht
      obtain ⟨e, he, hclase⟩ := Option.map_eq_some_iff.1 ((hk.clases.mem_iff hpids).1 hpid)
      exact ⟨pid, e, rfl, he, hclase⟩
    · rintro ⟨pid, e, rfl, he, hclase⟩
      refine List.mem_map.2 ⟨pid, (hk.clases.mem_iff hpids).2 ?_, rfl⟩
      rw [he, Option.map_some, hclase]

/-- The texts are those of lists that the model keeps. -/
def Representa (h : Historia) (s : Listas) : Prop := ∃ k, Lleva h k ∧ s = listas k

/-- Every admitted call comes back with the lists of the history after it. -/
theorem llamar_representa {h : Historia} {s : Listas} {c : Llamada} (hs : Representa h s)
    (hc : h.Admite c) : ∃ t, llamar s c = some t ∧ Representa (h.anotar c) t := by
  obtain ⟨k, hk, rfl⟩ := hs
  refine ⟨_, cambiarEstado_refina hk.seis fun hnew => ?_, _, hk.anotar hc, rfl⟩
  have hint := hk.int
  unfold Historia.Admite at hc
  rw [if_neg hnew] at hc
  rw [hk.introducidos]
  omega

theorem representa_iniciales : Representa Historia.vacia Listas.iniciales :=
  ⟨Estado.inicial ⟨.FIFO, [], 0⟩,
    ⟨rfl, by decide, fun pid => by cases pid <;> rfl, rfl, Buckets.Sorted.replicate 6⟩, rfl⟩

/-- **The lists of states are a partition.**  In every sequence of calls of `cambiar_estado` that
introduces the pids with NEW in the order 1, 2, 3, … and gives them any states afterwards, every
call comes back, `lista_estados[pid - 1]` is the last state given to each pid, and each pid
introduced is once in the six lists, in the one of its state. -/
theorem cambiarEstado_particion (llamadas : List Llamada)
    (h : Allowed Historia.anotar Historia.Admite Historia.vacia llamadas) :
    ∃ s, run llamar Listas.iniciales llamadas = some s ∧
      Particion (llamadas.foldl Historia.anotar Historia.vacia).ultimo s := by
  obtain ⟨s, hrun, k, hk, rfl⟩ :=
    run_refines (fun _ _ _ => llamar_representa) representa_iniciales h
  exact ⟨listas k, hrun, hk.particion⟩

/-- Two processes, one of them evicted for an interface. -/
theorem cambiarEstado_particion_dos :
    let llamadas : List Llamada := [⟨1, .new⟩, ⟨1, .ready⟩, ⟨2, .new⟩, ⟨1, .exec⟩, ⟨2, .readyM⟩,
      ⟨1, .blockIo "NEW".toList⟩]
    ∃ s, run llamar Listas.iniciales llamadas = some s ∧
      Particion (llamadas.foldl Historia.anotar Historia.vacia).ultimo s :=
  cambiarEstado_particion _ (by decide)

end SimuladorSO.Kernel.ListasDeEstados
