import SimuladorSO.Memoria.Limites
import SimuladorSO.Cpu.Coherencia

/-!
# What a process sees of memoria

A process sees its script, its page table and the bytes of its frames.  `Igual` relates the memories
in which it sees the same; the frames have one owner each, so what one process writes nobody else
sees.

* `SuByte`, `Igual`: the bytes in the frames of a process, and the memories that look the same to it;
* `TramoPropio`: a walk that begins in a frame of the process, and stays in its frames;
* `escribirMemoria_ajeno`, `redimensionarProceso_ajeno`, `recibirInfoKernel_ajeno`: what the requests
  of a process do not change for another;
* `leerMemoria_igual`, `escribirMemoria_igual`: what they do to it depends on what it sees.
-/

namespace SimuladorSO.Cpu

open CInt Dictionary Loops Memoria

variable (cfg : MemoriaConfiguracion)

/-- The table of the process maps some page to the frame. -/
def SuMarco (m : Memoria.Estado) (pid marco : ℤ) : Prop := ∃ pagina, Mapea m pid pagina marco

/-- The byte is in a frame of the process. -/
def SuByte (m : Memoria.Estado) (pid a : ℤ) : Prop := SuMarco m pid (a / cfg.tamPagina)

/-- Two memories in which the process sees the same. -/
structure Igual (pid : ℤ) (m m' : Memoria.Estado) : Prop where
  guion : get m'.diccionarioInstrucciones pid = get m.diccionarioInstrucciones pid
  tabla : get m'.registroTablaDePaginas pid = get m.registroTablaDePaginas pid
  bytes : ∀ a, SuByte cfg m pid a → m'.espacioMemoria a = m.espacioMemoria a

/-- If the walk has something to move, it is in a frame of the process, or in none. -/
def TramoPropio (m : Memoria.Estado) (pid : ℤ) (r : Recorrido) : Prop :=
  0 < r.tamanio → r.marco = -1 ∨ (SuMarco m pid r.marco ∧ 0 ≤ r.desplazamiento)

variable {cfg} {m m' m'' : Memoria.Estado} {pid pid' a : ℤ} {r r' : Recorrido}

/-! ### Views -/

theorem SuMarco.congr (h : get m'.registroTablaDePaginas pid = get m.registroTablaDePaginas pid)
    {marco : ℤ} : SuMarco m' pid marco ↔ SuMarco m pid marco := by
  unfold SuMarco Mapea duenio
  dsimp only
  rw [h]

theorem Igual.refl (pid : ℤ) (m : Memoria.Estado) : Igual cfg pid m m :=
  ⟨rfl, rfl, fun _ _ => rfl⟩

theorem Igual.symm (h : Igual cfg pid m m') : Igual cfg pid m' m :=
  ⟨h.guion.symm, h.tabla.symm, fun a ha => (h.bytes a ((SuMarco.congr h.tabla).1 ha)).symm⟩

theorem Igual.trans (h : Igual cfg pid m m') (h' : Igual cfg pid m' m'') : Igual cfg pid m m'' :=
  ⟨h'.guion.trans h.guion, h'.tabla.trans h.tabla, fun a ha =>
    (h'.bytes a ((SuMarco.congr h.tabla).2 ha)).trans (h.bytes a ha)⟩

/-- A frame has one owner. -/
theorem SuMarco.unico (he : MarcosExclusivos cfg m) {marco : ℤ} (h : SuMarco m pid marco)
    (h' : SuMarco m pid' marco) : pid = pid' := by
  obtain ⟨p, hp⟩ := h
  obtain ⟨q, hq⟩ := h'
  exact (Prod.mk.inj (he.inj (pid, p) (pid', q) marco hp hq)).1

theorem SuMarco.nonneg (he : MarcosExclusivos cfg m) {marco : ℤ} (h : SuMarco m pid marco) :
    0 ≤ marco := by
  obtain ⟨p, hp⟩ := h
  exact (he.valid_of_owner (pid, p) marco hp).1

/-! ### Walks -/

/-- After an iteration the walk is in a frame of the process, or in none. -/
theorem TramoPropio.avanzar (hr : r.avanzar cfg m pid = some r') : TramoPropio m pid r' := by
  intro hpos
  unfold Recorrido.avanzar at hr
  dsimp only at hr
  split_ifs at hr with hrest
  · obtain ⟨marco, hmarco, rfl⟩ := Option.map_eq_some_iff.1 hr
    unfold obtenerSiguienteMarco at hmarco
    cases hg : get m.registroTablaDePaginas pid with
    | none => rw [hg] at hmarco; cases hmarco
    | some tabla =>
      rw [hg] at hmarco
      obtain ⟨pagina, -, rfl⟩ := Option.map_eq_some_iff.1 hmarco
      rcases obtenerMarco_cases m pid (pagina + 1) with hnone | hmap
      · exact Or.inl hnone
      · exact Or.inr ⟨⟨pagina + 1, hmap⟩, le_rfl⟩
  · cases hr
    exact absurd hpos hrest

/-- All the iterations are in frames of the process. -/
theorem TramoPropio.visitas (he : MarcosExclusivos cfg m) {fuel : ℕ} (h : TramoPropio m pid r)
    {visitados : List Recorrido} {huboError : Bool}
    (hv : visitas cfg m pid fuel r = some (visitados, huboError)) :
    ∀ r' ∈ visitados, SuMarco m pid r'.marco ∧ 0 ≤ r'.desplazamiento := by
  induction fuel generalizing r visitados with
  | zero =>
    unfold Memoria.visitas recorrerMarcos at hv
    split_ifs at hv
    cases hv
    simp
  | succ fuel ih =>
    by_cases hpos : 0 < r.tamanio
    · rcases h hpos with hmarco | hsuyo
      · rw [visitas_sin_marco fuel hpos hmarco] at hv
        cases hv
        simp
      · rw [visitas_succ hpos (hsuyo.1.nonneg he)] at hv
        obtain ⟨r₁, hr₁, hv⟩ := Option.bind_eq_some_iff.1 hv
        obtain ⟨⟨resto, e⟩, hresto, heq⟩ := Option.map_eq_some_iff.1 hv
        cases heq
        intro r' hr'
        rcases List.mem_cons.1 hr' with rfl | hr'
        · exact hsuyo
        · exact ih (TramoPropio.avanzar hr₁) hresto r' hr'
    · rw [visitas_nada fuel (not_lt.1 hpos)] at hv
      cases hv
      simp

/-- The bytes that an iteration moves are in its frame. -/
theorem ediv_of_bytes (hd : 0 ≤ r.desplazamiento) (ha : r.base cfg ≤ a)
    (ha' : a < r.base cfg + r.bytes cfg) : a / cfg.tamPagina = r.marco := by
  have ht := tamPagina_pos_int cfg
  have hbytes := bytes_eq_min cfg r
  unfold Recorrido.base at ha ha'
  have hlt : a < r.marco * cfg.tamPagina + cfg.tamPagina := by omega
  refine le_antisymm ?_ ?_
  · have : a / cfg.tamPagina < r.marco + 1 := by
      rw [Int.ediv_lt_iff_lt_mul ht, add_mul, one_mul]
      exact hlt
    omega
  · rw [Int.le_ediv_iff_mul_le ht]
    omega

/-- The address of a byte of the process is in its frame. -/
theorem tramoPropio_inicial (ha : 0 ≤ a) (h : SuByte cfg m pid a) (n : ℤ) :
    TramoPropio m pid (Recorrido.inicial cfg a n) := by
  refine fun _ => Or.inr ⟨?_, ?_⟩
  · show SuMarco m pid (a.tdiv cfg.tamPagina)
    rw [Int.tdiv_eq_ediv_of_nonneg ha]
    exact h
  · show 0 ≤ a.tmod cfg.tamPagina
    exact Int.tmod_nonneg _ ha

/-! ### What the others do not see -/

/-- The bytes of the memory after the iterations of `escribir_memoria`. -/
def escribirTramos (cfg : MemoriaConfiguracion) (info : ℤ → UInt8) (visitados : List Recorrido)
    (espacio : ℤ → UInt8) : ℤ → UInt8 :=
  visitados.foldl (fun e r => escribirTramo cfg info r e) espacio

/-- The writes of a walk in frames of the process are in its frames. -/
theorem escribirTramos_ajeno (info : ℤ → UInt8) (espacio : ℤ → UInt8) {visitados : List Recorrido}
    (hv : ∀ r ∈ visitados, SuMarco m pid r.marco ∧ 0 ≤ r.desplazamiento)
    (ha : ¬ SuByte cfg m pid a) : escribirTramos cfg info visitados espacio a = espacio a := by
  induction visitados generalizing espacio with
  | nil => rfl
  | cons r visitados ih =>
    refine (ih _ fun r' hr' => hv r' (List.mem_cons_of_mem _ hr')).trans ?_
    obtain ⟨hsuyo, hd⟩ := hv r List.mem_cons_self
    unfold escribirTramo copiarEn
    refine if_neg fun hrango => ha ?_
    rw [SuByte, ediv_of_bytes hd hrango.1 hrango.2]
    exact hsuyo

/-- The same bytes are written over any others. -/
theorem escribirTramos_congr (info : ℤ → UInt8) (visitados : List Recorrido)
    {espacio espacio' : ℤ → UInt8} (h : espacio' a = espacio a) :
    escribirTramos cfg info visitados espacio' a = escribirTramos cfg info visitados espacio a := by
  induction visitados generalizing espacio espacio' with
  | nil => exact h
  | cons r visitados ih =>
    refine ih ?_
    unfold escribirTramo copiarEn
    dsimp only
    split_ifs
    · rfl
    · exact h

/-- What `escribir_memoria` does to a state, when it comes back. -/
theorem escribirMemoria_eq_some {direccion tamanio : ℤ} {info : List UInt8} {envios : List Envio}
    (h : escribirMemoria cfg m direccion info tamanio pid = some (m', envios)) :
    ∃ visitados huboError, visitas cfg m pid (combustible tamanio)
        (Recorrido.inicial cfg direccion tamanio) = some (visitados, huboError) ∧
      m' = { m with
        espacioMemoria :=
          escribirTramos cfg (fun k => info.getD k.toNat 0) visitados m.espacioMemoria } ∧
      envios = verificarLimiteMemoria cfg direccion tamanio ++
        [.mensaje (if huboError then "OUT_OF_MEMORY" else "OK")] := by
  obtain ⟨⟨espacio, huboError⟩, hrecorrer, heq⟩ := Option.map_eq_some_iff.1 h
  rw [recorrerMarcos_eq_foldl] at hrecorrer
  obtain ⟨⟨visitados, e⟩, hv, hespacio⟩ := Option.map_eq_some_iff.1 hrecorrer
  obtain ⟨rfl, rfl⟩ := Prod.mk.inj hespacio
  obtain ⟨rfl, rfl⟩ := Prod.mk.inj heq
  exact ⟨visitados, _, hv, rfl, rfl⟩

/-- **Nobody else sees a write.** -/
theorem escribirMemoria_ajeno (he : MarcosExclusivos cfg m) {direccion tamanio : ℤ}
    {info : List UInt8} {envios : List Envio}
    (hpropio : TramoPropio m pid (Recorrido.inicial cfg direccion tamanio))
    (h : escribirMemoria cfg m direccion info tamanio pid = some (m', envios))
    (hne : pid' ≠ pid) : Igual cfg pid' m m' := by
  obtain ⟨visitados, huboError, hv, rfl, -⟩ := escribirMemoria_eq_some h
  refine ⟨rfl, rfl, fun a ha => ?_⟩
  exact escribirTramos_ajeno _ _ (hpropio.visitas he hv) fun ha' => hne (ha.unico he ha')

theorem redimensionarProceso_ajeno {tamanio : ℤ} {envios : List Envio}
    (h : redimensionarProceso cfg m pid tamanio = some (m', envios)) (hne : pid' ≠ pid) :
    Igual cfg pid' m m' := by
  obtain ⟨tab, -, ⟨-, s, -, -, rfl⟩ | ⟨-, s, -, -, rfl⟩ | ⟨-, -, rfl⟩⟩ :=
    redimensionarProceso_cases h
  · exact ⟨rfl, get_put_of_ne _ _ hne, fun _ _ => rfl⟩
  · exact ⟨rfl, get_put_of_ne _ _ hne, fun _ _ => rfl⟩
  · exact .refl pid' _

theorem finalizarProceso_guion (m : Memoria.Estado) (pid : ℤ) :
    get (recibirInfoKernel m (.finalizarProceso pid)).diccionarioInstrucciones pid = none := by
  unfold recibirInfoKernel liberarProcesoDeMemoria
  dsimp only
  cases get m.registroTablaDePaginas pid <;> exact get_remove_self _ _

/-- The process of a request of the kernel. -/
def pidDe : PedidoKernel → ℤ
  | .iniciarProceso _ pid => pid
  | .finalizarProceso pid => pid

theorem recibirInfoKernel_ajeno (cfg : MemoriaConfiguracion) (m : Memoria.Estado)
    (pedido : PedidoKernel) (hne : pid' ≠ pidDe pedido) :
    Igual cfg pid' m (recibirInfoKernel m pedido) := by
  cases pedido with
  | iniciarProceso archivo pid =>
    exact ⟨get_put_of_ne _ _ hne, get_put_of_ne _ _ hne, fun _ _ => rfl⟩
  | finalizarProceso pid =>
    refine ⟨?_, (finalizarProceso_get m pid pid').trans (if_neg hne), fun _ _ => ?_⟩
    · unfold recibirInfoKernel liberarProcesoDeMemoria
      dsimp only
      cases get m.registroTablaDePaginas pid with
      | none => exact get_remove_of_ne _ hne
      | some tabla => exact get_remove_of_ne _ hne
    · unfold recibirInfoKernel liberarProcesoDeMemoria
      dsimp only
      cases get m.registroTablaDePaginas pid <;> rfl

/-! ### What the process sees -/

/-- A process that has ended sees nothing. -/
theorem Igual.finalizar (pid : ℤ) : Igual cfg pid (recibirInfoKernel m (.finalizarProceso pid))
    (recibirInfoKernel m' (.finalizarProceso pid)) := by
  have htabla : ∀ m : Memoria.Estado, get (recibirInfoKernel m
      (.finalizarProceso pid)).registroTablaDePaginas pid = none := fun m => by
    rw [finalizarProceso_get, if_pos rfl]
  refine ⟨(finalizarProceso_guion m' pid).trans (finalizarProceso_guion m pid).symm,
    (htabla m').trans (htabla m).symm, fun a ha => ?_⟩
  obtain ⟨pagina, hp⟩ := ha
  unfold Mapea duenio at hp
  dsimp only at hp
  rw [htabla] at hp
  cases hp

theorem Igual.obtenerMarco (h : Igual cfg pid m m') (pagina : ℤ) :
    obtenerMarco m' pid pagina = obtenerMarco m pid pagina :=
  obtenerMarco_congr h.tabla pagina

/-- The walks depend on the table only. -/
theorem Igual.recorrerMarcos {β : Type} (h : Igual cfg pid m m') (efecto : Recorrido → β → β)
    (fuel : ℕ) (b : β) (r : Recorrido) :
    recorrerMarcos cfg m' pid efecto fuel b r = recorrerMarcos cfg m pid efecto fuel b r := by
  have havanzar : ∀ r : Recorrido, r.avanzar cfg m' pid = r.avanzar cfg m pid := by
    intro r
    unfold Recorrido.avanzar obtenerSiguienteMarco
    rw [h.tabla]
    simp only [h.obtenerMarco]
  induction fuel generalizing b r with
  | zero => rfl
  | succ fuel ih =>
    unfold Memoria.recorrerMarcos
    simp only [havanzar, ih]

/-- **A read depends on what the process sees.** -/
theorem leerMemoria_igual (he : MarcosExclusivos cfg m) (h : Igual cfg pid m m')
    {direccion tamanio : ℤ} (hpropio : TramoPropio m pid (Recorrido.inicial cfg direccion tamanio)) :
    leerMemoria cfg m' direccion tamanio pid = leerMemoria cfg m direccion tamanio pid := by
  have hrecorrer : ∀ b, Memoria.recorrerMarcos cfg m' pid (leerTramo cfg m'.espacioMemoria)
      (combustible tamanio) b (Recorrido.inicial cfg direccion tamanio) =
      Memoria.recorrerMarcos cfg m pid (leerTramo cfg m.espacioMemoria)
        (combustible tamanio) b (Recorrido.inicial cfg direccion tamanio) := by
    intro b
    rw [h.recorrerMarcos, recorrerMarcos_eq_foldl, recorrerMarcos_eq_foldl]
    cases hv : Memoria.visitas cfg m pid (combustible tamanio)
        (Recorrido.inicial cfg direccion tamanio) with
    | none => rfl
    | some v =>
      have hfoldl : v.1.foldl (fun b r => leerTramo cfg m'.espacioMemoria r b) b =
          v.1.foldl (fun b r => leerTramo cfg m.espacioMemoria r b) b := by
        refine List.foldl_ext _ _ _ fun mensaje r hr => ?_
        obtain ⟨hsuyo, hd⟩ := hpropio.visitas he hv r hr
        unfold leerTramo
        rw [leerDe_congr fun i hi0 hi => ?_]
        refine h.bytes _ ?_
        rw [SuByte, ediv_of_bytes hd (by omega) (by omega)]
        exact hsuyo
      rw [Option.map_some, Option.map_some, hfoldl]
  unfold leerMemoria
  dsimp only
  rw [hrecorrer]

/-- **So does what the process sees after a write.** -/
theorem escribirMemoria_igual (h : Igual cfg pid m m') {direccion tamanio : ℤ} {info : List UInt8}
    {m₁ : Memoria.Estado} {envios : List Envio}
    (hr : escribirMemoria cfg m direccion info tamanio pid = some (m₁, envios)) :
    ∃ m₁', escribirMemoria cfg m' direccion info tamanio pid = some (m₁', envios) ∧
      Igual cfg pid m₁ m₁' := by
  obtain ⟨visitados, huboError, hv, rfl, rfl⟩ := escribirMemoria_eq_some hr
  have hv' : Memoria.visitas cfg m' pid (combustible tamanio)
      (Recorrido.inicial cfg direccion tamanio) = some (visitados, huboError) := by
    rw [Memoria.visitas, h.recorrerMarcos]
    exact hv
  refine ⟨{ m' with
      espacioMemoria :=
        escribirTramos cfg (fun k => info.getD k.toNat 0) visitados m'.espacioMemoria },
    ?_, h.guion, h.tabla, fun a ha => escribirTramos_congr _ visitados (h.bytes a ha)⟩
  unfold escribirMemoria
  dsimp only
  rw [recorrerMarcos_eq_foldl, hv']
  rfl

end SimuladorSO.Cpu
