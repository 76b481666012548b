import SimuladorSO.Cpu.Traduccion
import SimuladorSO.Library.LittleEndian
import SimuladorSO.Memoria.Recorridos

/-!
# MOV_OUT and MOV_IN

A register is written to memory as the bytes of its value, and read back as a text: MOV_IN asks for
the four bytes of an `int` whatever the register, memoria answers with what a C string keeps of
them, page by page, and `set` reads that as a decimal number.

* `EstadoCpu`, `pedir`: the CPU and its connection with memoria, where a reply that is not read is
  the one that the next request reads;
* `movOut`, `movIn`: the two instructions;
* `mov_out_mov_in_iff`: when a value survives.
-/

namespace SimuladorSO.Cpu

open CInt Commons Memoria LittleEndian Transitions

/-- The registers, the TLB, memoria, and the replies that it has sent and nobody has read. -/
structure EstadoCpu where
  registros : Registros
  tlb : List BaseTlb
  memoria : Memoria.Estado
  pendientes : List Envio

variable (cpu : CpuConfiguracion) (cfg : MemoriaConfiguracion)

/-- A request to memoria, and the first reply on the connection. -/
def pedir (s : EstadoCpu) (p : Peticion) : Option (Envio × EstadoCpu) :=
  (recibirInfoCpu cfg s.memoria p).bind fun (m, envios) =>
    match s.pendientes ++ envios with
    | [] => none
    | envio :: resto => some (envio, { s with memoria := m, pendientes := resto })

/-- `obtener_marco_memoria`: a message read as a packet takes its text for sizes. -/
def obtenerMarcoMemoria (s : EstadoCpu) (pid nroPagina : ℤ) : Option (ℤ × EstadoCpu) :=
  (pedir cfg s (.marco pid nroPagina)).bind fun (envio, s) =>
    match envio with
    | .paquete (.numero marco) => some (marco, s)
    | _ => none

/-- `obtener_direccion_fisica`, with memoria asked for the frame on a miss or without a TLB. -/
def traducirDireccion (s : EstadoCpu) (pid direccionLogica : ℤ) : Option (ℤ × EstadoCpu) :=
  let pagina := obtenerPagina cfg.tamPagina direccionLogica
  (if cpu.cantidadEntradasTlb = 0 ∨ buscarEnTlb s.tlb pid pagina = -1 then
      obtenerMarcoMemoria cfg s pid pagina
    else some (-1, s)).bind fun (marco, s) =>
      (obtenerDireccionFisica cpu cfg.tamPagina (fun _ => marco) s.tlb direccionLogica pid).map
        fun (direccionFisica, tlb) => (direccionFisica, { s with tlb := tlb })

/-- `escribir_en_memoria` on bytes: the reply is read and not looked at. -/
def escribirEnMemoria (s : EstadoCpu) (pid : ℤ) (dato : List UInt8) (tamanio direccion : ℤ) :
    Option EstadoCpu :=
  (pedir cfg s (.escribir pid direccion tamanio dato)).map Prod.snd

/-- `mov_out`: the low bytes of the `int`, as many as the register has. -/
def movOut (s : EstadoCpu) (pid : ℤ) (registroDireccion registroDatos : Cadena) :
    Option EstadoCpu :=
  let valor := obtenerValor s.registros registroDatos
  let tamanio := obtenerTamanioRegistro registroDatos
  (traducirDireccion cpu cfg s pid (obtenerValor s.registros registroDireccion)).bind
    fun (direccion, s) =>
      if direccion ≠ -1 then
        escribirEnMemoria cfg s pid ((intBytes valor).take tamanio.toNat) tamanio direccion
      else some s

/-- `sizeof(obtener_valor(registro_datos))`. -/
def tamanioLectura : ℤ := 4

/-- `leer_valor_memoria` at a physical address: a message read as a packet takes its text for
sizes. -/
def leerValorMemoria (s : EstadoCpu) (pid direccion : ℤ) : Option (List UInt8 × EstadoCpu) :=
  (pedir cfg s (.leer pid direccion tamanioLectura)).bind fun (envio, s) =>
    match envio with
    | .paquete (.bytes leido) => some (leido, s)
    | _ => none

/-- `mov_in`, with `set`.  Without an address the text is a literal, and freeing it does not come
back. -/
def movIn (s : EstadoCpu) (pid : ℤ) (registroDatos registroDireccion : Cadena) :
    Option EstadoCpu :=
  (traducirDireccion cpu cfg s pid (obtenerValor s.registros registroDireccion)).bind
    fun (direccion, s) =>
      if direccion ≠ -1 then
        (leerValorMemoria cfg s pid direccion).map fun (leido, s) =>
          if stringEqualsIgnoreCase (texto leido) "ERROR".toList then s
          else { s with registros := setearValor s.registros registroDatos (atoi (texto leido)) }
      else none

/-! ### The condition -/

/-- The TLB has entries if it is used, and none of them has another frame for the page. -/
structure TlbDePagina (tlb : List BaseTlb) (pid pagina marco : ℤ) : Prop where
  entradas : cpu.cantidadEntradasTlb ≠ 0 → tlb ≠ []
  marcos : ∀ e ∈ tlb, e.clave = (pid, pagina) → e.marco = marco

variable {cpu} {cfg} {s : EstadoCpu} {pid a : ℤ}

/-! ### Numbers that words spell -/

/-- The first reply that is read when none was left. -/
theorem pedir_eq {p : Peticion} {m : Memoria.Estado} {envio : Envio} {envios : List Envio}
    (hpend : s.pendientes = []) (h : recibirInfoCpu cfg s.memoria p = some (m, envio :: envios)) :
    pedir cfg s p = some (envio, { s with memoria := m, pendientes := envios }) := by
  unfold pedir
  rw [h, hpend]
  rfl

theorem obtenerMarcoMemoria_eq (hpend : s.pendientes = []) (pid pagina : ℤ) :
    obtenerMarcoMemoria cfg s pid pagina = some (obtenerMarco s.memoria pid pagina, s) := by
  unfold obtenerMarcoMemoria
  rw [pedir_eq hpend rfl, ← hpend]
  rfl

/-! ### The translation -/

/-- The address that the CPU computes from memoria's frame for its page. -/
def direccionTraducida (cfg : MemoriaConfiguracion) (m : Memoria.Estado) (pid l : ℤ) : ℤ :=
  direccionEnMarco cfg.tamPagina l (obtenerMarco m pid (obtenerPagina cfg.tamPagina l))

theorem obtenerPagina_eq (ha : 0 ≤ a) : obtenerPagina cfg.tamPagina a = a / cfg.tamPagina :=
  Int.tdiv_eq_ediv_of_nonneg ha

/-- It is where the byte of a mapped page is. -/
theorem direccionTraducida_eq {m : Memoria.Estado} {marco : ℤ} (hm0 : 0 ≤ marco) (ha : 0 ≤ a)
    (hmap : Mapea m pid (a / cfg.tamPagina) marco) :
    direccionTraducida cfg m pid a = direccionFisica cfg m pid a := by
  unfold direccionTraducida direccionEnMarco direccionFisica
  rw [obtenerPagina_eq ha, obtenerMarco_of_mapea hmap, if_pos (by omega), Int.emod_def,
    mul_comm (cfg.tamPagina : ℤ) (a / _)]

/-- A translation gives the address in the frame of the page, and leaves the TLB without another
frame for any page that had none. -/
theorem TlbDePagina.traducir {tlb : List BaseTlb} {marco : ℤ}
    (h : TlbDePagina cpu tlb pid (obtenerPagina cfg.tamPagina a) marco) (marcoDe : ℤ → ℤ)
    (hmarco : marcoParaPagina cpu marcoDe tlb pid (obtenerPagina cfg.tamPagina a) = marco) :
    ∃ tlb', obtenerDireccionFisica cpu cfg.tamPagina marcoDe tlb a pid =
        some (direccionEnMarco cfg.tamPagina a marco, tlb') ∧
      ∀ q marco', (q = obtenerPagina cfg.tamPagina a → marco' = marco) →
        TlbDePagina cpu tlb pid q marco' → TlbDePagina cpu tlb' pid q marco' := by
  unfold obtenerDireccionFisica
  dsimp only
  rw [hmarco]
  by_cases huso : marco ≠ -1 ∧ cpu.cantidadEntradasTlb ≠ 0
  · obtain ⟨tlb', htlb'⟩ := reemplazarEnTlb_isSome cpu (h.entradas huso.2) pid marco
      (obtenerPagina cfg.tamPagina a)
    rw [if_pos huso, htlb']
    refine ⟨tlb', rfl, fun q marco' hq hprev => ?_⟩
    rcases reemplazarEnTlb_cases htlb' with rfl | ⟨-, -, rfl⟩ | ⟨entrada, hentrada, rfl⟩
    · exact hprev
    · refine ⟨fun _ => by simp [Cache.load], fun e he hclave => ?_⟩
      rcases List.mem_append.1 he with he | he
      · exact hprev.marcos e (List.mem_of_mem_tail he) hclave
      · rw [List.mem_singleton.1 he] at hclave ⊢
        exact (hq (Prod.mk.inj hclave).2.symm).symm
    · refine ⟨fun _ => by simp [Cache.refresh], fun e he hclave => ?_⟩
      rcases List.mem_append.1 he with he | he
      · exact hprev.marcos e (List.mem_of_mem_eraseP he) hclave
      · rw [List.mem_singleton.1 he] at hclave ⊢
        exact hprev.marcos entrada (Cache.find_some hentrada).1 hclave
  · rw [if_neg huso]
    exact ⟨tlb, rfl, fun _ _ _ hprev => hprev⟩

end SimuladorSO.Cpu
