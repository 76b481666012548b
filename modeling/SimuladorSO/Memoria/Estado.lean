import SimuladorSO.Commons
import SimuladorSO.Library.CInt
import SimuladorSO.Library.Dictionary
import SimuladorSO.Library.Loops

/-!
# The memory module: state and operations

The state of `memoria.c` and its functions.  `espacioMemoria` is indexed by the offset from the
start of the allocated block, and offsets outside `[0, TAM_MEMORIA)` are the bytes around it, so
an access out of bounds is visible and not an error.  A function answers `none` where the program
dereferences `NULL`, writes past a block of the heap, or does not come back.

* page tables: `obtenerMarco`, `guardarProcesoEnMemoria`, `liberarProcesoDeMemoria`,
  `redimensionarProceso` with `ampliarProceso` and `reducirProceso`;
* user space: `escribirMemoria`, `leerMemoria`;
* scripts: `ejecutarScript`, `enviarInstruccion`;
* the requests of the kernel (`recibirInfoKernel`) and of the CPU and the interfaces
  (`recibirInfoCpu`), with the replies each one sends.
-/

namespace SimuladorSO.Memoria

open CInt Dictionary Loops Commons

/-- What can be written in a string of `string_new`, which asks `malloc` for one byte and gets a
block of at least 24.  To copy bytes past the block is undefined, and the program does not go on;
whether it does after a single 0 past it depends on what is there. -/
structure Monticulo where
  bloque : ℤ
  /-- The program goes on after it has set the byte at the offset to 0. -/
  tolera : ℤ → Bool
  bloque_minimo : 24 ≤ bloque
  tolera_bloque : ∀ i, 0 ≤ i → i < bloque → tolera i = true

/-- The smallest block, past which nothing can be written. -/
def Monticulo.minimo : Monticulo where
  bloque := 24
  tolera i := decide (0 ≤ i ∧ i < 24)
  bloque_minimo := le_rfl
  tolera_bloque _ h0 hi := decide_eq_true ⟨h0, hi⟩

/-- The configuration read by `levantar_config`, and the heap. -/
structure MemoriaConfiguracion where
  tamMemoria : ℕ
  tamPagina : ℕ
  monticulo : Monticulo
  tamPagina_pos : 0 < tamPagina
  tamMemoria_int : tamMemoria < 2 ^ 31
  tamPagina_int : tamPagina < 2 ^ 31

/-- A page table: the page counter and the frame of each page. -/
structure TablaDePaginas where
  cantPaginas : ℤ
  frameSegunPagina : Dict ℤ ℤ

/-- The global variables of the module. -/
structure Estado where
  espacioMemoria : ℤ → UInt8
  registroTablaDePaginas : Dict ℤ TablaDePaginas
  framesLibres : ℤ → Bool
  diccionarioInstrucciones : Dict ℤ (List Cadena)

/-- A value of a packet, before it is rendered as text. -/
inductive Valor
  | texto (s : String)
  | linea (s : Cadena)
  | numero (n : ℤ)
  | bytes (b : List UInt8)
  deriving DecidableEq

/-- What is sent on a connection: one `MENSAJE` or one `PAQUETE` with one value. -/
inductive Envio
  | mensaje (texto : String)
  | paquete (valor : Valor)
  deriving DecidableEq

variable (cfg : MemoriaConfiguracion)

/-- The number of frames, `atoi(tam_memoria) / atoi(tam_pagina)`. -/
def totalMarcos : ℕ := cfg.tamMemoria / cfg.tamPagina

/-- The state after start-up, over the bytes that `malloc` returned. -/
def generarEspacioMemoria (espacio : ℤ → UInt8) : Estado :=
  ⟨espacio, [], fun _ => false, []⟩

/-! ### Page tables -/

/-- The frame of a page, or `-1`. -/
def obtenerMarco (m : Estado) (pid nroPagina : ℤ) : ℤ :=
  match get m.registroTablaDePaginas pid with
  | none => -1
  | some tabla => (get tabla.frameSegunPagina nroPagina).getD (-1)

/-- A new, empty table under the pid. -/
def guardarProcesoEnMemoria (m : Estado) (pid : ℤ) : Estado :=
  { m with registroTablaDePaginas := put m.registroTablaDePaginas pid ⟨0, []⟩ }

/-- One iteration of the loop of `liberar_proceso_de_memoria`. -/
def liberarMarco (tabla : TablaDePaginas) (i : ℕ) (framesLibres : ℤ → Bool) : ℤ → Bool :=
  match get tabla.frameSegunPagina (i : ℤ) with
  | some marco => Function.update framesLibres marco false
  | none => framesLibres

/-- Clear the frames of the process and drop its table. -/
def liberarProcesoDeMemoria (m : Estado) (pid : ℤ) : Estado :=
  match get m.registroTablaDePaginas pid with
  | none => m
  | some tabla =>
    { m with
      framesLibres := iterate (liberarMarco tabla) tabla.cantPaginas.toNat m.framesLibres
      registroTablaDePaginas := remove m.registroTablaDePaginas pid }

/-- One iteration of the loop of `reducir_proceso`: the key is `cant_paginas - i`. -/
def liberarPagina (i : ℕ) (s : TablaDePaginas × (ℤ → Bool)) : TablaDePaginas × (ℤ → Bool) :=
  match get s.1.frameSegunPagina (s.1.cantPaginas - i) with
  | some marco =>
    ({ s.1 with frameSegunPagina := remove s.1.frameSegunPagina (s.1.cantPaginas - i) },
      Function.update s.2 marco false)
  | none => s

/-- `reducir_proceso`: the table, the bitmap and the reply. -/
def reducirProceso (tab : TablaDePaginas) (framesLibres : ℤ → Bool) (cantPaginasALiberar : ℤ) :
    TablaDePaginas × (ℤ → Bool) × List Envio :=
  let s := iterate liberarPagina cantPaginasALiberar.toNat (tab, framesLibres)
  (s.1, s.2, [.mensaje "OK"])

/-- The variables of the loop of `ampliar_proceso`; after `huboError` it is left by `break`. -/
structure Ampliacion where
  tab : TablaDePaginas
  framesLibres : ℤ → Bool
  huboError : Bool

/-- One iteration of the loop of `ampliar_proceso`. -/
def ocuparMarco (i : ℕ) (s : Ampliacion) : Ampliacion :=
  if s.huboError then s
  else
    let marcoLibre := firstFrom (fun j => !s.framesLibres j) 0 (totalMarcos cfg)
    if marcoLibre = -1 then { s with huboError := true }
    else
      { tab := { s.tab with
          frameSegunPagina := put s.tab.frameSegunPagina (s.tab.cantPaginas + i) marcoLibre }
        framesLibres := Function.update s.framesLibres marcoLibre true
        huboError := false }

/-- `ampliar_proceso`: the table, the bitmap and the reply. -/
def ampliarProceso (tab : TablaDePaginas) (framesLibres : ℤ → Bool) (cantNuevasPaginas : ℤ) :
    TablaDePaginas × (ℤ → Bool) × List Envio :=
  let s := iterate (ocuparMarco cfg) cantNuevasPaginas.toNat ⟨tab, framesLibres, false⟩
  (s.tab, s.framesLibres, [.mensaje (if s.huboError then "OUT_OF_MEMORY" else "OK")])

/-- The pages that a size takes, `ceil((double) tamanio / (double) tam_pagina)`. -/
def paginasNecesarias (tamanioNuevo : ℤ) : ℤ := ceilDiv tamanioNuevo cfg.tamPagina

/-- `redimensionar_proceso`: the table is used without a `NULL` check. -/
def redimensionarProceso (m : Estado) (pid tamanioNuevo : ℤ) : Option (Estado × List Envio) :=
  match get m.registroTablaDePaginas pid with
  | none => none
  | some tab =>
    let paginas := paginasNecesarias cfg tamanioNuevo
    if tab.cantPaginas > paginas then
      let aLiberar := int32 (tab.cantPaginas - paginas)
      let (tab', framesLibres, envios) := reducirProceso tab m.framesLibres aLiberar
      let tab'' := { tab' with cantPaginas := int32 (tab'.cantPaginas - aLiberar) }
      some ({ m with
        framesLibres := framesLibres
        registroTablaDePaginas := put m.registroTablaDePaginas pid tab'' }, envios)
    else if tab.cantPaginas < paginas then
      let nuevas := int32 (paginas - tab.cantPaginas)
      let (tab', framesLibres, envios) := ampliarProceso cfg tab m.framesLibres nuevas
      let tab'' := { tab' with cantPaginas := int32 (tab'.cantPaginas + nuevas) }
      some ({ m with
        framesLibres := framesLibres
        registroTablaDePaginas := put m.registroTablaDePaginas pid tab'' }, envios)
    else some (m, [])

/-- The loop of `buscar_pagina_marco` over the pages `i, …, i + n - 1`: the page of the frame,
`-2` when no page has it, and `none` where a page of the range has no entry. -/
def buscarPaginaMarcoDesde (tabla : TablaDePaginas) (marco : ℤ) : ℤ → ℕ → Option ℤ
  | _, 0 => some (-2)
  | i, n + 1 =>
    match get tabla.frameSegunPagina i with
    | none => none
    | some marcoAux =>
      if marco = marcoAux then some i else buscarPaginaMarcoDesde tabla marco (i + 1) n

/-- `buscar_pagina_marco`. -/
def buscarPaginaMarco (tabla : TablaDePaginas) (marco : ℤ) : Option ℤ :=
  buscarPaginaMarcoDesde tabla marco 0 tabla.cantPaginas.toNat

/-- The frame of the page after the one that holds `anteriorMarco`. -/
def obtenerSiguienteMarco (m : Estado) (pid anteriorMarco : ℤ) : Option ℤ :=
  match get m.registroTablaDePaginas pid with
  | none => none
  | some tabla =>
    (buscarPaginaMarco tabla anteriorMarco).map fun pagina => obtenerMarco m pid (pagina + 1)

/-! ### User space -/

/-- `memcpy` into the block: `n` bytes from `info` on at the offset `base`. -/
def copiarEn (espacio : ℤ → UInt8) (base : ℤ) (info : ℤ → UInt8) (n : ℤ) : ℤ → UInt8 :=
  fun a => if base ≤ a ∧ a < base + n then info (a - base) else espacio a

/-- `memcpy` out of the block: the `n` bytes from the offset `base` on. -/
def leerDe (espacio : ℤ → UInt8) (base n : ℤ) : List UInt8 :=
  (List.range n.toNat).map fun k => espacio (base + k)

/-- The bytes that a C string keeps of a buffer. -/
def hastaCero (b : List UInt8) : List UInt8 := b.takeWhile fun x => x ≠ 0

/-- `verificar_limite_memoria`: a message when the range ends after the memory. -/
def verificarLimiteMemoria (direccionFisica size : ℤ) : List Envio :=
  if int32 (|direccionFisica| + |size|) > cfg.tamMemoria then [.mensaje "OUT_OF_MEMORY"] else []

/-- The variables of the loops of `escribir_memoria` and `leer_memoria`. -/
structure Recorrido where
  marco : ℤ
  desplazamiento : ℤ
  desplazado : ℤ
  tamanio : ℤ

/-- The variables on entry of both loops. -/
def Recorrido.inicial (direccionFisica tamanio : ℤ) : Recorrido :=
  ⟨direccionFisica.tdiv cfg.tamPagina, direccionFisica.tmod cfg.tamPagina, 0, tamanio⟩

/-- The bytes that the current iteration moves. -/
def Recorrido.bytes (r : Recorrido) : ℤ :=
  let espacioDisponible := cfg.tamPagina - r.desplazamiento
  if r.tamanio < espacioDisponible then r.tamanio else espacioDisponible

/-- The offset in the block where the current iteration starts. -/
def Recorrido.base (r : Recorrido) : ℤ := r.marco * cfg.tamPagina + r.desplazamiento

/-- The variables after an iteration in a frame: the next frame is looked up only if bytes
remain. -/
def Recorrido.avanzar (r : Recorrido) (m : Estado) (pid : ℤ) : Option Recorrido :=
  let bytes := r.bytes cfg
  let r' : Recorrido := ⟨r.marco, 0, r.desplazado + bytes, r.tamanio - bytes⟩
  if r'.tamanio > 0 then
    (obtenerSiguienteMarco m pid r.marco).map fun marco => { r' with marco := marco }
  else some r'

/-- The loop that `escribir_memoria` and `leer_memoria` share, with the effect of an iteration in a
frame as a parameter: what it has gathered and whether it left through `hubo_error`.  Each
iteration in a frame moves a byte at least, so the fuel given below suffices; a frame below `-1`
is tried again without end. -/
def recorrerMarcos {β : Type} (m : Estado) (pid : ℤ) (efecto : Recorrido → β → β) :
    ℕ → β → Recorrido → Option (β × Bool)
  | 0, b, r => if r.tamanio ≤ 0 then some (b, false) else none
  | fuel + 1, b, r =>
    if r.tamanio ≤ 0 then some (b, false)
    else if 0 ≤ r.marco then
      (r.avanzar cfg m pid).bind fun r' => recorrerMarcos m pid efecto fuel (efecto r b) r'
    else if r.marco = -1 then some (b, true)
    else recorrerMarcos m pid efecto fuel b r

/-- An iteration of `escribir_memoria` copies its bytes into the frame. -/
def escribirTramo (info : ℤ → UInt8) (r : Recorrido) (espacio : ℤ → UInt8) : ℤ → UInt8 :=
  copiarEn espacio (r.base cfg) (fun k => info (r.desplazado + k)) (r.bytes cfg)

/-- An iteration of `leer_memoria` appends its bytes as a C string.  They go through `nuevo`, which
has the byte of `string_new`, and the 0 after them too. -/
def leerTramo (espacio : ℤ → UInt8) (r : Recorrido) (mensaje : Option (List UInt8)) :
    Option (List UInt8) :=
  if r.bytes cfg < cfg.monticulo.bloque then
    mensaje.map fun mensaje => mensaje ++ hastaCero (leerDe espacio (r.base cfg) (r.bytes cfg))
  else none

/-- The fuel of both loops: `tamanio` iterations and the one that finds no frame. -/
def combustible (tamanio : ℤ) : ℕ := tamanio.toNat + 1

/-- `escribir_memoria`. -/
def escribirMemoria (m : Estado) (direccionFisica : ℤ) (info : List UInt8) (tamanio pid : ℤ) :
    Option (Estado × List Envio) :=
  let limite := verificarLimiteMemoria cfg direccionFisica tamanio
  (recorrerMarcos cfg m pid (escribirTramo cfg fun k => info.getD k.toNat 0)
      (combustible tamanio) m.espacioMemoria (Recorrido.inicial cfg direccionFisica tamanio)).map
    fun (espacio, huboError) =>
      ({ m with espacioMemoria := espacio },
        limite ++ [.mensaje (if huboError then "OUT_OF_MEMORY" else "OK")])

/-- `leer_memoria`.  `mensaje` has the byte of `string_new` when `mensaje[tamanio]` is set to 0. -/
def leerMemoria (m : Estado) (direccionFisica tamanio pid : ℤ) : Option (List Envio) :=
  let mensaje := if cfg.monticulo.tolera tamanio then some [] else none
  let limite := verificarLimiteMemoria cfg direccionFisica tamanio
  (recorrerMarcos cfg m pid (leerTramo cfg m.espacioMemoria)
      (combustible tamanio) mensaje (Recorrido.inicial cfg direccionFisica tamanio)).bind
    fun (mensaje, huboError) => mensaje.map fun mensaje =>
      limite ++ [if huboError then .mensaje "OUT_OF_MEMORY" else .paquete (.bytes mensaje)]

/-! ### Scripts -/

/-- `fgets` with a buffer of `n + 1` bytes: at most `n` characters, up to a newline included. -/
def fgets : ℕ → Cadena → Cadena × Cadena
  | 0, s => ([], s)
  | _, [] => ([], [])
  | n + 1, c :: s => if c = '\n' then ([c], s) else ((fgets n s).1.cons c, (fgets n s).2)

/-- The lines that the loop over `fgets` stores, each cut at its newline.  Every read takes a
character at least, so the length of the file bounds the reads. -/
def lineasDe : ℕ → Cadena → List Cadena
  | 0, _ => []
  | _, [] => []
  | fuel + 1, s => ((fgets 99 s).1.takeWhile fun c => c ≠ '\n') :: lineasDe fuel (fgets 99 s).2

/-- `ejecutar_script` on the contents of the file. -/
def ejecutarScript (m : Estado) (archivo : Cadena) (pid : ℤ) : Estado :=
  { m with
    diccionarioInstrucciones :=
      put m.diccionarioInstrucciones pid (lineasDe archivo.length archivo) }

/-- `enviar_instruccion`: no reply for an unknown pid, and `strlen(NULL)` on a negative counter. -/
def enviarInstruccion (m : Estado) (pid programCounter : ℤ) : Option (List Envio) :=
  match get m.diccionarioInstrucciones pid with
  | none => some []
  | some lista =>
    if programCounter ≥ lista.length then some [.paquete (.texto "END_OF_PROCESS")]
    else (listGet lista programCounter).map fun instruccion => [.paquete (.linea instruccion)]

/-! ### Requests -/

/-- A request of the CPU or of an interface, with the arguments already converted. -/
inductive Peticion
  | escribir (pid direccionFisica tamanio : ℤ) (mensaje : List UInt8)
  | leer (pid direccionFisica tamanio : ℤ)
  | instruccion (pid programCounter : ℤ)
  | marco (pid nroPagina : ℤ)
  | resize (pid tamanioNuevo : ℤ)
  deriving DecidableEq

/-- The process a request is about. -/
def Peticion.pid : Peticion → ℤ
  | escribir pid _ _ _ => pid
  | leer pid _ _ => pid
  | instruccion pid _ => pid
  | marco pid _ => pid
  | resize pid _ => pid

/-- `recibir_info_cpu`; `recibir_info_io` is its restriction to `ESCRIBIR` and `LEER`.  An
`INSTRUCCION` waits for ever while the dictionary of scripts is empty. -/
def recibirInfoCpu (m : Estado) : Peticion → Option (Estado × List Envio)
  | .escribir pid direccionFisica tamanio mensaje =>
    escribirMemoria cfg m direccionFisica mensaje tamanio pid
  | .leer pid direccionFisica tamanio =>
    (leerMemoria cfg m direccionFisica tamanio pid).map fun envios => (m, envios)
  | .instruccion pid programCounter =>
    if m.diccionarioInstrucciones.isEmpty then none
    else (enviarInstruccion m pid programCounter).map fun envios => (m, envios)
  | .marco pid nroPagina => some (m, [.paquete (.numero (obtenerMarco m pid nroPagina))])
  | .resize pid tamanioNuevo => redimensionarProceso cfg m pid tamanioNuevo

/-- A request of the kernel: the script's contents stand for its path. -/
inductive PedidoKernel
  | iniciarProceso (archivo : Cadena) (pid : ℤ)
  | finalizarProceso (pid : ℤ)

/-- `recibir_info_kernel`, which never answers. -/
def recibirInfoKernel (m : Estado) : PedidoKernel → Estado
  | .iniciarProceso archivo pid => guardarProcesoEnMemoria (ejecutarScript m archivo pid) pid
  | .finalizarProceso pid =>
    liberarProcesoDeMemoria
      { m with diccionarioInstrucciones := remove m.diccionarioInstrucciones pid } pid

end SimuladorSO.Memoria
