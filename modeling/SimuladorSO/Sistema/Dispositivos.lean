import SimuladorSO.DialFS.Ausentes
import SimuladorSO.Memoria.Permanencia
import SimuladorSO.Sistema.Equipo

/-!
# The devices as the processes see them

Memoria and the interfaces work for the processes as flat memories and files by name, whatever
happens between the moment when a process asks for an I/O and the one when the interface handles it.

* `recibirInfoIo_lectura`, `recibirInfoIo_escritura`: what memoria does with the packets of an
  interface;
* `Representa`, `Representa.paso`: the refinement, one step at a time;
* `equipo_como_se_ve`: every run.
-/

namespace SimuladorSO.Sistema

open CInt Commons Transitions Utils
open DialFS (Pedido Respuesta Almacen Refina)
open Memoria (Accion Envio MemoriaConfiguracion Plana EnPaginas Refleja Conserva CabeLectura)

variable {cfg : MemoriaConfiguracion} {c : ℕ → DialFS.InoutConfig} {espacio : ℤ → UInt8}
  {u u' : Usuarios} {x y : Equipo} {m m' : Memoria.Estado} {i : ℕ} {pid l n : ℤ}

/-! ### The packets of an interface -/

theorem numero_enMemoria_itoa (hn : InRange n) : numero (enMemoria (itoa n)) = some n := by
  have htexto := leerTexto_enMemoria_texto (esTexto_itoa n)
  calc numero (enMemoria (itoa n))
      = ((leerTexto (enMemoria (itoa n))).map fun t => texto t.bytes).map atoi := by
        rw [Option.map_map]
        rfl
    _ = some n := by rw [htexto, Option.map_some, atoi_itoa hn]

theorem recibirInfoIo_lectura (hpid : InRange pid) (hl : InRange l) (hn : InRange n) :
    recibirInfoIo cfg m (valores (.lectura (itoa pid) l n)) =
      (Memoria.leerMemoria cfg m l n pid).map fun envios => (m, envios) := by
  have hcodigo : numero (enMemoria "1".toList) = some 1 := by decide
  unfold recibirInfoIo
  simp only [valores, List.map_cons, List.map_nil, List.getElem?_cons_zero,
    List.getElem?_cons_succ, Option.bind_some, Option.bind_eq_bind, hcodigo,
    numero_enMemoria_itoa hpid, numero_enMemoria_itoa hl, numero_enMemoria_itoa hn]
  rfl

/-- The terminator that follows the bytes is not written. -/
theorem escribirMemoria_terminador (direccion tamanio : ℤ) (info : List UInt8) :
    Memoria.escribirMemoria cfg m direccion (info ++ [0]) tamanio pid =
      Memoria.escribirMemoria cfg m direccion info tamanio pid := by
  have hinfo : (fun k : ℤ => (info ++ [0]).getD k.toNat 0) = fun k : ℤ => info.getD k.toNat 0 := by
    funext k
    rcases lt_or_ge k.toNat info.length with hlt | hge
    · rw [List.getD_append _ _ _ _ hlt]
    · rw [List.getD_append_right _ _ _ _ hge, List.getD_eq_default _ _ hge]
      cases k.toNat - info.length <;> rfl
  unfold Memoria.escribirMemoria
  rw [hinfo]

theorem recibirInfoIo_escritura (hpid : InRange pid) (hl : InRange l) (hn : InRange n)
    (info : List UInt8) :
    recibirInfoIo cfg m (valores (.escritura (itoa pid) l n info)) =
      Memoria.escribirMemoria cfg m l info n pid := by
  have hcodigo : numero (enMemoria "0".toList) = some 0 := by decide
  unfold recibirInfoIo
  simp only [valores, List.map_cons, List.map_nil, List.cons_append, List.nil_append,
    List.getElem?_cons_zero, List.getElem?_cons_succ, Option.bind_some, Option.bind_eq_bind,
    hcodigo, numero_enMemoria_itoa hpid, numero_enMemoria_itoa hl, numero_enMemoria_itoa hn]
  exact escribirMemoria_terminador l n info

/-! ### Reads and writes of memoria -/

/-- The answer to a read of bytes that the process has written, none of which is a zero. -/
theorem leerMemoria_bytesDe {p : Plana} (h : Refleja cfg espacio p m)
    (hen : EnPaginas cfg m pid l n) (hcabe : CabeLectura cfg l n)
    (hceros : 0 ∉ bytesDe p pid l n) :
    Memoria.leerMemoria cfg m (Memoria.direccionFisica cfg m pid l) n pid =
      some [.paquete (.bytes (bytesDe p pid l n))] := by
  have hbyte : ∀ k : ℕ, k < n.toNat →
      m.espacioMemoria (Memoria.direccionFisica cfg m pid (l + k)) = (p (pid, l + k)).getD 0 ∧
        (p (pid, l + k)).getD 0 ≠ 0 := by
    intro k hk
    have hne : (p (pid, l + k)).getD 0 ≠ 0 := by
      intro hcero
      exact hceros (List.mem_map.2 ⟨k, List.mem_range.2 hk, hcero⟩)
    obtain ⟨marco, hmap⟩ := hen.mapea (i := k) (by omega) (by omega)
    refine ⟨?_, hne⟩
    rw [h.bytes.placed (pid, l + k) _ (Memoria.lugar_eq_direccionFisica hmap)]
    cases hp : p (pid, l + k) with
    | none =>
      rw [hp] at hne
      exact absurd rfl hne
    | some b => rfl
  have hfuel : n.toNat < Memoria.combustible n := Nat.lt_succ_self n.toNat
  rw [h.leer hen hcabe, Memoria.textoLeido_sin_ceros hfuel, Memoria.leerDe_eq]
  · congr 4
    exact List.map_congr_left fun k hk => (hbyte k (List.mem_range.1 hk)).1
  · intro k h0 hk
    have hk' := hbyte k.toNat (by omega)
    rw [Int.toNat_of_nonneg h0] at hk'
    rw [hk'.1]
    exact hk'.2

/-- The answer that the interface reads for them. -/
theorem recibirRespuesta_lectura {p : Plana} (h : Refleja cfg espacio p m)
    (hen : EnPaginas cfg m pid l n) (hpid : InRange pid) (hcabe : CabeLectura cfg l n)
    (hceros : 0 ∉ bytesDe p pid l n) :
    recibirInfoIo cfg m (valores (.lectura (itoa pid) (Memoria.direccionFisica cfg m pid l) n)) =
      some (m, [.paquete (.bytes (bytesDe p pid l n))]) := by
  rw [recibirInfoIo_lectura hpid (h.inRange hen).1 (h.inRange hen).2,
    leerMemoria_bytesDe h hen hcabe hceros]
  rfl

/-- What memoria does with the bytes that an interface sends to mapped addresses. -/
theorem pasoPeticion_escritura {p : Plana} (h : Refleja cfg espacio p m) {bytes : List UInt8}
    (hen : EnPaginas cfg m pid l bytes.length) (hpid : InRange pid) :
    ∃ m', pasoPeticion cfg m (.escritura (itoa pid) (Memoria.direccionFisica cfg m pid l)
        bytes.length bytes) = some m' ∧
      Refleja cfg espacio (poner p pid l bytes) m' ∧ Conserva m m' := by
  obtain ⟨m', haccion, hrefleja⟩ := h.escribir bytes hen
  have hadm : Memoria.Admisible cfg m (.escribir pid l bytes.length bytes) := ⟨hen, le_rfl⟩
  have hpaso : Memoria.pasoAccion cfg m (.escribir pid l bytes.length bytes) = some m' := by
    rw [Memoria.pasoAccion, haccion]
    rfl
  refine ⟨m', ?_, hrefleja, h.conserva hadm hpaso⟩
  have haccion' : Memoria.escribirMemoria cfg m (Memoria.direccionFisica cfg m pid l) bytes
      bytes.length pid = some (m', [.mensaje "OK"]) := haccion
  unfold pasoPeticion
  rw [recibirInfoIo_escritura hpid (h.inRange hen).1 (h.inRange hen).2, haccion']
  rfl

/-! ### The refinement -/

/-- Memoria holds the flat memories and the interfaces the files, and the requests wait with the
physical addresses of their logical ones. -/
structure Representa (cfg : MemoriaConfiguracion) (c : ℕ → DialFS.InoutConfig)
    (espacio : ℤ → UInt8) (u : Usuarios) (x : Equipo) : Prop where
  memoria : Refleja cfg espacio u.plana x.memoria
  archivos : ∀ i, Refina (c i) (u.archivos i) (x.interfaces i)
  colas : ∀ i, x.colas i = (u.colas i).map (fisico cfg x.memoria)
  pedidos : ∀ i, ∀ q ∈ u.colas i, Pedible cfg x.memoria q
  mostrado : x.mostrado = u.mostrado

theorem Representa.inicial (cfg : MemoriaConfiguracion) (c : ℕ → DialFS.InoutConfig)
    (espacio : ℤ → UInt8) :
    Representa cfg c espacio Usuarios.inicial (Equipo.inicial c espacio) where
  memoria := Memoria.generarEspacioMemoria_refleja espacio
  archivos _ :=
    ⟨fun _ => ⟨0, 1, []⟩, DialFS.Invariante.vacio, by simp [Usuarios.inicial, Almacen.vacio]⟩
  colas _ := rfl
  pedidos _ _ hq := absurd hq List.not_mem_nil
  mostrado := rfl

/-- A request that waits keeps its physical address. -/
theorem Pedible.conserva {q : ℤ × Pedido} (h : Pedible cfg m q) (hcons : Conserva m m') :
    Pedible cfg m' q ∧ fisico cfg m' q = fisico cfg m q := by
  obtain ⟨hpid, hrango, hpaginas⟩ := h
  refine ⟨⟨hpid, hrango, fun r hr => hcons.enPaginas (hpaginas r hr)⟩, ?_⟩
  obtain ⟨pid, p⟩ := q
  have hdir : ∀ l n, (l, n) ∈ rangoDe p →
      Memoria.direccionFisica cfg m' pid l = Memoria.direccionFisica cfg m pid l :=
    fun l n hr => hcons.direccionFisica_eq (hpaginas (l, n) hr)
  unfold fisico
  cases p with
  | stdinRead l n => simp only [conDireccion, hdir l n rfl]
  | stdoutWrite l n => simp only [conDireccion, hdir l n rfl]
  | fsWrite nombre l n puntero => simp only [conDireccion, hdir l n rfl]
  | fsRead nombre l n puntero => simp only [conDireccion, hdir l n rfl]
  | genSleep unidades => rfl
  | fsCreate nombre => rfl
  | fsDelete nombre => rfl
  | fsTruncate nombre n => rfl

/-- The operands that the interface gets are `int`s. -/
theorem Pedible.fisico_enRango {p : Memoria.Plana} (h : Refleja cfg espacio p m) {q : ℤ × Pedido}
    (hq : Pedible cfg m q) : (fisico cfg m q).2.EnRango := by
  obtain ⟨-, hrango, hpaginas⟩ := hq
  obtain ⟨pid, p⟩ := q
  have hdir : ∀ l n, (l, n) ∈ rangoDe p → InRange (Memoria.direccionFisica cfg m pid l) :=
    fun l n hr => (h.inRange (hpaginas (l, n) hr)).1
  cases p with
  | stdinRead l n => exact ⟨hdir l n rfl, hrango.2⟩
  | stdoutWrite l n => exact ⟨hdir l n rfl, hrango.2⟩
  | fsWrite nombre l n puntero => exact ⟨hdir l n rfl, hrango.2⟩
  | fsRead nombre l n puntero => exact ⟨hdir l n rfl, hrango.2⟩
  | genSleep unidades => exact hrango
  | fsCreate nombre => exact hrango
  | fsDelete nombre => exact hrango
  | fsTruncate nombre n => exact hrango

/-- Memoria, one interface and what is shown change on both sides. -/
theorem Representa.avanza (h : Representa cfg c espacio u x)
    (hmemoria : Refleja cfg espacio u'.plana m') (hcons : Conserva x.memoria m') {a : Almacen}
    {s : DialFS.Estado} (harchivos : u'.archivos = Function.update u.archivos i a)
    (hs : Refina (c i) a s) (hcolas : u'.colas = u.colas) {nuevos : List (List UInt8)}
    (hmostrado : u'.mostrado = u.mostrado ++ nuevos) :
    Representa cfg c espacio u'
      { x with
        memoria := m'
        interfaces := Function.update x.interfaces i s
        mostrado := x.mostrado ++ nuevos } where
  memoria := hmemoria
  archivos j := by
    rw [harchivos]
    by_cases hj : j = i
    · subst hj
      rw [Function.update_self]
      show Refina (c j) a (Function.update x.interfaces j s j)
      rw [Function.update_self]
      exact hs
    · rw [Function.update_of_ne hj]
      show Refina (c j) (u.archivos j) (Function.update x.interfaces i s j)
      rw [Function.update_of_ne hj]
      exact h.archivos j
  colas j := by
    rw [hcolas]
    refine (h.colas j).trans (List.map_congr_left fun q hq => ?_)
    exact ((h.pedidos j q hq).conserva hcons).2.symm
  pedidos j q hq := by
    rw [hcolas] at hq
    exact ((h.pedidos j q hq).conserva hcons).1
  mostrado := by rw [hmostrado, h.mostrado]

/-- A request that is handled: the operation, then what memoria does with its requests. -/
theorem atenderPedido_eq {leido : Option (List UInt8)} {resto : List UInt8} {p : Pedido}
    {s : DialFS.Estado} {ps : List DialFS.Peticion} (hrango : p.EnRango)
    (hatender : p.atender (c i) (x.interfaces i) (itoa pid)
      ⟨leido, (respuestaDe cfg x.memoria (itoa pid) p).getD .mensaje, resto⟩ = some s)
    (hps : s.peticiones = (x.interfaces i).peticiones ++ ps)
    (hrun : run (pasoPeticion cfg) x.memoria ps = some m') :
    atenderPedido cfg c x i leido resto pid p = some { x with
      memoria := m'
      interfaces := Function.update x.interfaces i s
      mostrado := x.mostrado ++ muestra (respuestaDe cfg x.memoria (itoa pid) p) p } := by
  unfold atenderPedido
  dsimp only
  rw [DialFS.recibirInfoKernel_paquete p hrango (stringEqualsIgnoreCase_self _), hatender]
  simp only [Option.bind_eq_bind, Option.bind_some]
  rw [hps, List.drop_left, hrun]
  rfl

/-- The two together. -/
theorem Representa.atiende (h : Representa cfg c espacio u x) {leido : Option (List UInt8)}
    {resto : List UInt8} {p : Pedido} {s : DialFS.Estado} {ps : List DialFS.Peticion} {a : Almacen}
    (hrango : p.EnRango)
    (hatender : p.atender (c i) (x.interfaces i) (itoa pid)
      ⟨leido, (respuestaDe cfg x.memoria (itoa pid) p).getD .mensaje, resto⟩ = some s)
    (hps : s.peticiones = (x.interfaces i).peticiones ++ ps)
    (hrun : run (pasoPeticion cfg) x.memoria ps = some m')
    (hmemoria : Refleja cfg espacio u'.plana m') (hcons : Conserva x.memoria m')
    (harchivos : u'.archivos = Function.update u.archivos i a) (hs : Refina (c i) a s)
    (hcolas : u'.colas = u.colas)
    (hmostrado : u'.mostrado =
      u.mostrado ++ muestra (respuestaDe cfg x.memoria (itoa pid) p) p) :
    ∃ y, atenderPedido cfg c x i leido resto pid p = some y ∧ Representa cfg c espacio u' y :=
  ⟨_, atenderPedido_eq hrango hatender hps hrun,
    h.avanza hmemoria hcons harchivos hs hcolas hmostrado⟩

/-! ### One request -/

/-- What memoria answers to the read of a request. -/
theorem respuestaDe_eq {p : Pedido} {bytes : List UInt8} (hp : consulta (itoa pid) p =
      some (.lectura (itoa pid) l n))
    (h : recibirInfoIo cfg m (valores (.lectura (itoa pid) l n)) =
      some (m, [.paquete (.bytes bytes)])) :
    respuestaDe cfg m (itoa pid) p = some (.paquete bytes) := by
  unfold respuestaDe
  rw [hp, Option.bind_some, h]
  rfl

/-- A read leaves memoria as it is. -/
theorem run_lectura {bytes : List UInt8}
    (h : recibirInfoIo cfg m (valores (.lectura (itoa pid) l n)) =
      some (m, [.paquete (.bytes bytes)])) :
    run (pasoPeticion cfg) m [.lectura (itoa pid) l n] = some m := by
  rw [run_cons, pasoPeticion, h]
  rfl

theorem run_escritura {q : DialFS.Peticion} (h : pasoPeticion cfg m q = some m') :
    run (pasoPeticion cfg) m [q] = some m' := by
  rw [run_cons, h]
  rfl

/-- A shorter range is in the pages. -/
theorem enPaginas_mono (hen : EnPaginas cfg m pid l n) {k : ℤ} (h0 : 0 ≤ k) (hk : k ≤ n) :
    EnPaginas cfg m pid l k :=
  ⟨hen.1, h0, fun i hi => hen.2.2 i (by omega)⟩

/-- An operation on the files of one interface that does not use memoria. -/
theorem Representa.atenderArchivos (hc : ∀ i, (c i).Valida) (h : Representa cfg c espacio u x)
    {leido : Option (List UInt8)} {resto : List UInt8} {p : Pedido} (hrango : p.EnRango)
    (hsin : p.usaMemoria = false) {o : DialFS.Operacion}
    (hop : ∀ s e, p.atender (c i) s (itoa pid) e = DialFS.paso (c i) s o)
    (hpermitida : (u.archivos i).Permitida (c i) o) :
    ∃ y, atenderPedido cfg c x i leido resto pid p = some y ∧
      Representa cfg c espacio (u.conArchivos i ((u.archivos i).aplicar (c i) o)) y := by
  obtain ⟨s, hs, hrefina⟩ := (h.archivos i).paso (hc i) hpermitida
  have hatender : p.atender (c i) (x.interfaces i) (itoa pid)
      ⟨leido, (respuestaDe cfg x.memoria (itoa pid) p).getD .mensaje, resto⟩ = some s := by
    rw [hop, hs]
  have hps : s.peticiones = (x.interfaces i).peticiones ++ [] := by
    rw [DialFS.atender_sin_memoria hsin hatender, List.append_nil]
  have hmuestra : muestra (respuestaDe cfg x.memoria (itoa pid) p) p = [] := by
    cases p with
    | stdoutWrite l n => cases hsin
    | _ => rfl
  refine h.atiende hrango hatender hps rfl h.memoria (Conserva.refl _) rfl hrefina rfl ?_
  rw [hmuestra, List.append_nil]
  rfl

theorem Representa.atenderStdinRead (h : Representa cfg c espacio u x)
    (hpedible : Pedible cfg x.memoria (pid, .stdinRead l n)) {leido : List UInt8}
    {resto : List UInt8} :
    ∃ y, atenderPedido cfg c x i (some leido) resto pid
        (fisico cfg x.memoria (pid, .stdinRead l n)).2 = some y ∧
      Representa cfg c espacio { u with plana := poner u.plana pid l (leido.take n.toNat) } y := by
  have hen : EnPaginas cfg x.memoria pid l n := hpedible.2.2 (l, n) rfl
  have hlargo : ((leido.take n.toNat).length : ℤ) ≤ n := by
    have hn := hen.2.1
    rw [List.length_take]
    omega
  obtain ⟨m', hm', hrefleja, hcons⟩ :=
    pasoPeticion_escritura h.memoria (enPaginas_mono hen (by omega) hlargo) hpedible.1
  refine h.atiende (s := DialFS.enviarMensaje (DialFS.peticionEscrituraMemoria (x.interfaces i)
    (itoa pid) (Memoria.direccionFisica cfg x.memoria pid l) (leido.take n.toNat))
      "END_OF_IO_STDIN_READ") (hpedible.fisico_enRango h.memoria) ?_ rfl (run_escritura hm')
    hrefleja hcons (Function.update_eq_self i u.archivos).symm
    ((h.archivos i).congr rfl rfl rfl rfl) rfl (List.append_nil _).symm
  show DialFS.ioStdinRead _ _ _ n (some leido) = _
  unfold DialFS.ioStdinRead DialFS.stringNAppend
  simp only [Option.bind_eq_bind, Option.bind_some]
  rw [if_pos hen.2.1]
  rfl

theorem Representa.atenderStdoutWrite (h : Representa cfg c espacio u x)
    (hpedible : Pedible cfg x.memoria (pid, .stdoutWrite l n))
    {leido : Option (List UInt8)} {resto : List UInt8} (hlee : CabeLectura cfg l n)
    (hceros : 0 ∉ bytesDe u.plana pid l n) :
    ∃ y, atenderPedido cfg c x i leido resto pid
        (fisico cfg x.memoria (pid, .stdoutWrite l n)).2 = some y ∧
      Representa cfg c espacio { u with mostrado := u.mostrado ++ [bytesDe u.plana pid l n] } y := by
  have hen : EnPaginas cfg x.memoria pid l n := hpedible.2.2 (l, n) rfl
  have hlectura := recibirRespuesta_lectura h.memoria hen hpedible.1 hlee hceros
  have hrespuesta := respuestaDe_eq
    (p := .stdoutWrite (Memoria.direccionFisica cfg x.memoria pid l) n) rfl hlectura
  refine h.atiende (s := DialFS.enviarMensaje { x.interfaces i with
      peticiones := (x.interfaces i).peticiones ++
        [.lectura (itoa pid) (Memoria.direccionFisica cfg x.memoria pid l) n] }
      "END_OF_IO_STDOUT_WRITE") (hpedible.fisico_enRango h.memoria) ?_ rfl (run_lectura hlectura)
    h.memoria (Conserva.refl _) (Function.update_eq_self i u.archivos).symm
    ((h.archivos i).congr rfl rfl rfl rfl) rfl ?_
  · show DialFS.ioStdoutWrite _ _ _ n ((respuestaDe cfg x.memoria (itoa pid)
      (.stdoutWrite (Memoria.direccionFisica cfg x.memoria pid l) n)).getD .mensaje) = _
    rw [hrespuesta]
    rfl
  · show _ = u.mostrado ++ muestra (respuestaDe cfg x.memoria (itoa pid)
      (.stdoutWrite (Memoria.direccionFisica cfg x.memoria pid l) n)) _
    rw [hrespuesta]
    rfl

/-- The guard of a write of a file of the store. -/
theorem guarda_ioFsWrite {nombre : Cadena} {s : DialFS.Estado} {a : Almacen} {k : DialFS.InoutConfig}
    (h : Refina k a s) (hn : nombre ∈ a.nombres) {tamanio puntero : ℤ} (hp : 0 ≤ puntero)
    (ht : 0 ≤ tamanio) (hint : puntero + tamanio < 2 ^ 31) :
    ∃ i archivo, DialFS.obtenerArchivoPorNombre s nombre = some (i, archivo) ∧
      (int32 (puntero + tamanio) ≤ archivo.config.tamanioArchivo ↔
        puntero + tamanio ≤ (a.contenido nombre).length) := by
  obtain ⟨ext, hinv, hcontenido⟩ := h
  obtain ⟨i, hobt, -⟩ := hinv.catalogo.porNombre hn
  refine ⟨i, _, hobt, ?_⟩
  rw [int32_of_inRange ⟨by omega, hint⟩]
  show puntero + tamanio ≤ ((ext nombre).bytes.length : ℤ) ↔ _
  rw [hcontenido nombre hn]

theorem length_bytesDe {p : Plana} : (bytesDe p pid l n).length = n.toNat := by
  unfold bytesDe
  rw [List.length_map, List.length_range]

theorem Representa.atenderFsWrite (hc : ∀ i, (c i).Valida) (h : Representa cfg c espacio u x)
    {nombre : Cadena} {puntero : ℤ}
    (hpedible : Pedible cfg x.memoria (pid, .fsWrite nombre l n puntero))
    {leido : Option (List UInt8)} {resto : List UInt8}
    (hpermitida : (u.archivos i).Permitida (c i)
      (.write [] nombre l n puntero (bytesDe u.plana pid l n)))
    (hlee : puntero + n ≤ ((u.archivos i).contenido nombre).length →
      CabeLectura cfg l n ∧ 0 ∉ bytesDe u.plana pid l n) :
    ∃ y, atenderPedido cfg c x i leido resto pid
        (fisico cfg x.memoria (pid, .fsWrite nombre l n puntero)).2 = some y ∧
      Representa cfg c espacio (u.conArchivos i
        ((u.archivos i).escribir nombre n puntero (bytesDe u.plana pid l n))) y := by
  have hen : EnPaginas cfg x.memoria pid l n := hpedible.2.2 (l, n) rfl
  have hrango := hpermitida
  obtain ⟨hn, hp, ht, hint, -⟩ := hrango
  obtain ⟨s, hs, hrefina⟩ : ∃ s, DialFS.paso (c i) (x.interfaces i) (.write (itoa pid) nombre
      (Memoria.direccionFisica cfg x.memoria pid l) n puntero (bytesDe u.plana pid l n)) = some s ∧
      Refina (c i) _ s := (h.archivos i).paso (hc i) hpermitida
  obtain ⟨j, a, hobt, hguarda⟩ := guarda_ioFsWrite (h.archivos i) hn hp ht hint
  have hps := DialFS.ioFsWrite_peticiones hobt hs
  have hatender : ∀ {s'}, DialFS.ioFsWrite (c i) (x.interfaces i) (itoa pid) nombre
      (Memoria.direccionFisica cfg x.memoria pid l) n puntero
      ((respuestaDe cfg x.memoria (itoa pid) (.fsWrite nombre
        (Memoria.direccionFisica cfg x.memoria pid l) n puntero)).getD .mensaje) = some s' →
      (fisico cfg x.memoria (pid, .fsWrite nombre l n puntero)).2.atender (c i)
        (x.interfaces i) (itoa pid) ⟨leido, (respuestaDe cfg x.memoria (itoa pid)
          (fisico cfg x.memoria (pid, .fsWrite nombre l n puntero)).2).getD .mensaje, resto⟩ =
            some s' := fun hs' => hs'
  by_cases hcabe : puntero + n ≤ ((u.archivos i).contenido nombre).length
  · -- the bytes are those of the process
    obtain ⟨hlectura, hceros⟩ := hlee hcabe
    have hlectura := recibirRespuesta_lectura h.memoria hen hpedible.1 hlectura hceros
    rw [if_pos (hguarda.2 hcabe)] at hps
    refine h.atiende (hpedible.fisico_enRango h.memoria) (hatender ?_) hps (run_lectura hlectura)
      h.memoria (Conserva.refl _) rfl hrefina rfl (List.append_nil _).symm
    rw [respuestaDe_eq (p := .fsWrite nombre (Memoria.direccionFisica cfg x.memoria pid l) n puntero)
      rfl hlectura]
    exact hs
  · -- memoria is not asked
    have hno : ¬ int32 (puntero + n) ≤ a.config.tamanioArchivo := fun h => hcabe (hguarda.1 h)
    rw [if_neg hno] at hps
    refine h.atiende (hpedible.fisico_enRango h.memoria) (hatender ?_) hps rfl
      h.memoria (Conserva.refl _) rfl hrefina rfl (List.append_nil _).symm
    have hs : DialFS.ioFsWrite (c i) (x.interfaces i) (itoa pid) nombre
      (Memoria.direccionFisica cfg x.memoria pid l) n puntero
      (.paquete (bytesDe u.plana pid l n)) = some s := hs
    rw [DialFS.ioFsWrite_rechazada hobt hno] at hs ⊢
    exact hs

theorem Representa.atenderFsRead (hc : ∀ i, (c i).Valida) (h : Representa cfg c espacio u x)
    {nombre : Cadena} {puntero : ℤ}
    (hpedible : Pedible cfg x.memoria (pid, .fsRead nombre l n puntero))
    {leido : Option (List UInt8)} {resto : List UInt8}
    (hrango : nombre ∈ (u.archivos i).nombres ∧ 0 ≤ puntero ∧ 0 ≤ n ∧
      puntero + n ≤ ((u.archivos i).contenido nombre).length)
    (hen : EnPaginas cfg x.memoria pid l
      ((u.archivos i).texto nombre n puntero resto).length) :
    ∃ y, atenderPedido cfg c x i leido resto pid
        (fisico cfg x.memoria (pid, .fsRead nombre l n puntero)).2 = some y ∧
      Representa cfg c espacio
        { u with plana := poner u.plana pid l ((u.archivos i).texto nombre n puntero resto) } y := by
  obtain ⟨hn, hp, ht, hcabe⟩ := hrango
  obtain ⟨m', hm', hrefleja, hcons⟩ := pasoPeticion_escritura h.memoria hen hpedible.1
  have hlee := (h.archivos i).ioFsRead (hc i) (itoa pid) hn
    (Memoria.direccionFisica cfg x.memoria pid l) hp ht hcabe resto
  exact h.atiende (hpedible.fisico_enRango h.memoria) hlee rfl (run_escritura hm') hrefleja hcons
    (Function.update_eq_self i u.archivos).symm ((h.archivos i).congr rfl rfl rfl rfl) rfl
    (List.append_nil _).symm

/-- **One request**: it is handled, and does to memoria and the interface what it does to the flat
memories and the files. -/
theorem Representa.atender (hc : ∀ i, (c i).Valida) (h : Representa cfg c espacio u x) (i : ℕ)
    (leido : Option (List UInt8)) (resto : List UInt8) {p : Pedido}
    (hpedible : Pedible cfg x.memoria (pid, p))
    (hatendible : Atendible cfg c u x.memoria i leido resto pid p) :
    ∃ y, atenderPedido cfg c x i leido resto pid (fisico cfg x.memoria (pid, p)).2 = some y ∧
      Representa cfg c espacio (u.atender c i leido resto pid p) y := by
  cases p with
  | genSleep unidades =>
    exact h.atiende hpedible.2.1 rfl (List.append_nil _).symm rfl h.memoria (Conserva.refl _)
      (Function.update_eq_self i u.archivos).symm ((h.archivos i).congr rfl rfl rfl rfl) rfl
      (List.append_nil _).symm
  | stdinRead l n =>
    obtain ⟨leido, rfl⟩ := Option.isSome_iff_exists.1 hatendible
    exact h.atenderStdinRead hpedible
  | stdoutWrite l n => exact h.atenderStdoutWrite hpedible hatendible.1 hatendible.2
  | fsCreate nombre =>
    exact h.atenderArchivos hc (p := .fsCreate nombre) (o := .create [] nombre) hpedible.2.1 rfl
      (fun _ _ => rfl) hatendible
  | fsDelete nombre =>
    exact h.atenderArchivos hc (p := .fsDelete nombre) (o := .delete [] nombre) hpedible.2.1 rfl
      (fun _ _ => rfl) hatendible
  | fsTruncate nombre n =>
    exact h.atenderArchivos hc (p := .fsTruncate nombre n) (o := .truncate [] nombre n)
      hpedible.2.1 rfl (fun _ _ => rfl) hatendible
  | fsWrite nombre l n puntero => exact h.atenderFsWrite hc hpedible hatendible.1 hatendible.2
  | fsRead nombre l n puntero => exact h.atenderFsRead hc hpedible hatendible.1 hatendible.2

/-! ### Every run -/

/-- The next request of an interface leaves its queue. -/
theorem Representa.desencolar (h : Representa cfg c espacio u x) {q : ℤ × Pedido}
    {cola : List (ℤ × Pedido)} (hcola : u.colas i = q :: cola) :
    Representa cfg c espacio { u with colas := Function.update u.colas i cola }
      { x with colas := Function.update x.colas i (cola.map (fisico cfg x.memoria)) } where
  memoria := h.memoria
  archivos := h.archivos
  colas j := by
    show Function.update x.colas i _ j = (Function.update u.colas i cola j).map _
    by_cases hj : j = i
    · rw [hj, Function.update_self, Function.update_self]
    · rw [Function.update_of_ne hj, Function.update_of_ne hj]
      exact h.colas j
  pedidos j q' hq' := by
    have hq' : q' ∈ Function.update u.colas i cola j := hq'
    by_cases hj : j = i
    · rw [hj, Function.update_self] at hq'
      exact h.pedidos i q' (hcola ▸ List.mem_cons_of_mem q hq')
    · rw [Function.update_of_ne hj] at hq'
      exact h.pedidos j q' hq'
  mostrado := h.mostrado

/-- A request comes in at the end of a queue. -/
theorem Representa.pedir (h : Representa cfg c espacio u x) {p : Pedido}
    (hpedible : Pedible cfg x.memoria (pid, p)) :
    Representa cfg c espacio
      { u with colas := Function.update u.colas i (u.colas i ++ [(pid, p)]) }
      { x with
        colas := Function.update x.colas i (x.colas i ++ [fisico cfg x.memoria (pid, p)]) } where
  memoria := h.memoria
  archivos := h.archivos
  colas j := by
    show Function.update x.colas i _ j = (Function.update u.colas i _ j).map _
    by_cases hj : j = i
    · rw [hj, Function.update_self, Function.update_self, List.map_append, ← h.colas i]
      rfl
    · rw [Function.update_of_ne hj, Function.update_of_ne hj]
      exact h.colas j
  pedidos j q hq := by
    have hq : q ∈ Function.update u.colas i (u.colas i ++ [(pid, p)]) j := hq
    by_cases hj : j = i
    · rw [hj, Function.update_self] at hq
      rcases List.mem_append.1 hq with hviejo | hnuevo
      · exact h.pedidos i q hviejo
      · rw [List.mem_singleton.1 hnuevo]
        exact hpedible
    · rw [Function.update_of_ne hj] at hq
      exact h.pedidos j q hq
  mostrado := h.mostrado

/-- **One step** of the system is the step that the processes see. -/
theorem Representa.paso (hc : ∀ i, (c i).Valida) (h : Representa cfg c espacio u x) {o : Orden}
    (hadm : Admite cfg c (u, x) o) :
    ∃ y, pasoEquipo cfg c x o = some y ∧ Representa cfg c espacio (u.aplicar c o) y := by
  cases o with
  | accion a =>
    obtain ⟨m', hm', hrefleja⟩ := h.memoria.paso hadm.1 hadm.2
    have hcons := h.memoria.conserva hadm.1 hm'
    refine ⟨{ x with memoria := m' }, ?_, ?_⟩
    · show (Memoria.pasoAccion cfg x.memoria a).map _ = _
      rw [hm']
      rfl
    · refine ⟨hrefleja, h.archivos, fun j => ?_, fun j q hq => ?_, h.mostrado⟩
      · refine (h.colas j).trans (List.map_congr_left fun q hq => ?_)
        exact ((h.pedidos j q hq).conserva hcons).2.symm
      · exact ((h.pedidos j q hq).conserva hcons).1
  | pedir i pid p => exact ⟨_, rfl, h.pedir hadm⟩
  | atender i leido resto =>
    have hadm : AtendibleCola cfg c u x.memoria i leido resto (u.colas i) := hadm
    cases hcola : u.colas i with
    | nil =>
      rw [hcola] at hadm
      exact hadm.elim
    | cons q cola =>
      obtain ⟨pid, p⟩ := q
      rw [hcola] at hadm
      have hpedible := h.pedidos i (pid, p) (hcola ▸ List.mem_cons_self)
      obtain ⟨y, hy, hrepresenta⟩ :=
        (h.desencolar hcola).atender hc i leido resto hpedible hadm
      refine ⟨y, ?_, ?_⟩
      · have hx := h.colas i
        rw [hcola] at hx
        rw [pasoEquipo_atender hx]
        exact hy
      · rw [aplicar_atender hcola]
        exact hrepresenta

/-- The flat memories, the files of each interface and what has been shown are those of the
system. -/
structure Muestra (cfg : MemoriaConfiguracion) (c : ℕ → DialFS.InoutConfig) (u : Usuarios)
    (x : Equipo) : Prop where
  bytes : ∀ pid l b, u.plana (pid, l) = some b →
    x.memoria.espacioMemoria (Memoria.direccionFisica cfg x.memoria pid l) = b
  archivos : ∀ i, DialFS.Contiene (c i) (x.interfaces i) (u.archivos i)
  mostrado : x.mostrado = u.mostrado

/-- A byte that a process has written is where its address leads. -/
theorem Representa.byte (h : Representa cfg c espacio u x) {b : UInt8}
    (hb : u.plana (pid, l) = some b) :
    x.memoria.espacioMemoria (Memoria.direccionFisica cfg x.memoria pid l) = b := by
  have hlugar : Memoria.lugar cfg x.memoria (pid, l) ≠ none := by
    intro hno
    rw [h.memoria.bytes.unplaced _ hno] at hb
    cases hb
  obtain ⟨r, hr⟩ := Option.ne_none_iff_exists'.1 hlugar
  obtain ⟨marco, hmap, -⟩ := Option.map_eq_some_iff.1 hr
  rw [h.memoria.bytes.placed (pid, l) _ (Memoria.lugar_eq_direccionFisica hmap), hb]
  rfl

theorem Representa.muestra (hc : ∀ i, (c i).Valida) (h : Representa cfg c espacio u x) :
    Muestra cfg c u x :=
  ⟨fun _ _ _ hb => h.byte hb, fun i => (h.archivos i).contiene (hc i), h.mostrado⟩

/-- The refinement along every run, from any state. -/
theorem Representa.run (hc : ∀ i, (c i).Valida) (h : Representa cfg c espacio u x) {os : List Orden}
    (hadm : Admits (paired (Usuarios.aplicar c) (pasoEquipo cfg c)) (Admite cfg c) (u, x) os) :
    ∃ y, Transitions.run (pasoEquipo cfg c) x os = some y ∧
      Representa cfg c espacio (os.foldl (Usuarios.aplicar c) u) y :=
  run_refines_of_admits (fun _ _ _ hR hC => Representa.paso hc hR hC) h hadm

/-- **The devices are flat memories and files by name.**  Processes are created, grow, write and
read; they ask the interfaces for I/O, at logical addresses, and each interface handles its requests
in order, at any later moment.  Whatever the order, every step comes back, and memoria and the
interfaces hold what the requests do to one array of bytes for each process and one byte string for
each file: a read or a write of a file moves the bytes between the two, and a line of the console
comes to the array and what is shown from it. -/
theorem equipo_como_se_ve (cfg : MemoriaConfiguracion) (c : ℕ → DialFS.InoutConfig)
    (hc : ∀ i, (c i).Valida) (espacio : ℤ → UInt8) (os : List Orden)
    (hadm : Admits (paired (Usuarios.aplicar c) (pasoEquipo cfg c)) (Admite cfg c)
      (Usuarios.inicial, Equipo.inicial c espacio) os) :
    ∃ x, Transitions.run (pasoEquipo cfg c) (Equipo.inicial c espacio) os = some x ∧
      Muestra cfg c (os.foldl (Usuarios.aplicar c) Usuarios.inicial) x := by
  obtain ⟨x, hx, h⟩ := (Representa.inicial cfg c espacio).run hc hadm
  exact ⟨x, hx, h.muestra hc⟩

/-- A process writes two bytes in a file, and a second one gets them on the screen. -/
theorem equipo_como_se_ve_dos :
    ∃ x, Transitions.run (pasoEquipo Memoria.cfgCuatroMarcos fun _ => ⟨['F'], 2, 8⟩)
        (Equipo.inicial (fun _ => ⟨['F'], 2, 8⟩) fun _ => 7)
        [.accion (.crear [] 1), .accion (.crear [] 2), .accion (.crecer 1 16),
          .accion (.crecer 2 16), .accion (.escribir 1 0 2 [5, 6]), .pedir 0 1 (.fsCreate ['a']),
          .pedir 0 1 (.fsTruncate ['a'] 2), .pedir 0 1 (.fsWrite ['a'] 0 2 0),
          .pedir 0 2 (.fsRead ['a'] 8 2 0), .pedir 1 2 (.stdoutWrite 8 2), .atender 0 none [],
          .atender 0 none [], .atender 0 none [], .atender 0 none [], .atender 1 none []] = some x ∧
      Muestra Memoria.cfgCuatroMarcos (fun _ => ⟨['F'], 2, 8⟩)
        ([.accion (.crear [] 1), .accion (.crear [] 2), .accion (.crecer 1 16),
          .accion (.crecer 2 16), .accion (.escribir 1 0 2 [5, 6]), .pedir 0 1 (.fsCreate ['a']),
          .pedir 0 1 (.fsTruncate ['a'] 2), .pedir 0 1 (.fsWrite ['a'] 0 2 0),
          .pedir 0 2 (.fsRead ['a'] 8 2 0), .pedir 1 2 (.stdoutWrite 8 2), .atender 0 none [],
          .atender 0 none [], .atender 0 none [], .atender 0 none [], .atender 1 none []].foldl
            (Usuarios.aplicar fun _ => ⟨['F'], 2, 8⟩) Usuarios.inicial) x :=
  equipo_como_se_ve Memoria.cfgCuatroMarcos (fun _ => ⟨['F'], 2, 8⟩)
    (fun _ => ⟨by decide, by decide, by decide, by decide⟩) (fun _ => 7) _ (by decide +kernel)

end SimuladorSO.Sistema
