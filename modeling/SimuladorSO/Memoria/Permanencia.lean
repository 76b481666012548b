import SimuladorSO.Memoria.Plana

/-!
# Translations that stay

A physical address that was computed once is good for as long as the pages of the process stay in
their frames.

* `Conserva`, `Refleja.conserva`: they do when processes are created, grow, write and read;
* `Conserva.enPaginas`, `Conserva.direccionFisica_eq`: the ranges of mapped pages and their
  translations stay then;
* `Refleja.inRange`: the translations and the sizes are `int`s.
-/

namespace SimuladorSO.Memoria

open CInt Dictionary Loops

variable {cfg : MemoriaConfiguracion} {m m' : Estado} {pid l n : ℤ}

/-- Every page that is mapped stays in its frame. -/
def Conserva (m m' : Estado) : Prop :=
  ∀ pid pagina marco, Mapea m pid pagina marco → Mapea m' pid pagina marco

theorem Conserva.refl (m : Estado) : Conserva m m := fun _ _ _ h => h

/-- A page that a growth adds is after those of the process. -/
theorem Refleja.crecer_conserva {espacio : ℤ → UInt8} {p : Plana} (h : Refleja cfg espacio p m)
    {tamanioNuevo : ℤ} {envios : List Envio} (hadm : Admisible cfg m (.crecer pid tamanioNuevo))
    (hm' : accion cfg m (.crecer pid tamanioNuevo) = some (m', envios)) : Conserva m m' := by
  obtain ⟨tab, s, hg, hs, -, hlt, rfl⟩ := accion_crecer_cases hadm hm'
  have htras := iterate_ocuparMarco cfg tab m.framesLibres
    (int32 (paginasNecesarias cfg tamanioNuevo - tab.cantPaginas)).toNat
  rw [← hs] at htras
  intro pid' pagina marco hmap
  unfold Mapea at hmap ⊢
  rw [duenio_put_mk, duenio_put]
  by_cases hpid : pid' = pid
  · rw [hpid, duenio_of_get hg] at hmap
    have hpagina := (h.paginado.exactas.paginas pid tab hg pagina).1 (by rw [hmap]; rfl)
    rw [if_pos hpid, htras.fuera pagina (by omega), hmap]
  · rw [if_neg hpid]
    exact hmap

/-- The actions of the processes keep the pages. -/
theorem Refleja.conserva {espacio : ℤ → UInt8} {p : Plana} (h : Refleja cfg espacio p m) {a : Accion}
    (hadm : Admisible cfg m a) (hm' : pasoAccion cfg m a = some m') : Conserva m m' := by
  obtain ⟨⟨m₁, envios⟩, haccion, hm₁⟩ := Option.map_eq_some_iff.1 hm'
  obtain rfl : m₁ = m' := hm₁
  cases a with
  | crear archivo pid =>
    obtain rfl := (Prod.mk.inj (Option.some.inj haccion)).1
    have hnuevo : get m.registroTablaDePaginas pid = none := Option.isNone_iff_eq_none.1 hadm
    intro pid' pagina marco hmap
    show duenio (put m.registroTablaDePaginas pid ⟨0, []⟩) (pid', pagina) = some marco
    have hpid : pid' ≠ pid := by
      rintro rfl
      unfold Mapea duenio at hmap
      dsimp only at hmap
      rw [hnuevo] at hmap
      cases hmap
    rw [duenio_put, if_neg hpid]
    exact hmap
  | crecer pid tamanioNuevo => exact h.crecer_conserva hadm haccion
  | escribir pid l n info =>
    obtain ⟨_, -, heq⟩ := Option.map_eq_some_iff.1 haccion
    rw [← (Prod.mk.inj heq).1]
    exact Conserva.refl m
  | leer pid l n =>
    obtain ⟨_, -, heq⟩ := Option.map_eq_some_iff.1 haccion
    rw [← (Prod.mk.inj heq).1]
    exact Conserva.refl m

/-- A mapped page has the frame it had. -/
theorem Conserva.obtenerMarco_eq (h : Conserva m m') {pagina : ℤ}
    (hmarco : obtenerMarco m pid pagina ≠ -1) :
    obtenerMarco m' pid pagina = obtenerMarco m pid pagina := by
  obtain ⟨marco, hmap⟩ := mapea_of_obtenerMarco_ne hmarco
  rw [obtenerMarco_of_mapea hmap, obtenerMarco_of_mapea (h _ _ _ hmap)]

theorem Conserva.enPaginas (h : Conserva m m') (hen : EnPaginas cfg m pid l n) :
    EnPaginas cfg m' pid l n := by
  refine ⟨hen.1, hen.2.1, fun i hi => ?_⟩
  have hmarco := hen.2.2 i hi
  rw [h.obtenerMarco_eq hmarco]
  exact hmarco

theorem Conserva.direccionFisica_eq (h : Conserva m m') (hen : EnPaginas cfg m pid l n) :
    direccionFisica cfg m' pid l = direccionFisica cfg m pid l := by
  have hmarco := hen.2.2 0 (by omega)
  rw [Nat.cast_zero, add_zero] at hmarco
  unfold direccionFisica
  rw [h.obtenerMarco_eq hmarco]

/-- The translation of a mapped address and the size of a mapped range are inside the memory. -/
theorem Refleja.inRange {espacio : ℤ → UInt8} {p : Plana} (h : Refleja cfg espacio p m)
    (hen : EnPaginas cfg m pid l n) : InRange (direccionFisica cfg m pid l) ∧ InRange n := by
  obtain ⟨hdir, hfin⟩ := h.fin_le hen
  have hn := hen.2.1
  have hmemoria : (cfg.tamMemoria : ℤ) < 2 ^ 31 := by exact_mod_cast cfg.tamMemoria_int
  exact ⟨⟨by omega, by omega⟩, ⟨by omega, by omega⟩⟩

end SimuladorSO.Memoria
