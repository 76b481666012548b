import SimuladorSO.Library.Cache
import SimuladorSO.Memoria.Estado

/-!
# The TLB and the address translation

The TLB of `cpu.c` as a list of entries, oldest first, with the two replacement policies, and
`obtener_direccion_fisica`, which asks memoria only on a miss.  A function answers `none` where the
program would take an entry out of an empty list.
-/

namespace SimuladorSO.Cpu

open Commons

/-- The configuration of the TLB. -/
structure CpuConfiguracion where
  cantidadEntradasTlb : ℕ
  algoritmoTlb : Cadena

/-- An entry of the TLB. -/
structure BaseTlb where
  pid : ℤ
  marco : ℤ
  pagina : ℤ
  deriving DecidableEq

/-- What an entry is searched by. -/
def BaseTlb.clave (e : BaseTlb) : ℤ × ℤ := (e.pid, e.pagina)

variable (cpu : CpuConfiguracion) (tamPagina : ℕ)

/-- `inicializar_tlb`: all entries are for page 0 of the pid 0, which no process has. -/
def inicializarTlb : List BaseTlb := List.replicate cpu.cantidadEntradasTlb ⟨0, 0, 0⟩

/-- `buscar_en_tlb`: the frame of the first entry of the page, or `-1`. -/
def buscarEnTlb (tlb : List BaseTlb) (pid pagina : ℤ) : ℤ :=
  match Cache.find BaseTlb.clave tlb (pid, pagina) with
  | some entrada => entrada.marco
  | none => -1

/-- `list_remove` of the first entry, and `list_add` of a new one. -/
def cargarEnTlb (tlb : List BaseTlb) (entrada : BaseTlb) : Option (List BaseTlb) :=
  if tlb.isEmpty then none else some (Cache.load tlb entrada)

/-- `reemplazar_en_tlb`: FIFO leaves an entry of the page where it is, LRU makes it the latest. -/
def reemplazarEnTlb (tlb : List BaseTlb) (pid marco nroPagina : ℤ) : Option (List BaseTlb) :=
  let entradaTlb := Cache.find BaseTlb.clave tlb (pid, nroPagina)
  if stringEqualsIgnoreCase "FIFO".toList cpu.algoritmoTlb then
    match entradaTlb with
    | none => cargarEnTlb tlb ⟨pid, marco, nroPagina⟩
    | some _ => some tlb
  else if stringEqualsIgnoreCase "LRU".toList cpu.algoritmoTlb then
    match entradaTlb with
    | none => cargarEnTlb tlb ⟨pid, marco, nroPagina⟩
    | some entrada => some (Cache.refresh BaseTlb.clave tlb (pid, nroPagina) entrada)
  else some tlb

/-- `obtener_pagina`. -/
def obtenerPagina (direccionLogica : ℤ) : ℤ := direccionLogica.tdiv tamPagina

/-- The address in a frame, or `-1` without one. -/
def direccionEnMarco (direccionLogica marco : ℤ) : ℤ :=
  if marco ≠ -1 then
    marco * tamPagina + (direccionLogica - obtenerPagina tamPagina direccionLogica * tamPagina)
  else -1

/-- The frame with which `obtener_direccion_fisica` goes on: memoria is asked on a miss, or when
there is no TLB. -/
def marcoParaPagina (obtenerMarcoMemoria : ℤ → ℤ) (tlb : List BaseTlb) (pid nroPagina : ℤ) : ℤ :=
  if cpu.cantidadEntradasTlb = 0 ∨ buscarEnTlb tlb pid nroPagina = -1 then
    obtenerMarcoMemoria nroPagina
  else buscarEnTlb tlb pid nroPagina

/-- `obtener_direccion_fisica`, over memoria's answer to a request for the frame of a page: the
address and the TLB after it. -/
def obtenerDireccionFisica (obtenerMarcoMemoria : ℤ → ℤ) (tlb : List BaseTlb)
    (direccionLogica pid : ℤ) : Option (ℤ × List BaseTlb) :=
  let nroPagina := obtenerPagina tamPagina direccionLogica
  let marco := marcoParaPagina cpu obtenerMarcoMemoria tlb pid nroPagina
  if marco ≠ -1 ∧ cpu.cantidadEntradasTlb ≠ 0 then
    (reemplazarEnTlb cpu tlb pid marco nroPagina).map fun tlb' =>
      (direccionEnMarco tamPagina direccionLogica marco, tlb')
  else some (direccionEnMarco tamPagina direccionLogica marco, tlb)

variable {cpu} {tamPagina} {tlb tlb' : List BaseTlb} {pid marco nroPagina : ℤ}

theorem cargarEnTlb_eq_some {entrada : BaseTlb} (h : cargarEnTlb tlb entrada = some tlb') :
    tlb ≠ [] ∧ tlb' = Cache.load tlb entrada := by
  unfold cargarEnTlb at h
  split_ifs at h with hne
  exact ⟨by simpa using hne, (Option.some.inj h).symm⟩

/-- What `reemplazar_en_tlb` does to a TLB, when it comes back. -/
theorem reemplazarEnTlb_cases (h : reemplazarEnTlb cpu tlb pid marco nroPagina = some tlb') :
    tlb' = tlb ∨
    (Cache.find BaseTlb.clave tlb (pid, nroPagina) = none ∧ tlb ≠ [] ∧
      tlb' = Cache.load tlb ⟨pid, marco, nroPagina⟩) ∨
    ∃ entrada, Cache.find BaseTlb.clave tlb (pid, nroPagina) = some entrada ∧
      tlb' = Cache.refresh BaseTlb.clave tlb (pid, nroPagina) entrada := by
  unfold reemplazarEnTlb at h
  cases hf : Cache.find BaseTlb.clave tlb (pid, nroPagina) with
  | none =>
    rw [hf] at h
    dsimp only at h
    split_ifs at h
    · exact Or.inr (Or.inl ⟨rfl, cargarEnTlb_eq_some h⟩)
    · exact Or.inr (Or.inl ⟨rfl, cargarEnTlb_eq_some h⟩)
    · exact Or.inl (Option.some.inj h).symm
  | some entrada =>
    rw [hf] at h
    dsimp only at h
    split_ifs at h
    · exact Or.inl (Option.some.inj h).symm
    · exact Or.inr (Or.inr ⟨entrada, rfl, (Option.some.inj h).symm⟩)
    · exact Or.inl (Option.some.inj h).symm

/-- A TLB with entries can always be updated. -/
theorem reemplazarEnTlb_isSome (cpu : CpuConfiguracion) (hne : tlb ≠ [])
    (pid marco nroPagina : ℤ) :
    ∃ tlb', reemplazarEnTlb cpu tlb pid marco nroPagina = some tlb' := by
  unfold reemplazarEnTlb cargarEnTlb
  cases Cache.find BaseTlb.clave tlb (pid, nroPagina) with
  | none => simp [hne, ← Option.isSome_iff_exists]; split_ifs <;> rfl
  | some entrada => simp [← Option.isSome_iff_exists]; split_ifs <;> rfl

/-- What a translation does to the TLB: nothing, a refresh of an entry, or a load of the frame
that memoria answers. -/
theorem obtenerDireccionFisica_cases {obtenerMarcoMemoria : ℤ → ℤ} {direccionLogica res : ℤ}
    (h : obtenerDireccionFisica cpu tamPagina obtenerMarcoMemoria tlb direccionLogica pid =
      some (res, tlb')) :
    tlb' = tlb ∨
    (∃ pagina entrada, Cache.find BaseTlb.clave tlb (pid, pagina) = some entrada ∧
      tlb' = Cache.refresh BaseTlb.clave tlb (pid, pagina) entrada) ∨
    ∃ pagina, Cache.find BaseTlb.clave tlb (pid, pagina) = none ∧ tlb ≠ [] ∧
      obtenerMarcoMemoria pagina ≠ -1 ∧
      tlb' = Cache.load tlb ⟨pid, obtenerMarcoMemoria pagina, pagina⟩ := by
  unfold obtenerDireccionFisica at h
  dsimp only at h
  split_ifs at h with hr
  · obtain ⟨tlb'', hreemplazo, heq⟩ := Option.map_eq_some_iff.1 h
    obtain rfl : tlb'' = tlb' := (Prod.mk.inj heq).2
    rcases reemplazarEnTlb_cases hreemplazo with rfl | ⟨hnone, hne, rfl⟩ | ⟨entrada, hf, rfl⟩
    · exact Or.inl rfl
    · -- after a miss the frame is the one that memoria answers
      have hmarco : marcoParaPagina cpu obtenerMarcoMemoria tlb pid
          (obtenerPagina tamPagina direccionLogica) =
          obtenerMarcoMemoria (obtenerPagina tamPagina direccionLogica) := by
        simp [marcoParaPagina, buscarEnTlb, hnone]
      rw [hmarco] at hr ⊢
      exact Or.inr (Or.inr ⟨_, hnone, hne, hr.1, rfl⟩)
    · exact Or.inr (Or.inl ⟨_, entrada, hf, rfl⟩)
  · exact Or.inl (Prod.mk.inj (Option.some.inj h)).2.symm

theorem refresh_length {k : ℤ × ℤ} {entrada : BaseTlb}
    (hf : Cache.find BaseTlb.clave tlb k = some entrada) :
    (Cache.refresh BaseTlb.clave tlb k entrada).length = tlb.length := by
  obtain ⟨hmem, hclave⟩ := Cache.find_some hf
  have hpos := List.length_pos_of_mem hmem
  rw [Cache.refresh, List.length_append, List.length_singleton,
    List.length_eraseP_of_mem hmem (by simpa using hclave)]
  omega

theorem load_length (hne : tlb ≠ []) (entrada : BaseTlb) :
    (Cache.load tlb entrada).length = tlb.length := by
  have hpos := List.length_pos_iff.2 hne
  simp [Cache.load]
  omega

end SimuladorSO.Cpu
