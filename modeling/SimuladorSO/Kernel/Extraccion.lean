import SimuladorSO.Kernel.Pasos
import SimuladorSO.Library.Rounds
import SimuladorSO.Utils.Contexto

/-!
# Taking a PCB out of a queue

`pcb_en_cola` over the PCBs themselves, with the text of their pids.  It pops every element of the
queue once, keeps the one that it looks for and pushes the others.

* `PcbKernel`: a PCB whose pid the kernel has written;
* `pcbEnCola_extrae`: the PCB is found, and the others keep their order;
* `pcbEnCola_numeros`: on the numbers of the processes this is `Kernel.pcbEnCola`.
-/

namespace SimuladorSO.Kernel.Extraccion

open Commons Loops Rounds Utils

/-- A `pcb` of the kernel: its pid is the `string_itoa` of a value of `contador_pid`. -/
structure PcbKernel extends Utils.Pcb where
  numero : ℕ
  esNumero : pid = itoaTexto numero

/-- The comparison of `pcb_en_cola`. -/
def mismoPid (pid : Texto) (p : PcbKernel) : Bool :=
  stringEqualsIgnoreCase (texto p.pid.bytes) (texto pid.bytes)

/-- One turn of the loop of `pcb_en_cola`, over the queue and `pcb_buscado`. -/
def rotar (pid : Texto) :
    List PcbKernel × Option PcbKernel → List PcbKernel × Option PcbKernel
  | ([], pcbBuscado) => ([], pcbBuscado)
  | (pcbEncontrado :: resto, pcbBuscado) =>
    if mismoPid pid pcbEncontrado then (resto, some pcbEncontrado)
    else (resto ++ [pcbEncontrado], pcbBuscado)

/-- `pcb_en_cola`: what it returns, which has no value when nothing is found, and the queue. -/
def pcbEnCola (cola : List PcbKernel) (pid : Texto) : Option PcbKernel × List PcbKernel :=
  let s := iterate (fun _ => rotar pid) cola.length (cola, none)
  (s.2, s.1)

/-- `generar_nuevo_proceso`: `DI` and the number of evictions are what the allocation held. -/
def generarNuevoProceso (contadorPid : ℕ) (quantum : Flotante) (di : UInt32) (nroDesalojos : ℤ) :
    PcbKernel where
  pid := itoaTexto contadorPid
  programCounter := 0
  quantum := quantum
  registros := ⟨0, 0, 0, 0, 0, 0, 0, 0, 0, 0, di⟩
  nroDesalojos := nroDesalojos
  numero := contadorPid
  esNumero := rfl

variable {cola antes despues : List PcbKernel} {p q : PcbKernel} {pid : Texto} {n : ℕ}

theorem rotar_eq_turn (pid : Texto) :
    rotar pid = turn (mismoPid pid) fun _ pcbEncontrado => some pcbEncontrado := by
  funext s
  obtain ⟨_ | ⟨p, resto⟩, pcbBuscado⟩ := s
  · rfl
  · rfl

/-- Two pids are compared as numbers. -/
theorem mismoPid_itoa (p : PcbKernel) (n : ℕ) : mismoPid (itoaTexto n) p = (p.numero == n) := by
  have htexto : ∀ m : ℕ, texto (itoaTexto m).bytes = itoa m := fun m =>
    texto_aBytes fun c hc => (toNat_of_mem_itoa hc).2
  unfold mismoPid
  rw [p.esNumero, htexto, htexto, equals_itoa]

theorem itoaTexto_injective {m n : ℕ} (h : itoaTexto m = itoaTexto n) : m = n := by
  have hbytes : texto (itoaTexto m).bytes = texto (itoaTexto n).bytes := by rw [h]
  have hitoa : itoa m = itoa n := by
    calc itoa m = texto (itoaTexto m).bytes :=
          (texto_aBytes fun c hc => (toNat_of_mem_itoa hc).2).symm
      _ = texto (itoaTexto n).bytes := hbytes
      _ = itoa n := texto_aBytes fun c hc => (toNat_of_mem_itoa hc).2
  exact itoa_nat_injective hitoa

/-- A PCB has the pid of another exactly when the comparison says so. -/
theorem mismoPid_iff : mismoPid p.pid q = true ↔ q.pid = p.pid := by
  rw [p.esNumero, mismoPid_itoa, q.esNumero, beq_iff_eq]
  exact ⟨fun h => by rw [h], itoaTexto_injective⟩

/-- `pcb_en_cola` on a queue with the PCB in it. -/
theorem pcbEnCola_append (hdistintos : ((antes ++ p :: despues).map fun q => q.pid).Nodup) :
    pcbEnCola (antes ++ p :: despues) p.pid = (some p, antes ++ despues) := by
  rw [List.map_append, List.map_cons, List.nodup_append, List.nodup_cons] at hdistintos
  obtain ⟨-, ⟨hdespues, -⟩, hantes⟩ := hdistintos
  have hno : ∀ q : PcbKernel, q.pid ≠ p.pid → mismoPid p.pid q = false := fun q hq =>
    Bool.eq_false_iff.2 fun h => hq (mismoPid_iff.1 h)
  have hantes' : ∀ q ∈ antes, mismoPid p.pid q = false := fun q hq =>
    hno q (hantes _ (List.mem_map_of_mem hq) _ List.mem_cons_self)
  have hdespues' : ∀ q ∈ despues, mismoPid p.pid q = false := fun q hq =>
    hno q fun h => hdespues (h ▸ List.mem_map_of_mem hq)
  unfold pcbEnCola
  rw [rotar_eq_turn, iterate_turn_unique (mismoPid_iff.2 rfl) hantes' hdespues']

/-- **`pcb_en_cola` takes out one PCB and keeps the order of the others.** -/
theorem pcbEnCola_extrae (cola : List PcbKernel) (pid : Texto)
    (hdistintos : (cola.map fun p => p.pid).Nodup) (hpid : pid ∈ cola.map fun p => p.pid) :
    ∃ antes p despues, cola = antes ++ p :: despues ∧ p.pid = pid ∧
      pcbEnCola cola pid = (some p, antes ++ despues) := by
  obtain ⟨p, hp, rfl⟩ := List.mem_map.1 hpid
  obtain ⟨antes, despues, rfl⟩ := List.append_of_mem hp
  exact ⟨antes, p, despues, rfl, rfl, pcbEnCola_append hdistintos⟩

/-- The one in the middle of three new processes. -/
theorem pcbEnCola_extrae_tres :
    ∃ antes p despues,
      ([1, 2, 3].map fun n => generarNuevoProceso n (.deDouble 2) 0 0) = antes ++ p :: despues ∧
      p.pid = itoaTexto 2 ∧
      pcbEnCola ([1, 2, 3].map fun n => generarNuevoProceso n (.deDouble 2) 0 0) (itoaTexto 2) =
        (some p, antes ++ despues) := by
  have hne : ∀ m n : ℕ, m ≠ n → itoaTexto m ≠ itoaTexto n := fun m n hmn h =>
    hmn (itoaTexto_injective h)
  have hdistintos : [itoaTexto (1 : ℕ), itoaTexto (2 : ℕ), itoaTexto (3 : ℕ)].Nodup := by
    simpa using ⟨⟨hne 1 2 (by decide), hne 1 3 (by decide)⟩, hne 2 3 (by decide)⟩
  exact pcbEnCola_extrae ([1, 2, 3].map fun n => generarNuevoProceso n (.deDouble 2) 0 0)
    (itoaTexto 2) hdistintos (List.mem_cons_of_mem _ List.mem_cons_self)

/-! ### The numbers of the processes -/

/-- What is left of the queue. -/
theorem pcbEnCola_cola (cola : List PcbKernel) (n : ℕ) :
    (pcbEnCola cola (itoaTexto n)).2 = cola.filter fun p => p.numero != n := by
  have hround := iterate_turn (mismoPid (itoaTexto n)) (fun _ p => some p) cola [] none
  rw [List.append_nil, List.nil_append] at hround
  unfold pcbEnCola
  rw [rotar_eq_turn, hround]
  refine List.filter_congr fun p _ => ?_
  rw [mismoPid_itoa]
  rfl

/-- **`pcb_en_cola` on the numbers.**  The queues of pids of the rest of the model lose the pid that
the queues of PCBs lose. -/
theorem pcbEnCola_numeros (cola : List PcbKernel) (n : ℕ)
    (hn : n ∈ cola.map fun p => p.numero) :
    Kernel.pcbEnCola (cola.map fun p => p.numero) n =
      some ((pcbEnCola cola (itoaTexto n)).2.map fun p => p.numero) := by
  rw [Kernel.pcbEnCola_eq, if_pos hn, pcbEnCola_cola, List.filter_map]
  rfl

end SimuladorSO.Kernel.Extraccion
