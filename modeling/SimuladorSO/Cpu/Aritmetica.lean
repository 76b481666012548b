import SimuladorSO.Cpu.Registros

/-!
# SUM and SUB

The registers are unsigned words, and `sum` and `sub` compute with them in an `int`.  The result is
that of the words when the `int` does not overflow; when it does, C says nothing.

* `sum`, `sub`: the two instructions, without a result on overflow;
* `Modular`: the destination holds a number modulo its width, and the rest is as it was;
* `SumaCabe`, `RestaCabe`: the values whose `int`s do not overflow;
* `sum_sub_modular_iff`: the instructions are modular exactly on them.
-/

namespace SimuladorSO.Cpu.Aritmetica

open CInt Commons

/-- The result of an operation of `int`s: an overflow has none. -/
def enInt (x : ℤ) : Option ℤ := if InRange x then some x else none

/-- `sum`. -/
def sum (r : Registros) (registroDestino registroOrigen : Cadena) : Option Registros :=
  (enInt (obtenerValor r registroDestino + obtenerValor r registroOrigen)).map
    (setearValor r registroDestino)

/-- `sub`. -/
def sub (r : Registros) (registroDestino registroOrigen : Cadena) : Option Registros :=
  (enInt (obtenerValor r registroDestino - obtenerValor r registroOrigen)).map
    (setearValor r registroDestino)

/-- The destination holds a number, modulo its width, and the other registers what they held. -/
structure Modular (r : Registros) (destino : Registro) (n : ℤ) (r' : Registros) : Prop where
  resultado : (r'.valor destino : ℤ) = n % 2 ^ (8 * destino.ancho)
  otros : ∀ reg, reg ≠ destino → r'.valor reg = r.valor reg

/-- The sum does not overflow: of two words below `2 ^ 31`, it is below `2 ^ 31`; of two words that
are not, it is `3 * 2 ^ 31` or more. -/
def SumaCabe (d s : ℕ) : Prop :=
  (d < 2 ^ 31 → s < 2 ^ 31 → d + s < 2 ^ 31) ∧
  (2 ^ 31 ≤ d → 2 ^ 31 ≤ s → 3 * 2 ^ 31 ≤ d + s)

/-- The difference does not overflow: two words on different sides of `2 ^ 31` are `2 ^ 31` apart,
and more when the first is the smaller. -/
def RestaCabe (d s : ℕ) : Prop :=
  (d < 2 ^ 31 → 2 ^ 31 ≤ s → d + 2 ^ 31 < s) ∧
  (2 ^ 31 ≤ d → s < 2 ^ 31 → s + 2 ^ 31 ≤ d)

instance (d s : ℕ) : Decidable (SumaCabe d s) := inferInstanceAs (Decidable (_ ∧ _))

instance (d s : ℕ) : Decidable (RestaCabe d s) := inferInstanceAs (Decidable (_ ∧ _))

variable {r r' : Registros} {destino origen : Registro} {nombreDestino nombreOrigen : Cadena}
  {x n : ℤ}

theorem enInt_eq_some : enInt x = some n ↔ InRange x ∧ x = n := by
  rw [enInt, Option.ite_none_right_eq_some, Option.some_inj]

/-- A register cut from a number that is `n` modulo `2 ^ 32` is `n` modulo its width. -/
theorem modular_asignar (r : Registros) (destino : Registro) (h : x ≡ n [ZMOD 2 ^ 32]) :
    Modular r destino n (r.asignar x destino) where
  resultado := by
    have hdvd : (2 : ℤ) ^ (8 * destino.ancho) ∣ 2 ^ 32 := by
      refine pow_dvd_pow 2 ?_
      rcases ancho_cases destino with hancho | hancho
      · rw [hancho]; omega
      · rw [hancho]
    have hpos : (0 : ℤ) < 2 ^ (8 * destino.ancho) := by positivity
    rw [valor_asignar, Int.toNat_of_nonneg (Int.emod_nonneg x hpos.ne')]
    exact h.of_dvd hdvd
  otros _ hreg := valor_asignar_of_ne r x hreg

/-- An operation on two `int`s, put in a register. -/
theorem operar_modular_iff (hd : stringEqualsIgnoreCase nombreDestino destino.nombre.toList = true)
    (h : x ≡ n [ZMOD 2 ^ 32]) :
    (∃ r', (enInt x).map (setearValor r nombreDestino) = some r' ∧ Modular r destino n r') ↔
      InRange x := by
  constructor
  · rintro ⟨r', hr', -⟩
    obtain ⟨valor, hvalor, -⟩ := Option.map_eq_some_iff.1 hr'
    exact (enInt_eq_some.1 hvalor).1
  · intro hx
    refine ⟨r.asignar x destino, ?_, modular_asignar r destino h⟩
    rw [enInt, if_pos hx, Option.map_some, setearValor_eq r x hd]

/-- Every register holds a word. -/
theorem valor_word (r : Registros) (reg : Registro) : r.valor reg < 2 ^ 32 := by
  have hlt := valor_lt r reg
  rcases ancho_cases reg with hancho | hancho
  · rw [hancho] at hlt; omega
  · rw [hancho] at hlt; exact hlt

theorem sumaCabe_iff (r : Registros) (destino origen : Registro) :
    InRange (int32 (r.valor destino) + int32 (r.valor origen)) ↔
      SumaCabe (r.valor destino) (r.valor origen) := by
  have hd := valor_word r destino
  have ho := valor_word r origen
  rw [inRange_int32_add_iff (by omega) (by omega) (by omega) (by omega)]
  unfold SumaCabe
  norm_cast

theorem restaCabe_iff (r : Registros) (destino origen : Registro) :
    InRange (int32 (r.valor destino) - int32 (r.valor origen)) ↔
      RestaCabe (r.valor destino) (r.valor origen) := by
  have hd := valor_word r destino
  have ho := valor_word r origen
  rw [inRange_int32_sub_iff (by omega) (by omega) (by omega) (by omega)]
  unfold RestaCabe
  norm_cast

/-- **When SUM and SUB are those of the words.**  For any two registers, in any spelling, and all
their values. -/
theorem sum_sub_modular_iff (r : Registros) (destino origen : Registro)
    (nombreDestino nombreOrigen : Cadena)
    (hd : stringEqualsIgnoreCase nombreDestino destino.nombre.toList = true)
    (ho : stringEqualsIgnoreCase nombreOrigen origen.nombre.toList = true) :
    ((∃ r', sum r nombreDestino nombreOrigen = some r' ∧
        Modular r destino (r.valor destino + r.valor origen) r') ↔
      SumaCabe (r.valor destino) (r.valor origen)) ∧
    ((∃ r', sub r nombreDestino nombreOrigen = some r' ∧
        Modular r destino (r.valor destino - r.valor origen) r') ↔
      RestaCabe (r.valor destino) (r.valor origen)) := by
  have hdestino := int32_modEq (r.valor destino)
  have horigen := int32_modEq (r.valor origen)
  unfold sum sub
  rw [obtenerValor_eq r hd, obtenerValor_eq r ho]
  constructor
  · rw [operar_modular_iff hd (hdestino.add horigen), sumaCabe_iff]
  · rw [operar_modular_iff hd (hdestino.sub horigen), restaCabe_iff]

/-- Registers with two values that are added to `AX`, and one that is near `2 ^ 31`. -/
def deEjemplo : Registros := ⟨5, 200, 100, 0, 0, 2147483647, 1, 0, 0, 0, 0⟩

theorem sum_sub_modular_ax_bx :
    ((∃ r', sum deEjemplo "AX".toList "bx".toList = some r' ∧
        Modular deEjemplo .AX (deEjemplo.valor .AX + deEjemplo.valor .BX) r') ↔
      SumaCabe (deEjemplo.valor .AX) (deEjemplo.valor .BX)) ∧
    ((∃ r', sub deEjemplo "AX".toList "bx".toList = some r' ∧
        Modular deEjemplo .AX (deEjemplo.valor .AX - deEjemplo.valor .BX) r') ↔
      RestaCabe (deEjemplo.valor .AX) (deEjemplo.valor .BX)) :=
  sum_sub_modular_iff deEjemplo .AX .BX "AX".toList "bx".toList (by decide) (by decide)

/-- **`SUM EAX EBX` overflows**, with 2147483647 and 1. -/
theorem sum_desborda :
    InRange (obtenerValor deEjemplo "EAX".toList) ∧ InRange (obtenerValor deEjemplo "EBX".toList) ∧
      obtenerValor deEjemplo "EAX".toList + obtenerValor deEjemplo "EBX".toList = 2 ^ 31 ∧
      ¬ ∃ r', sum deEjemplo "EAX".toList "EBX".toList = some r' ∧
        Modular deEjemplo .EAX (deEjemplo.valor .EAX + deEjemplo.valor .EBX) r' := by
  have hnone : sum deEjemplo "EAX".toList "EBX".toList = none := by decide +kernel
  refine ⟨by decide +kernel, by decide +kernel, by decide +kernel, ?_⟩
  rintro ⟨r', hr', -⟩
  rw [hnone] at hr'
  cases hr'

end SimuladorSO.Cpu.Aritmetica
