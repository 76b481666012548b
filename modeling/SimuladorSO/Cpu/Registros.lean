import SimuladorSO.Commons
import Mathlib.Data.UInt

/-!
# The registers

The eleven registers of `utils.h`, and the three functions of `cpu.c` that find one by its name.
A value moves through an `int` in both directions: a register of 32 bits is read as a signed number,
and a number is cut to the width of the register it is put in.
-/

namespace SimuladorSO.Cpu

open CInt Commons

/-- The registers of the process. -/
structure Registros where
  pc : UInt32
  ax : UInt8
  bx : UInt8
  cx : UInt8
  dx : UInt8
  eax : UInt32
  ebx : UInt32
  ecx : UInt32
  edx : UInt32
  si : UInt32
  di : UInt32

/-- `obtener_valor`: the result is an `int`, and an unknown register is 0. -/
def obtenerValor (r : Registros) (unRegistro : Cadena) : ℤ :=
  if stringEqualsIgnoreCase unRegistro "PC".toList then int32 r.pc.toNat
  else if stringEqualsIgnoreCase unRegistro "AX".toList then r.ax.toNat
  else if stringEqualsIgnoreCase unRegistro "BX".toList then r.bx.toNat
  else if stringEqualsIgnoreCase unRegistro "CX".toList then r.cx.toNat
  else if stringEqualsIgnoreCase unRegistro "DX".toList then r.dx.toNat
  else if stringEqualsIgnoreCase unRegistro "EAX".toList then int32 r.eax.toNat
  else if stringEqualsIgnoreCase unRegistro "EBX".toList then int32 r.ebx.toNat
  else if stringEqualsIgnoreCase unRegistro "ECX".toList then int32 r.ecx.toNat
  else if stringEqualsIgnoreCase unRegistro "EDX".toList then int32 r.edx.toNat
  else if stringEqualsIgnoreCase unRegistro "SI".toList then int32 r.si.toNat
  else if stringEqualsIgnoreCase unRegistro "DI".toList then int32 r.di.toNat
  else 0

/-- A register. -/
inductive Registro
  | PC
  | AX
  | BX
  | CX
  | DX
  | EAX
  | EBX
  | ECX
  | EDX
  | SI
  | DI
  deriving DecidableEq

/-- The name of a register. -/
def Registro.nombre : Registro → String
  | .PC => "PC"
  | .AX => "AX"
  | .BX => "BX"
  | .CX => "CX"
  | .DX => "DX"
  | .EAX => "EAX"
  | .EBX => "EBX"
  | .ECX => "ECX"
  | .EDX => "EDX"
  | .SI => "SI"
  | .DI => "DI"

/-- The bytes of a register. -/
def Registro.ancho : Registro → ℕ
  | .PC => 4
  | .AX => 1
  | .BX => 1
  | .CX => 1
  | .DX => 1
  | .EAX => 4
  | .EBX => 4
  | .ECX => 4
  | .EDX => 4
  | .SI => 4
  | .DI => 4

/-- The unsigned value of a register. -/
def Registros.valor (r : Registros) : Registro → ℕ
  | .PC => r.pc.toNat
  | .AX => r.ax.toNat
  | .BX => r.bx.toNat
  | .CX => r.cx.toNat
  | .DX => r.dx.toNat
  | .EAX => r.eax.toNat
  | .EBX => r.ebx.toNat
  | .ECX => r.ecx.toNat
  | .EDX => r.edx.toNat
  | .SI => r.si.toNat
  | .DI => r.di.toNat

/-- The assignment of an `int` to a register. -/
def Registros.asignar (r : Registros) (valor : ℤ) : Registro → Registros
  | .PC => { r with pc := UInt32.ofInt valor }
  | .AX => { r with ax := UInt8.ofInt valor }
  | .BX => { r with bx := UInt8.ofInt valor }
  | .CX => { r with cx := UInt8.ofInt valor }
  | .DX => { r with dx := UInt8.ofInt valor }
  | .EAX => { r with eax := UInt32.ofInt valor }
  | .EBX => { r with ebx := UInt32.ofInt valor }
  | .ECX => { r with ecx := UInt32.ofInt valor }
  | .EDX => { r with edx := UInt32.ofInt valor }
  | .SI => { r with si := UInt32.ofInt valor }
  | .DI => { r with di := UInt32.ofInt valor }

/-- The chain of comparisons with which the functions find a register by its name. -/
def registroDe (unRegistro : Cadena) : Option Registro :=
  [Registro.PC, .AX, .BX, .CX, .DX, .EAX, .EBX, .ECX, .EDX, .SI, .DI].find? fun reg =>
    stringEqualsIgnoreCase unRegistro reg.nombre.toList

/-- `setear_valor`: an unknown register is ignored. -/
def setearValor (r : Registros) (registro : Cadena) (valor : ℤ) : Registros :=
  match registroDe registro with
  | some reg => r.asignar valor reg
  | none => r

/-- `obtener_tamanio_registro`: an unknown register has no bytes. -/
def obtenerTamanioRegistro (unRegistro : Cadena) : ℤ :=
  match registroDe unRegistro with
  | some reg => reg.ancho
  | none => 0

variable {r : Registros} {reg : Registro} {nombre : Cadena} {valor : ℤ}

/-- A text names one register at most. -/
theorem registroDe_eq (h : stringEqualsIgnoreCase nombre reg.nombre.toList = true) :
    registroDe nombre = some reg := by
  unfold registroDe stringEqualsIgnoreCase
  rw [stringEqualsIgnoreCase_iff.1 h]
  cases reg <;> decide

theorem valor_lt (r : Registros) (reg : Registro) : r.valor reg < 2 ^ (8 * reg.ancho) := by
  cases reg
  case AX => exact r.ax.toNat_lt
  case BX => exact r.bx.toNat_lt
  case CX => exact r.cx.toNat_lt
  case DX => exact r.dx.toNat_lt
  all_goals exact UInt32.toNat_lt _

theorem ancho_cases (reg : Registro) : reg.ancho = 1 ∨ reg.ancho = 4 := by
  cases reg <;> decide

/-- A register of 8 bits is read as it is. -/
theorem int32_uint8 (x : UInt8) : int32 x.toNat = x.toNat := by
  have hlt := x.toNat_lt
  exact int32_of_inRange ⟨by omega, by omega⟩

/-- The value read is that of the register, as an `int`. -/
theorem obtenerValor_eq (r : Registros)
    (h : stringEqualsIgnoreCase nombre reg.nombre.toList = true) :
    obtenerValor r nombre = int32 (r.valor reg) := by
  unfold obtenerValor stringEqualsIgnoreCase
  rw [stringEqualsIgnoreCase_iff.1 h]
  cases reg <;> repeat first | rw [if_pos (by decide)] | rw [if_neg (by decide)]
  case AX => exact (int32_uint8 r.ax).symm
  case BX => exact (int32_uint8 r.bx).symm
  case CX => exact (int32_uint8 r.cx).symm
  case DX => exact (int32_uint8 r.dx).symm
  all_goals rfl

theorem setearValor_eq (r : Registros) (valor : ℤ)
    (h : stringEqualsIgnoreCase nombre reg.nombre.toList = true) :
    setearValor r nombre valor = r.asignar valor reg := by
  unfold setearValor
  rw [registroDe_eq h]

theorem toNat_ofInt_uint8 (x : ℤ) : (UInt8.ofInt x).toNat = (x % 2 ^ 8).toNat := by
  have hlt := Int.emod_lt_of_pos x (by norm_num : (0 : ℤ) < 2 ^ 8)
  have h0 := Int.emod_nonneg x (by norm_num : (2 : ℤ) ^ 8 ≠ 0)
  show (x % 2 ^ 8).toNat % 2 ^ 8 = _
  omega

theorem toNat_ofInt_uint32 (x : ℤ) : (UInt32.ofInt x).toNat = (x % 2 ^ 32).toNat := by
  have hlt := Int.emod_lt_of_pos x (by norm_num : (0 : ℤ) < 2 ^ 32)
  have h0 := Int.emod_nonneg x (by norm_num : (2 : ℤ) ^ 32 ≠ 0)
  show (x % 2 ^ 32).toNat % 2 ^ 32 = _
  omega

/-- The number that a register keeps of an `int`. -/
theorem valor_asignar (r : Registros) (valor : ℤ) (reg : Registro) :
    (r.asignar valor reg).valor reg = (valor % 2 ^ (8 * reg.ancho)).toNat := by
  cases reg
  case AX => exact toNat_ofInt_uint8 valor
  case BX => exact toNat_ofInt_uint8 valor
  case CX => exact toNat_ofInt_uint8 valor
  case DX => exact toNat_ofInt_uint8 valor
  all_goals exact toNat_ofInt_uint32 valor

/-- The other registers keep theirs. -/
theorem valor_asignar_of_ne (r : Registros) (valor : ℤ) {reg otro : Registro} (h : otro ≠ reg) :
    (r.asignar valor reg).valor otro = r.valor otro := by
  cases reg <;> cases otro <;> first | rfl | exact absurd rfl h

end SimuladorSO.Cpu
