import SimuladorSO.Library.CInt
import Mathlib.Data.List.TakeWhile
import Mathlib.Tactic

/-!
# The collections and strings of so-commons

The functions of the commons library that the four programs call, over Lean lists.  A C string is
the list of its characters before the terminator.
-/

namespace SimuladorSO

/-- A C string. -/
abbrev Cadena := List Char

namespace Commons

/-- `string_equals_ignore_case`. -/
def stringEqualsIgnoreCase (a b : Cadena) : Bool := a.map Char.toLower == b.map Char.toLower

/-- `string_contains`: `b` occurs in `a`. -/
def stringContains (a b : Cadena) : Bool := decide (b <:+: a)

theorem stringEqualsIgnoreCase_iff {a b : Cadena} :
    stringEqualsIgnoreCase a b = true ↔ a.map Char.toLower = b.map Char.toLower := by
  simp [stringEqualsIgnoreCase]

@[simp] theorem stringEqualsIgnoreCase_self (a : Cadena) : stringEqualsIgnoreCase a a = true :=
  stringEqualsIgnoreCase_iff.2 rfl

/-- The texts equal to `a` are those equal to any text equal to `a`. -/
theorem stringEqualsIgnoreCase_congr {a b : Cadena} (h : stringEqualsIgnoreCase a b = true)
    (c : Cadena) : stringEqualsIgnoreCase c a = stringEqualsIgnoreCase c b := by
  unfold stringEqualsIgnoreCase
  rw [stringEqualsIgnoreCase_iff.1 h]

theorem stringEqualsIgnoreCase_symm {a b : Cadena} (h : stringEqualsIgnoreCase a b = true) :
    stringEqualsIgnoreCase b a = true :=
  stringEqualsIgnoreCase_iff.2 (stringEqualsIgnoreCase_iff.1 h).symm

/-- A text equal to `b` contains no text whose lower-case form does not occur in that of `b`. -/
theorem not_stringContains_of_equals {a b c : Cadena} (h : stringEqualsIgnoreCase a b = true)
    (hc : ¬ c.map Char.toLower <:+: b.map Char.toLower) : stringContains a c = false := by
  rw [stringContains, decide_eq_false_iff_not]
  intro hinfix
  have hmap := List.IsInfix.map Char.toLower hinfix
  rw [stringEqualsIgnoreCase_iff.1 h] at hmap
  exact hc hmap

/-- A text is not equal to two different texts. -/
theorem not_stringEquals_of_equals {a b c : Cadena} (h : stringEqualsIgnoreCase a b = true)
    (hc : stringEqualsIgnoreCase b c = false) : stringEqualsIgnoreCase a c = false := by
  unfold stringEqualsIgnoreCase at hc ⊢
  rwa [stringEqualsIgnoreCase_iff.1 h]

theorem not_stringEquals_of_or {a b b' c : Cadena}
    (h : stringEqualsIgnoreCase a b = true ∨ stringEqualsIgnoreCase a b' = true)
    (hc : stringEqualsIgnoreCase b c = false) (hc' : stringEqualsIgnoreCase b' c = false) :
    stringEqualsIgnoreCase a c = false := by
  rcases h with h | h
  · exact not_stringEquals_of_equals h hc
  · exact not_stringEquals_of_equals h hc'

theorem toLower_eq_space {c : Char} (h : c.toLower = ' ') : c = ' ' := by
  unfold Char.toLower at h
  split_ifs at h with hc
  · have hval : c.val + ('a'.val - 'A'.val) = ' '.val := congrArg Char.val h
    have hnat : (c.val.toNat + 32) % 4294967296 = 32 := congrArg UInt32.toNat hval
    have h1 : 65 ≤ c.val.toNat := hc.1
    have h2 : c.val.toNat ≤ 90 := hc.2
    omega
  · exact h

/-- A text equal to one without spaces has none. -/
theorem notMem_space_of_equals {a b : Cadena} (h : stringEqualsIgnoreCase a b = true)
    (hb : ' ' ∉ b) : ' ' ∉ a := by
  intro ha
  have hmem : ' ' ∈ b.map Char.toLower := by
    rw [← stringEqualsIgnoreCase_iff.1 h]
    exact List.mem_map.2 ⟨' ', ha, rfl⟩
  obtain ⟨c, hc, hlower⟩ := List.mem_map.1 hmem
  exact hb (toLower_eq_space hlower ▸ hc)

/-! ### Numbers as text -/

/-- `string_itoa`. -/
def itoa (n : ℤ) : Cadena :=
  if n < 0 then '-' :: Nat.toDigits 10 n.natAbs else Nat.toDigits 10 n.natAbs

/-- `isspace`. -/
def isspace (c : Char) : Bool := c == ' ' || (decide ('\t' ≤ c) && decide (c ≤ '\r'))

/-- The sign and the digits of a number. -/
def signo : Cadena → Bool × Cadena
  | '-' :: s => (true, s)
  | '+' :: s => (false, s)
  | s => (false, s)

/-- `strtol` in base 10: blanks, a sign and the digits up to the first other character; the value of
a `long`. -/
def strtol (s : Cadena) : ℤ :=
  let (negativo, digitos) := signo (s.dropWhile isspace)
  let n : ℤ := Nat.ofDigitChars 10 (digitos.takeWhile Char.isDigit) 0
  max (-2 ^ 63) (min (2 ^ 63 - 1) (if negativo then -n else n))

/-- `atoi`. -/
def atoi (s : Cadena) : ℤ := CInt.int32 (strtol s)

theorem toDigits_ne_nil (n : ℕ) : Nat.toDigits 10 n ≠ [] := by
  rw [Nat.toDigits_eq_if (by omega)]
  split_ifs <;> simp

theorem isspace_of_isDigit {c : Char} (h : c.isDigit = true) : isspace c = false := by
  unfold Char.isDigit at h
  have h1 : 48 ≤ c.val.toNat := (by simpa using h : 48 ≤ c.val ∧ c.val ≤ 57).1
  unfold isspace
  rw [Bool.or_eq_false_iff, Bool.and_eq_false_iff, decide_eq_false_iff_not,
    decide_eq_false_iff_not]
  refine ⟨?_, Or.inr ?_⟩
  · rw [beq_eq_false_iff_ne]
    rintro rfl
    exact absurd h1 (by decide)
  · intro hle
    have h2 : c.val.toNat ≤ 13 := hle
    omega

/-- Digits are read to their end. -/
theorem takeWhile_isDigit_toDigits (n : ℕ) :
    (Nat.toDigits 10 n).takeWhile Char.isDigit = Nat.toDigits 10 n :=
  List.takeWhile_eq_self_iff.2 fun _ hc => Nat.isDigit_of_mem_toDigits (by omega) (by omega) hc

/-- `signo` leaves digits as they are. -/
theorem signo_toDigits (n : ℕ) : signo (Nat.toDigits 10 n) = (false, Nat.toDigits 10 n) := by
  cases h : Nat.toDigits 10 n with
  | nil => exact absurd h (toDigits_ne_nil n)
  | cons c s =>
    have hc : c.isDigit = true :=
      Nat.isDigit_of_mem_toDigits (n := n) (b := 10) (by omega) (by omega) (by rw [h]; simp)
    unfold signo
    split
    · rename_i heq
      rw [(List.cons.inj heq).1] at hc
      cases hc
    · rename_i heq
      rw [(List.cons.inj heq).1] at hc
      cases hc
    · rfl

/-- A number does not start with blanks. -/
theorem dropWhile_isspace_itoa (n : ℤ) : (itoa n).dropWhile isspace = itoa n := by
  unfold itoa
  split_ifs
  · rfl
  · rw [List.dropWhile_eq_self_iff]
    intro hlen
    rw [isspace_of_isDigit (Nat.isDigit_of_mem_toDigits (by omega) (by omega)
      (List.getElem_mem hlen))]
    simp

theorem strtol_itoa {n : ℤ} (h : CInt.InRange n) : strtol (itoa n) = n := by
  obtain ⟨h1, h2⟩ := h
  unfold strtol
  rw [dropWhile_isspace_itoa]
  unfold itoa
  by_cases hneg : n < 0
  · rw [if_pos hneg]
    simp only [signo, takeWhile_isDigit_toDigits, Nat.ofDigitChars_ten_toDigits, if_true]
    omega
  · rw [if_neg hneg, signo_toDigits]
    simp only [takeWhile_isDigit_toDigits, Nat.ofDigitChars_ten_toDigits, Bool.false_eq_true,
      if_false]
    omega

/-- A number written as text is read back. -/
theorem atoi_itoa {n : ℤ} (h : CInt.InRange n) : atoi (itoa n) = n := by
  unfold atoi
  rw [strtol_itoa h, CInt.int32_of_inRange h]

/-- The code of a digit. -/
theorem isDigit_iff {c : Char} : c.isDigit = true ↔ 48 ≤ c.toNat ∧ c.toNat ≤ 57 := by
  unfold Char.isDigit
  rw [Bool.and_eq_true, decide_eq_true_iff, decide_eq_true_iff]
  exact Iff.rfl

/-- A digit has no other case. -/
theorem toLower_of_isDigit {c : Char} (h : c.isDigit = true) : c.toLower = c := by
  obtain ⟨-, hle⟩ := isDigit_iff.1 h
  unfold Char.toLower
  rw [dif_neg]
  rintro ⟨hge, -⟩
  have hge' : 65 ≤ c.toNat := hge
  omega

theorem itoa_nat (n : ℕ) : itoa n = Nat.toDigits 10 n := by
  rw [itoa, if_neg (by omega), Int.natAbs_natCast]

/-- Different numbers have different texts. -/
theorem itoa_nat_injective : Function.Injective fun n : ℕ => itoa n := by
  intro m n h
  have hdigitos : Nat.toDigits 10 m = Nat.toDigits 10 n := by
    rw [← itoa_nat, ← itoa_nat]
    exact h
  calc m = Nat.ofDigitChars 10 (Nat.toDigits 10 m) 0 := Nat.ofDigitChars_ten_toDigits.symm
    _ = Nat.ofDigitChars 10 (Nat.toDigits 10 n) 0 := by rw [hdigitos]
    _ = n := Nat.ofDigitChars_ten_toDigits

/-- The texts of two numbers are equal only if the numbers are. -/
theorem equals_itoa (m n : ℕ) : stringEqualsIgnoreCase (itoa m) (itoa n) = (m == n) := by
  have hlower (n : ℕ) : (itoa n).map Char.toLower = itoa n := by
    rw [itoa_nat]
    refine (List.map_congr_left fun c hc => ?_).trans (List.map_id _)
    exact toLower_of_isDigit (Nat.isDigit_of_mem_toDigits (by omega) (by omega) hc)
  rw [Bool.eq_iff_iff, stringEqualsIgnoreCase_iff, hlower, hlower, beq_iff_eq]
  exact itoa_nat_injective.eq_iff

/-! ### Bytes -/

/-- The text of some bytes. -/
def texto (b : List UInt8) : Cadena := b.map fun x => Char.ofNat x.toNat

/-- The bytes of a text. -/
def aBytes (s : Cadena) : List UInt8 := s.map fun c => UInt8.ofNat c.toNat

/-- The characters of one byte go to bytes and back. -/
theorem texto_aBytes {s : Cadena} (h : ∀ c ∈ s, c.toNat < 256) : texto (aBytes s) = s := by
  unfold texto aBytes
  rw [List.map_map]
  refine (List.map_congr_left fun c hc => ?_).trans s.map_id
  show Char.ofNat (UInt8.ofNat c.toNat).toNat = c
  have hlt := h c hc
  rw [UInt8.toNat_ofNat', Nat.mod_eq_of_lt (by omega), Char.ofNat_toNat]

/-- The characters of a number. -/
theorem toNat_of_mem_itoa {n : ℤ} {c : Char} (h : c ∈ itoa n) : 0 < c.toNat ∧ c.toNat < 256 := by
  have hdigitos : ∀ c ∈ Nat.toDigits 10 n.natAbs, 0 < c.toNat ∧ c.toNat < 256 := fun c hc => by
    have hdigito := isDigit_iff.1 (Nat.isDigit_of_mem_toDigits (by omega) (by omega) hc)
    omega
  unfold itoa at h
  split_ifs at h with hneg
  · rcases List.mem_cons.1 h with rfl | h
    · decide
    · exact hdigitos c h
  · exact hdigitos c h

/-- A number written as text is read back from its bytes. -/
theorem atoi_texto_itoa {n : ℤ} (h : CInt.InRange n) : atoi (texto (aBytes (itoa n))) = n := by
  rw [texto_aBytes fun c hc => (toNat_of_mem_itoa hc).2, atoi_itoa h]

/-! ### Lists -/

/-- `list_get` of the commons: `none` stands for the `NULL` it answers outside the list. -/
def listGet {α : Type*} (l : List α) (i : ℤ) : Option α :=
  if 0 ≤ i then l[i.toNat]? else none

/-- `list_remove`: the element and the list without it; `none` stands for the `NULL` it answers
outside the list. -/
def listRemove {α : Type*} (l : List α) (i : ℤ) : Option (α × List α) :=
  (listGet l i).map fun x => (x, l.eraseIdx i.toNat)

/-- `list_add_in_index`, which does nothing outside the list. -/
def listAddInIndex {α : Type*} (l : List α) (i : ℤ) (x : α) : List α :=
  if 0 ≤ i ∧ i ≤ l.length then l.insertIdx i.toNat x else l

theorem listRemove_nat {α : Type*} (l : List α) (i : ℕ) :
    listRemove l i = l[i]?.map fun x => (x, l.eraseIdx i) := by
  rw [listRemove, listGet, if_pos (Int.natCast_nonneg i), Int.toNat_natCast]

/-- An element that was taken out goes back, changed, to its position. -/
theorem listAddInIndex_eraseIdx {α : Type*} {l : List α} {i : ℕ} (hi : i < l.length) (x : α) :
    listAddInIndex (l.eraseIdx i) i x = l.set i x := by
  have hlength : (l.eraseIdx i).length = l.length - 1 := List.length_eraseIdx_of_lt hi
  rw [listAddInIndex, if_pos (by omega), Int.toNat_natCast, List.insertIdx_eraseIdx_self hi.ne]

end Commons

end SimuladorSO
