import SimuladorSO.Utils.Paquete

/-!
# Decoding any buffer

`recibir_paquete` advances by sizes that it finds in the buffer, and looks at none of them.

* `Alcanza`: the offsets that its loop comes to;
* `recorrer_fuel`, `recorrer_eq_none_iff`: it ends, or it comes to a size or a value that is not in
  the buffer;
* `Decodifica`: it ends, and all that it reads and allocates is right;
* `decodifica_iff`: this is so exactly for the buffers that `agregar_a_paquete` can build.
-/

namespace SimuladorSO.Utils

open CInt LittleEndian Readers

/-- The loop of `recibir_paquete` comes to an offset, with the values that it has gathered. -/
inductive Alcanza (buffer : List UInt8) : ℤ → List (List UInt8) → Prop
  | inicio : Alcanza buffer 0 []
  | vuelta {desplazamiento : ℤ} {valores : List (List UInt8)} {bytes valor : List UInt8}
      (h : Alcanza buffer desplazamiento valores) (hlt : desplazamiento < buffer.length)
      (hbytes : memcpy buffer desplazamiento 4 = some bytes)
      (hvalor : memcpy buffer (desplazamiento + 4) (intValue bytes) = some valor) :
      Alcanza buffer (desplazamiento + 4 + intValue bytes) (valores ++ [valor])

/-- What is asked of the decoder on a buffer that comes with its size. -/
structure Decodifica (buffer : List UInt8) : Prop where
  /-- Every size that it reads is in the buffer. -/
  enBuffer : ∀ desplazamiento valores, Alcanza buffer desplazamiento valores →
    desplazamiento < buffer.length → 0 ≤ desplazamiento ∧ desplazamiento + 4 ≤ buffer.length
  /-- Every value has a size that is not negative, and is in the buffer. -/
  noNegativo : ∀ desplazamiento valores bytes, Alcanza buffer desplazamiento valores →
    desplazamiento < buffer.length → memcpy buffer desplazamiento 4 = some bytes →
    0 ≤ intValue bytes ∧ desplazamiento + 4 + intValue bytes ≤ buffer.length
  /-- It comes back, whatever comes after the frame. -/
  termina : ∃ valores, ∀ resto,
    recibirPaquete (intBytes buffer.length ++ buffer ++ resto) = some (valores, resto)
  /-- The values and their sizes take up the buffer. -/
  suman : ∀ valores resto resto',
    recibirPaquete (intBytes buffer.length ++ buffer ++ resto) = some (valores, resto') →
    (valores.map fun valor => valor.length + 4).sum = buffer.length

variable {buffer bytes valor : List UInt8} {valores leidos : List (List UInt8)}
  {desplazamiento size n : ℤ}

/-! ### One turn -/

theorem memcpy_eq_some (h : memcpy buffer desplazamiento n = some bytes) :
    0 ≤ desplazamiento ∧ 0 ≤ n ∧ desplazamiento + n ≤ buffer.length ∧
      bytes = (buffer.drop desplazamiento.toNat).take n.toNat ∧ (bytes.length : ℤ) = n := by
  unfold memcpy at h
  split_ifs at h with hdentro
  obtain ⟨h0, hn, hle⟩ := hdentro
  cases h
  refine ⟨h0, hn, hle, rfl, ?_⟩
  rw [List.length_take, List.length_drop]
  omega

/-- What has been copied so far, and what is copied next. -/
theorem take_memcpy (h : memcpy buffer desplazamiento n = some bytes) :
    buffer.take (desplazamiento + n).toNat = buffer.take desplazamiento.toNat ++ bytes := by
  obtain ⟨h0, hn, -, rfl, -⟩ := memcpy_eq_some h
  rw [Int.toNat_add h0 hn, List.take_add]

/-- A turn gathers one more value, as `agregar_a_paquete` writes it. -/
theorem take_turno (hleidos : buffer.take desplazamiento.toNat = valoresEnBytes leidos)
    (hbytes : memcpy buffer desplazamiento 4 = some bytes)
    (hvalor : memcpy buffer (desplazamiento + 4) (intValue bytes) = some valor) :
    buffer.take (desplazamiento + 4 + intValue bytes).toNat =
      valoresEnBytes (leidos ++ [valor]) := by
  obtain ⟨-, -, -, -, hcuatro⟩ := memcpy_eq_some hbytes
  obtain ⟨-, -, -, -, htamanio⟩ := memcpy_eq_some hvalor
  have hint : intBytes valor.length = bytes := by
    rw [htamanio, intBytes_intValue (by omega)]
  rw [take_memcpy hvalor, take_memcpy hbytes, hleidos]
  simp [valoresEnBytes, hint]

theorem recorrer_vuelta (hlt : desplazamiento < size)
    (hbytes : memcpy buffer desplazamiento 4 = some bytes)
    (hvalor : memcpy buffer (desplazamiento + 4) (intValue bytes) = some valor) (n : ℕ) :
    recorrer buffer size (n + 1) desplazamiento leidos =
      recorrer buffer size n (desplazamiento + 4 + intValue bytes) (leidos ++ [valor]) := by
  rw [recorrer, if_pos hlt, hbytes, Option.bind_some]
  dsimp only
  rw [hvalor, Option.bind_some]

/-! ### The loop ends -/

/-- The fuel is never what stops the loop. -/
theorem recorrer_fuel {m k : ℕ} (hm : size - desplazamiento ≤ m) (hk : size - desplazamiento ≤ k) :
    recorrer buffer size (m + 1) desplazamiento leidos =
      recorrer buffer size (k + 1) desplazamiento leidos := by
  induction m generalizing k desplazamiento leidos with
  | zero =>
    have hfin : ¬ desplazamiento < size := by omega
    rw [recorrer, recorrer, if_neg hfin, if_neg hfin]
  | succ m ih =>
    by_cases hlt : desplazamiento < size
    · obtain ⟨k, rfl⟩ : ∃ j, k = j + 1 := ⟨k - 1, by omega⟩
      rw [recorrer, recorrer, if_pos hlt, if_pos hlt]
      cases hbytes : memcpy buffer desplazamiento 4 with
      | none => rfl
      | some bytes =>
        rw [Option.bind_some, Option.bind_some]
        dsimp only
        cases hvalor : memcpy buffer (desplazamiento + 4) (intValue bytes) with
        | none => rfl
        | some valor =>
          -- the turn has passed four bytes at least
          obtain ⟨-, htamanio, -⟩ := memcpy_eq_some hvalor
          exact ih (by omega) (by omega)
    · rw [recorrer, recorrer, if_neg hlt, if_neg hlt]

theorem Alcanza.nonneg (h : Alcanza buffer desplazamiento leidos) : 0 ≤ desplazamiento := by
  cases h with
  | inicio => exact le_rfl
  | vuelta _ _ hbytes hvalor =>
    obtain ⟨h0, -⟩ := memcpy_eq_some hbytes
    obtain ⟨-, htamanio, -⟩ := memcpy_eq_some hvalor
    omega

/-- From any offset that it comes to, the loop goes on to the same end. -/
theorem Alcanza.recorrer_eq (h : Alcanza buffer desplazamiento leidos) :
    recorrer buffer buffer.length (buffer.length + 1) desplazamiento leidos =
      recorrer buffer buffer.length (buffer.length + 1) 0 [] := by
  induction h with
  | inicio => rfl
  | vuelta h hlt hbytes hvalor ih =>
    obtain ⟨-, htamanio, -⟩ := memcpy_eq_some hvalor
    have h0 := h.nonneg
    obtain ⟨m, hm⟩ : ∃ m, m + 1 = buffer.length := ⟨buffer.length - 1, by omega⟩
    rw [← ih, recorrer_vuelta hlt hbytes hvalor]
    calc recorrer buffer buffer.length (buffer.length + 1) _ _ =
          recorrer buffer buffer.length (m + 1) _ _ := recorrer_fuel (by omega) (by omega)
      _ = recorrer buffer buffer.length buffer.length _ _ := by rw [hm]

/-- A size, or a value, that is not in the buffer. -/
def LecturaMala (buffer : List UInt8) (desplazamiento : ℤ) : Prop :=
  memcpy buffer desplazamiento 4 = none ∨
    ∃ bytes, memcpy buffer desplazamiento 4 = some bytes ∧
      memcpy buffer (desplazamiento + 4) (intValue bytes) = none

/-- A loop that does not come back meets one. -/
theorem Alcanza.lecturaMala {m : ℕ} (hd : Alcanza buffer desplazamiento leidos)
    (hm : buffer.length - desplazamiento ≤ m)
    (h : recorrer buffer buffer.length (m + 1) desplazamiento leidos = none) :
    ∃ d valores, Alcanza buffer d valores ∧ d < buffer.length ∧ LecturaMala buffer d := by
  induction m generalizing desplazamiento leidos with
  | zero =>
    rw [recorrer, if_neg (by omega)] at h
    cases h
  | succ m ih =>
    by_cases hlt : desplazamiento < buffer.length
    · cases hbytes : memcpy buffer desplazamiento 4 with
      | none => exact ⟨desplazamiento, leidos, hd, hlt, Or.inl hbytes⟩
      | some bytes =>
        cases hvalor : memcpy buffer (desplazamiento + 4) (intValue bytes) with
        | none => exact ⟨desplazamiento, leidos, hd, hlt, Or.inr ⟨bytes, hbytes, hvalor⟩⟩
        | some valor =>
          obtain ⟨-, htamanio, -⟩ := memcpy_eq_some hvalor
          rw [recorrer_vuelta hlt hbytes hvalor] at h
          exact ih (hd.vuelta hlt hbytes hvalor) (by omega) h
    · rw [recorrer, if_neg hlt] at h
      cases h

/-- **The loop ends**, unless it comes to a size or a value that is not in the buffer. -/
theorem recorrer_eq_none_iff :
    recorrer buffer buffer.length (buffer.length + 1) 0 [] = none ↔
      ∃ d valores, Alcanza buffer d valores ∧ d < buffer.length ∧ LecturaMala buffer d := by
  constructor
  · exact Alcanza.inicio.lecturaMala (by omega)
  · rintro ⟨d, valores, hd, hlt, hmala⟩
    rw [← hd.recorrer_eq, recorrer, if_pos hlt]
    rcases hmala with hbytes | ⟨bytes, hbytes, hvalor⟩
    · rw [hbytes]
      rfl
    · rw [hbytes, Option.bind_some]
      dsimp only
      rw [hvalor]
      rfl

/-! ### What is accepted -/

/-- The values gathered are those before the offset. -/
theorem recorrer_valores {m : ℕ} (h0 : 0 ≤ desplazamiento) (hle : desplazamiento ≤ buffer.length)
    (hleidos : buffer.take desplazamiento.toNat = valoresEnBytes leidos)
    (h : recorrer buffer buffer.length m desplazamiento leidos = some valores) :
    buffer = valoresEnBytes valores := by
  induction m generalizing desplazamiento leidos with
  | zero => cases h
  | succ m ih =>
    by_cases hlt : desplazamiento < buffer.length
    · cases hbytes : memcpy buffer desplazamiento 4 with
      | none =>
        rw [recorrer, if_pos hlt, hbytes] at h
        cases h
      | some bytes =>
        cases hvalor : memcpy buffer (desplazamiento + 4) (intValue bytes) with
        | none =>
          rw [recorrer, if_pos hlt, hbytes, Option.bind_some] at h
          dsimp only at h
          rw [hvalor] at h
          cases h
        | some valor =>
          obtain ⟨-, htamanio, hdentro, -⟩ := memcpy_eq_some hvalor
          rw [recorrer_vuelta hlt hbytes hvalor] at h
          exact ih (by omega) hdentro (take_turno hleidos hbytes hvalor) h
    · rw [recorrer, if_neg hlt] at h
      cases h
      rw [← hleidos, List.take_of_length_le (by omega)]

theorem valoresEnBytes_append (l l' : List (List UInt8)) :
    valoresEnBytes (l ++ l') = valoresEnBytes l ++ valoresEnBytes l' :=
  List.flatMap_append

/-- At the end of some of the values of a buffer, if it is not that of the buffer, stands the next
one. -/
theorem memcpy_siguiente {resto : List (List UInt8)}
    (hlen : (valoresEnBytes (leidos ++ resto)).length < 2 ^ 31)
    (hlt : (valoresEnBytes leidos).length < (valoresEnBytes (leidos ++ resto)).length) :
    ∃ siguiente resto', resto = siguiente :: resto' ∧ InRange siguiente.length ∧
      memcpy (valoresEnBytes (leidos ++ resto)) (valoresEnBytes leidos).length 4 =
        some (intBytes siguiente.length) ∧
      memcpy (valoresEnBytes (leidos ++ resto)) ((valoresEnBytes leidos).length + 4)
        siguiente.length = some siguiente := by
  cases resto with
  | nil =>
    rw [List.append_nil] at hlt
    exact absurd hlt (lt_irrefl _)
  | cons siguiente resto =>
    refine ⟨siguiente, resto, rfl, ⟨by omega, ?_⟩, ?_⟩
    · rw [valoresEnBytes_append, valoresEnBytes_cons] at hlen
      simp only [List.length_append] at hlen
      omega
    · rw [valoresEnBytes_append, valoresEnBytes_cons]
      exact memcpy_valor _ _ _

/-- The offsets that the loop comes to in a buffer of values are their ends. -/
theorem Alcanza.entreValores (hlen : (valoresEnBytes valores).length < 2 ^ 31)
    (h : Alcanza (valoresEnBytes valores) desplazamiento leidos) :
    ∃ resto, valores = leidos ++ resto ∧ desplazamiento = (valoresEnBytes leidos).length := by
  induction h with
  | inicio => exact ⟨valores, rfl, rfl⟩
  | @vuelta d leidos bytes valor h hlt hbytes hvalor ih =>
    obtain ⟨resto, rfl, rfl⟩ := ih
    obtain ⟨siguiente, resto, rfl, hrange, hsize, hsiguiente⟩ :=
      memcpy_siguiente hlen (by exact_mod_cast hlt)
    rw [hsize] at hbytes
    cases hbytes
    rw [intValue_intBytes hrange] at hvalor ⊢
    rw [hsiguiente] at hvalor
    cases hvalor
    refine ⟨resto, by rw [List.append_assoc]; rfl, ?_⟩
    rw [valoresEnBytes_append, valoresEnBytes_cons, valoresEnBytes_nil, List.append_nil,
      List.length_append, List.length_append, intBytes_length]
    push_cast
    ring

/-- What the loop reads in a buffer of values is right. -/
theorem Alcanza.lectura (hlen : (valoresEnBytes valores).length < 2 ^ 31)
    (h : Alcanza (valoresEnBytes valores) desplazamiento leidos)
    (hlt : desplazamiento < (valoresEnBytes valores).length) :
    ∃ siguiente : List UInt8, InRange siguiente.length ∧
      memcpy (valoresEnBytes valores) desplazamiento 4 = some (intBytes siguiente.length) ∧
      memcpy (valoresEnBytes valores) (desplazamiento + 4) siguiente.length = some siguiente := by
  obtain ⟨resto, rfl, rfl⟩ := h.entreValores hlen
  obtain ⟨siguiente, -, -, hlectura⟩ := memcpy_siguiente hlen (by exact_mod_cast hlt)
  exact ⟨siguiente, hlectura⟩

/-- What the values and their sizes take up. -/
theorem sum_valoresEnBytes (valores : List (List UInt8)) :
    (valores.map fun valor => valor.length + 4).sum = (valoresEnBytes valores).length := by
  induction valores with
  | nil => rfl
  | cons valor valores ih =>
    rw [List.map_cons, List.sum_cons, ih, valoresEnBytes_cons, List.length_append,
      List.length_append, intBytes_length]
    omega

/-- A packet is accepted when its loop comes to the end of the buffer. -/
theorem recibirPaquete_frame (hlen : buffer.length < 2 ^ 31) (resto : List UInt8) :
    recibirPaquete (intBytes buffer.length ++ buffer ++ resto) =
      (recorrer buffer buffer.length (buffer.length + 1) 0 []).map fun valores =>
        (valores, resto) := by
  unfold recibirPaquete
  rw [reads_recibirBuffer hlen resto]
  rfl

/-- It is right on the values that `agregar_a_paquete` puts in a buffer. -/
theorem decodifica_valoresEnBytes (hlen : (valoresEnBytes valores).length < 2 ^ 31) :
    Decodifica (valoresEnBytes valores) where
  enBuffer _ _ h hlt := by
    obtain ⟨siguiente, -, hsize, -⟩ := h.lectura hlen hlt
    obtain ⟨h0, -, hle, -⟩ := memcpy_eq_some hsize
    exact ⟨h0, hle⟩
  noNegativo _ _ bytes h hlt hbytes := by
    obtain ⟨siguiente, hrange, hsize, hsiguiente⟩ := h.lectura hlen hlt
    rw [hsize] at hbytes
    cases hbytes
    obtain ⟨-, h0, hle, -⟩ := memcpy_eq_some hsiguiente
    rw [intValue_intBytes hrange]
    exact ⟨h0, hle⟩
  termina := ⟨valores, reads_recibirPaquete hlen⟩
  suman leidos resto resto' h := by
    rw [reads_recibirPaquete hlen] at h
    cases h
    exact sum_valoresEnBytes valores

/-- **When the decoder is right on a buffer**: exactly when the buffer is one that
`agregar_a_paquete` can build, values one after another with their sizes, up to its end. -/
theorem decodifica_iff (buffer : List UInt8) (hlen : buffer.length < 2 ^ 31) :
    Decodifica buffer ↔ ∃ valores, buffer = valoresEnBytes valores := by
  constructor
  · intro h
    obtain ⟨valores, htermina⟩ := h.termina
    have hnil := htermina []
    rw [recibirPaquete_frame hlen, Option.map_eq_some_iff] at hnil
    obtain ⟨leidos, hleidos, -⟩ := hnil
    exact ⟨leidos, recorrer_valores le_rfl (by omega) rfl hleidos⟩
  · rintro ⟨valores, rfl⟩
    exact decodifica_valoresEnBytes hlen

/-- A buffer with a value of two bytes and an empty one. -/
theorem decodifica_dos : Decodifica [2, 0, 0, 0, 7, 8, 0, 0, 0, 0] :=
  (decodifica_iff [2, 0, 0, 0, 7, 8, 0, 0, 0, 0] (by decide)).2 ⟨[[7, 8], []], by decide⟩

/-- **A size that is negative, one that is larger than the rest, and one that is cut off**: the first
makes an allocation of a negative size, and the others a read past the end of the buffer. -/
theorem decodifica_no :
    (Alcanza [255, 255, 255, 255] 0 [] ∧ memcpy [255, 255, 255, 255] 0 4 =
        some [255, 255, 255, 255] ∧ intValue [255, 255, 255, 255] = -1) ∧
      ¬ Decodifica [255, 255, 255, 255] ∧ ¬ Decodifica [5, 0, 0, 0, 7] ∧ ¬ Decodifica [1, 0] := by
  refine ⟨⟨.inicio, by decide, by decide⟩, fun h => ?_, fun h => ?_, fun h => ?_⟩
  · obtain ⟨h0, -⟩ := h.noNegativo 0 [] [255, 255, 255, 255] .inicio (by decide) (by decide)
    exact absurd h0 (by decide)
  · obtain ⟨-, hle⟩ := h.noNegativo 0 [] [5, 0, 0, 0] .inicio (by decide) (by decide)
    exact absurd hle (by decide)
  · obtain ⟨-, hle⟩ := h.enBuffer 0 [] .inicio (by decide)
    exact absurd hle (by decide)

end SimuladorSO.Utils
