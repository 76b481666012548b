import SimuladorSO.Sistema.Dispositivos

/-!
# From memoria to a file and back

A process writes bytes of its memory in a file, and a process, the same or another, reads them into
its own.  In between memoria and the interfaces do other things: processes are created, grow and
write, files are created, deleted, resized, which may compact the disk, and written elsewhere.

* `Guarda`: a range of a file holds some bytes; the operations that keep it so;
* `Respeta`: the steps that leave a range of a file alone, `Guarda.run`;
* `archivo_ida_y_vuelta`: the bytes come back.
-/

namespace SimuladorSO.DialFS

open Extents

variable {c : InoutConfig} {m : Almacen} {x n : Cadena} {puntero : ℤ} {bytes : List UInt8}

/-- The file has the bytes from the pointer on. -/
structure Guarda (m : Almacen) (x : Cadena) (puntero : ℤ) (bytes : List UInt8) : Prop where
  existe : x ∈ m.nombres
  desde : 0 ≤ puntero
  hasta : puntero + bytes.length ≤ (m.contenido x).length
  igual : ∀ k < bytes.length, (m.contenido x).getD (puntero.toNat + k) 0 = bytes.getD k 0

theorem Guarda.crear (h : Guarda m x puntero bytes) (n : Cadena) :
    Guarda (m.crear c n) x puntero bytes := by
  unfold Almacen.crear
  split_ifs with hcrea
  · have hne : x ≠ n := fun heq => hcrea.1 (heq ▸ h.existe)
    have hcontenido : (m.poner n []).contenido x = m.contenido x := Function.update_of_ne hne _ _
    refine ⟨Finset.mem_insert_of_mem h.existe, h.desde, ?_, fun k hk => ?_⟩
    · show _ ≤ (((m.poner n []).contenido x).length : ℤ)
      rw [hcontenido]
      exact h.hasta
    · show ((m.poner n []).contenido x).getD _ 0 = _
      rw [hcontenido]
      exact h.igual k hk
  · exact h

theorem Guarda.borrar (h : Guarda m x puntero bytes) (hn : n ≠ x) :
    Guarda (m.borrar n) x puntero bytes :=
  ⟨Finset.mem_erase.2 ⟨hn.symm, h.existe⟩, h.desde, h.hasta, h.igual⟩

/-- The content of one file is replaced by one that has the bytes, if it is this one. -/
theorem Guarda.poner (h : Guarda m x puntero bytes) {contenido : List UInt8}
    (hasta : n = x → puntero + bytes.length ≤ contenido.length)
    (igual : n = x → ∀ k < bytes.length,
      contenido.getD (puntero.toNat + k) 0 = (m.contenido x).getD (puntero.toNat + k) 0) :
    Guarda (m.poner n contenido) x puntero bytes := by
  by_cases hn : n = x
  · have hcontenido : (m.poner n contenido).contenido x = contenido := by
      rw [hn]
      exact Function.update_self x _ _
    refine ⟨h.existe, h.desde, ?_, fun k hk => ?_⟩
    · rw [hcontenido]
      exact hasta hn
    · rw [hcontenido, igual hn k hk, h.igual k hk]
  · have hcontenido : (m.poner n contenido).contenido x = m.contenido x :=
      Function.update_of_ne (Ne.symm hn) _ _
    refine ⟨h.existe, h.desde, ?_, fun k hk => ?_⟩
    · rw [hcontenido]
      exact h.hasta
    · rw [hcontenido]
      exact h.igual k hk

theorem Guarda.truncar (h : Guarda m x puntero bytes) {t : ℤ}
    (ht : n = x → puntero + bytes.length ≤ t) : Guarda (m.truncar c n t) x puntero bytes := by
  have h0 := h.desde
  unfold Almacen.truncar
  split_ifs with hno
  · exact h
  · refine h.poner (fun hn => ?_) fun hn k hk => ?_
    · have hle := ht hn
      rw [length_resize]
      omega
    · have hle := ht hn
      rw [getD_resize, if_pos (by omega), hn]

theorem Guarda.escribir (h : Guarda m x puntero bytes) {tamanio desde : ℤ} {mensaje : List UInt8}
    (hdesde : 0 ≤ desde) (hlen : (mensaje.length : ℤ) = tamanio)
    (haparte : n = x → desde + tamanio ≤ puntero ∨ puntero + bytes.length ≤ desde) :
    Guarda (m.escribir n tamanio desde mensaje) x puntero bytes := by
  have h0 := h.desde
  unfold Almacen.escribir
  split_ifs with hcabe
  · have hsplice : desde.toNat + mensaje.length ≤ (m.contenido n).length := by omega
    refine h.poner (fun hn => ?_) fun hn k hk => ?_
    · rw [length_splice hsplice, hn]
      exact h.hasta
    · have haparte := haparte hn
      rw [getD_splice hsplice, if_neg (by omega), hn]
  · exact h

/-- The bytes that have just been written. -/
theorem Guarda.of_escribir (hx : x ∈ m.nombres) (h0 : 0 ≤ puntero)
    (hcabe : puntero + bytes.length ≤ (m.contenido x).length) :
    Guarda (m.escribir x bytes.length puntero bytes) x puntero bytes := by
  have hsplice : puntero.toNat + bytes.length ≤ (m.contenido x).length := by omega
  have hcontenido : (m.escribir x bytes.length puntero bytes).contenido x =
      splice puntero.toNat bytes (m.contenido x) := by
    unfold Almacen.escribir
    rw [if_pos hcabe]
    exact Function.update_self x _ _
  refine ⟨?_, h0, ?_, fun k hk => ?_⟩
  · unfold Almacen.escribir
    rw [if_pos hcabe]
    exact hx
  · rw [hcontenido, length_splice hsplice]
    exact hcabe
  · rw [hcontenido, getD_splice hsplice, if_pos (by omega), Nat.add_sub_cancel_left]

/-- The string of a read of the range begins with the bytes, when none is a zero. -/
theorem Guarda.texto (h : Guarda m x puntero bytes) (hceros : 0 ∉ bytes) (resto : List UInt8) :
    ∃ cola, m.texto x bytes.length puntero resto = bytes ++ cola := by
  have h0 := h.desde
  have hhasta := h.hasta
  have hrango : ((m.contenido x).drop puntero.toNat).take bytes.length = bytes := by
    apply List.ext_getElem
    · simp
      omega
    · intro k h1 h2
      have higual := h.igual k h2
      rw [List.getD_eq_getElem _ _ (by omega), List.getD_eq_getElem _ _ h2] at higual
      rw [List.getElem_take, List.getElem_drop]
      exact higual
  unfold Almacen.texto
  rw [Int.toNat_natCast, hrango, List.takeWhile_append_of_pos]
  · exact ⟨_, rfl⟩
  · intro b hb
    simpa using fun hcero : b = 0 => hceros (hcero ▸ hb)

end SimuladorSO.DialFS

namespace SimuladorSO.Sistema

open CInt Commons Transitions
open DialFS (Pedido Almacen Guarda)
open Memoria (MemoriaConfiguracion Plana)

variable {cfg : MemoriaConfiguracion} {c : ℕ → DialFS.InoutConfig} {u : Usuarios} {x : Equipo}
  {i : ℕ} {nombre : Cadena} {puntero : ℤ} {bytes : List UInt8}

/-! ### The steps in between -/

/-- A request that leaves a range of a file alone. -/
def RespetaRango (nombre : Cadena) (puntero tamanio : ℤ) : Pedido → Prop
  | .fsDelete otro => otro ≠ nombre
  | .fsTruncate otro t => otro = nombre → puntero + tamanio ≤ t
  | .fsWrite otro _ n desde =>
    otro = nombre → desde + n ≤ puntero ∨ puntero + tamanio ≤ desde
  | _ => True

/-- A step that leaves a range of a file of the interface `i` alone. -/
def Respeta (i : ℕ) (nombre : Cadena) (puntero tamanio : ℤ) (u : Usuarios) : Orden → Prop
  | .atender j _ _ => j = i → ∀ q ∈ (u.colas i).head?, RespetaRango nombre puntero tamanio q.2
  | _ => True

instance (nombre : Cadena) (puntero tamanio : ℤ) :
    (p : Pedido) → Decidable (RespetaRango nombre puntero tamanio p)
  | .fsDelete _ => inferInstanceAs (Decidable (_ ≠ _))
  | .fsTruncate _ _ => inferInstanceAs (Decidable (_ → _))
  | .fsWrite _ _ _ _ => inferInstanceAs (Decidable (_ → _ ∨ _))
  | .genSleep _ => isTrue trivial
  | .stdinRead _ _ => isTrue trivial
  | .stdoutWrite _ _ => isTrue trivial
  | .fsCreate _ => isTrue trivial
  | .fsRead _ _ _ _ => isTrue trivial

instance (i : ℕ) (nombre : Cadena) (puntero tamanio : ℤ) (u : Usuarios) :
    (o : Orden) → Decidable (Respeta i nombre puntero tamanio u o)
  | .atender _ _ _ => inferInstanceAs (Decidable (_ → ∀ q ∈ (u.colas i).head?, _))
  | .accion _ => isTrue trivial
  | .pedir _ _ _ => isTrue trivial

/-- A request that is handled by the interface keeps the bytes of a range that it leaves alone. -/
theorem guarda_atender {m : Memoria.Estado} {leido : Option (List UInt8)} {resto : List UInt8}
    {pid : ℤ} {p : Pedido} (h : Guarda (u.archivos i) nombre puntero bytes)
    (hatendible : Atendible cfg c u m i leido resto pid p)
    (hrespeta : RespetaRango nombre puntero bytes.length p) :
    Guarda ((u.atender c i leido resto pid p).archivos i) nombre puntero bytes := by
  have hpropio : ∀ a : Almacen, (u.conArchivos i a).archivos i = a := by
    intro a
    show Function.update u.archivos i a i = a
    rw [Function.update_self]
  cases p with
  | genSleep unidades => exact h
  | stdinRead l n => exact h
  | stdoutWrite l n => exact h
  | fsRead otro l n desde => exact h
  | fsCreate otro =>
    show Guarda ((u.conArchivos i _).archivos i) nombre puntero bytes
    rw [hpropio]
    exact h.crear otro
  | fsDelete otro =>
    show Guarda ((u.conArchivos i _).archivos i) nombre puntero bytes
    rw [hpropio]
    exact h.borrar hrespeta
  | fsTruncate otro t =>
    show Guarda ((u.conArchivos i _).archivos i) nombre puntero bytes
    rw [hpropio]
    exact h.truncar hrespeta
  | fsWrite otro l n desde =>
    show Guarda ((u.conArchivos i _).archivos i) nombre puntero bytes
    rw [hpropio]
    obtain ⟨⟨-, hdesde, -, -, hlen⟩, -⟩ := hatendible
    exact h.escribir hdesde hlen hrespeta

/-- The other interfaces keep their files. -/
theorem archivos_atender {leido : Option (List UInt8)} {resto : List UInt8} {pid : ℤ} {p : Pedido}
    {j : ℕ} (hj : j ≠ i) : (u.atender c j leido resto pid p).archivos i = u.archivos i := by
  cases p with
  | genSleep unidades => rfl
  | stdinRead l n => rfl
  | stdoutWrite l n => rfl
  | fsRead otro l n desde => rfl
  | fsCreate otro => exact Function.update_of_ne hj.symm _ _
  | fsDelete otro => exact Function.update_of_ne hj.symm _ _
  | fsTruncate otro t => exact Function.update_of_ne hj.symm _ _
  | fsWrite otro l n desde => exact Function.update_of_ne hj.symm _ _

/-- One step keeps the bytes of a range that it leaves alone. -/
theorem guarda_paso {o : Orden} (h : Guarda (u.archivos i) nombre puntero bytes)
    (hadm : Admite cfg c (u, x) o) (hrespeta : Respeta i nombre puntero bytes.length u o) :
    Guarda ((u.aplicar c o).archivos i) nombre puntero bytes := by
  cases o with
  | accion a => exact h
  | pedir j pid p => exact h
  | atender j leido resto =>
    have hadm : AtendibleCola cfg c u x.memoria j leido resto (u.colas j) := hadm
    cases hcola : u.colas j with
    | nil =>
      rw [hcola] at hadm
      exact hadm.elim
    | cons q cola =>
      obtain ⟨pid, p⟩ := q
      rw [hcola] at hadm
      rw [aplicar_atender hcola]
      by_cases hj : j = i
      · subst hj
        have hrango : RespetaRango nombre puntero bytes.length p :=
          hrespeta rfl (pid, p) (by rw [hcola]; rfl)
        exact guarda_atender (u := { u with colas := Function.update u.colas j cola }) h hadm hrango
      · rw [archivos_atender hj]
        exact h

/-- So do the steps of a run. -/
theorem guarda_run {os : List Orden} (h : Guarda (u.archivos i) nombre puntero bytes)
    (hadm : Admits (paired (Usuarios.aplicar c) (pasoEquipo cfg c)) (Admite cfg c) (u, x) os)
    {y : Equipo} (hrun : run (pasoEquipo cfg c) x os = some y)
    (hrespeta : Allowed (Usuarios.aplicar c) (Respeta i nombre puntero bytes.length) u os) :
    Guarda ((os.foldl (Usuarios.aplicar c) u).archivos i) nombre puntero bytes := by
  induction os generalizing u x with
  | nil => exact h
  | cons o os ih =>
    obtain ⟨z, hz, hrest⟩ := run_cons_eq_some.1 hrun
    have hpar : paired (Usuarios.aplicar c) (pasoEquipo cfg c) (u, x) o =
        some (u.aplicar c o, z) := by
      rw [paired, hz]
      rfl
    exact ih (guarda_paso h hadm.1 hrespeta.1) (hadm.2 _ hpar) hrest hrespeta.2

/-! ### There and back -/

/-- What is written in the memory of a process. -/
theorem poner_eq {p : Plana} {pid l : ℤ} {texto : List UInt8} {k : ℕ} (hk : k < texto.length) :
    poner p pid l texto (pid, l + k) = some (texto.getD k 0) := by
  show (if (pid, l + (k : ℤ)) ∈ Memoria.rango pid l texto.length then _ else _) = _
  rw [if_pos ⟨rfl, by dsimp only; omega, by dsimp only; omega⟩]
  congr 2
  show (l + (k : ℤ) - l).toNat = k
  omega

/-- A byte of a range without zeros has been written. -/
theorem plana_of_bytesDe {p : Plana} {pid l n : ℤ} (hceros : 0 ∉ bytesDe p pid l n) {k : ℕ}
    (hk : k < n.toNat) : p (pid, l + k) = some ((bytesDe p pid l n).getD k 0) := by
  have hbyte : (bytesDe p pid l n).getD k 0 = (p (pid, l + k)).getD 0 := by
    rw [List.getD_eq_getElem _ _ (by rw [length_bytesDe]; exact hk)]
    simp [bytesDe]
  rw [hbyte]
  cases hp : p (pid, l + k) with
  | none =>
    refine absurd (List.mem_map.2 ⟨k, List.mem_range.2 hk, ?_⟩) hceros
    rw [hp]
    rfl
  | some b => rfl

/-- The state of both sides after a run. -/
theorem admits_tras {os os' : List Orden} {y : Equipo}
    (hadm : Admits (paired (Usuarios.aplicar c) (pasoEquipo cfg c)) (Admite cfg c) (u, x)
      (os ++ os')) (hrun : run (pasoEquipo cfg c) x os = some y) :
    Admits (paired (Usuarios.aplicar c) (pasoEquipo cfg c)) (Admite cfg c)
      (os.foldl (Usuarios.aplicar c) u, y) os' :=
  hadm.append.2 _ (by rw [run_paired, hrun]; rfl)

/-- **A file gives back what was written in it.**  A process has asked to write `n` bytes of its
memory in a file that has room for them, and the interface does it; later a process has asked to read
them, and the interface does it.  If what happened in between leaves that range of the file alone,
the bytes of the second process are then those that the first one had when they were written:
whatever the processes do to their memories, and to the other files and the rest of this one, and
wherever the compactions move it. -/
theorem archivo_ida_y_vuelta (cfg : MemoriaConfiguracion) (c : ℕ → DialFS.InoutConfig)
    (hc : ∀ i, (c i).Valida) (espacio : ℤ → UInt8) (antes medio : List Orden) (i : ℕ)
    (leido leido' : Option (List UInt8)) (resto resto' : List UInt8) (nombre : Cadena)
    (pid pid' l l' n puntero : ℤ) (cola cola' : List (ℤ × Pedido))
    (hadm : Admits (paired (Usuarios.aplicar c) (pasoEquipo cfg c)) (Admite cfg c)
      (Usuarios.inicial, Equipo.inicial c espacio)
      (antes ++ .atender i leido resto :: (medio ++ [.atender i leido' resto'])))
    (hescribe : (antes.foldl (Usuarios.aplicar c) Usuarios.inicial).colas i =
      (pid, .fsWrite nombre l n puntero) :: cola)
    (hcabe : puntero + n ≤
      (((antes.foldl (Usuarios.aplicar c) Usuarios.inicial).archivos i).contenido nombre).length)
    (hmedio : Allowed (Usuarios.aplicar c) (Respeta i nombre puntero n)
      ((antes ++ [Orden.atender i leido resto]).foldl (Usuarios.aplicar c) Usuarios.inicial) medio)
    (hlee : ((antes ++ .atender i leido resto :: medio).foldl (Usuarios.aplicar c)
      Usuarios.inicial).colas i = (pid', .fsRead nombre l' n puntero) :: cola') :
    ∃ x y, run (pasoEquipo cfg c) (Equipo.inicial c espacio) antes = some x ∧
      run (pasoEquipo cfg c) (Equipo.inicial c espacio)
        (antes ++ .atender i leido resto :: (medio ++ [.atender i leido' resto'])) = some y ∧
      ∀ k : ℕ, k < n.toNat →
        y.memoria.espacioMemoria (Memoria.direccionFisica cfg y.memoria pid' (l' + k)) =
          x.memoria.espacioMemoria (Memoria.direccionFisica cfg x.memoria pid (l + k)) := by
  -- before the write
  obtain ⟨x, hx, hrx⟩ := (Representa.inicial cfg c espacio).run hc hadm.append.1
  have hadm₁ := admits_tras hadm hx
  obtain ⟨u, hu⟩ : ∃ u, antes.foldl (Usuarios.aplicar c) Usuarios.inicial = u := ⟨_, rfl⟩
  rw [List.foldl_append] at hmedio hlee
  rw [hu] at hrx hadm₁ hescribe hcabe hmedio hlee
  have hatendible : AtendibleCola cfg c u x.memoria i leido resto (u.colas i) := hadm₁.1
  rw [hescribe] at hatendible
  obtain ⟨⟨hn, h0, ht, -, -⟩, hceros⟩ := hatendible
  have hceros := (hceros hcabe).2
  have hlargo : ((bytesDe u.plana pid l n).length : ℤ) = n := by
    rw [length_bytesDe]
    omega
  -- the write, and what is in between
  have hguarda : Guarda ((u.aplicar c (.atender i leido resto)).archivos i) nombre puntero
      (bytesDe u.plana pid l n) := by
    rw [aplicar_atender hescribe]
    show Guarda (Function.update u.archivos i _ i) nombre puntero _
    rw [Function.update_self]
    have hcabe' : puntero + (bytesDe u.plana pid l n).length ≤
        ((u.archivos i).contenido nombre).length := by
      rw [hlargo]
      exact hcabe
    have hescrito := Guarda.of_escribir hn h0 hcabe'
    rw [hlargo] at hescrito
    exact hescrito
  obtain ⟨z, hz, hrz⟩ := hrx.paso hc hadm₁.1
  have hadm₂ := hadm₁.2 (u.aplicar c (Orden.atender i leido resto), z) (by rw [paired, hz]; rfl)
  obtain ⟨w, hw, hrw⟩ := hrz.run hc hadm₂.append.1
  have hadm₃ := admits_tras hadm₂ hw
  have hguarda' := guarda_run hguarda hadm₂.append.1 hw (by rw [hlargo]; exact hmedio)
  -- the read
  obtain ⟨v, hv⟩ : ∃ v, medio.foldl (Usuarios.aplicar c)
      (u.aplicar c (.atender i leido resto)) = v := ⟨_, rfl⟩
  rw [List.foldl_cons] at hlee
  rw [hv] at hrw hadm₃ hguarda' hlee
  obtain ⟨y, hy, hry⟩ := hrw.paso hc hadm₃.1
  refine ⟨x, y, hx, ?_, fun k hk => ?_⟩
  · rw [run_append, hx, Option.bind_some, run_cons, hz, Option.bind_some, run_append, hw,
      Option.bind_some, run_cons, hy]
    rfl
  obtain ⟨sigue, htexto⟩ := hguarda'.texto hceros resto'
  rw [hlargo] at htexto
  have hplana : (v.aplicar c (.atender i leido' resto')).plana (pid', l' + k) =
      some ((bytesDe u.plana pid l n).getD k 0) := by
    have hk' : k < (bytesDe u.plana pid l n).length := by
      rw [length_bytesDe]
      exact hk
    rw [aplicar_atender hlee]
    show poner v.plana pid' l' ((v.archivos i).texto nombre n puntero resto') (pid', l' + k) = _
    rw [htexto, poner_eq (by rw [List.length_append]; omega), List.getD_append _ _ _ _ hk']
  rw [hry.byte hplana, hrx.byte (plana_of_bytesDe hceros hk)]

/-- Two processes ask for a file of two bytes, for a write of it by the first, for another file and
for more room in the first file, and the second reads it. -/
def pedidosDeDos : List Orden :=
  [.accion (.crear [] 1), .accion (.crear [] 2), .accion (.crecer 1 16), .accion (.crecer 2 16),
    .accion (.escribir 1 0 2 [5, 6]), .pedir 0 1 (.fsCreate ['a']), .pedir 0 1 (.fsTruncate ['a'] 2),
    .pedir 0 1 (.fsWrite ['a'] 0 2 0), .pedir 0 2 (.fsCreate ['b']),
    .pedir 0 2 (.fsTruncate ['a'] 4), .pedir 0 2 (.fsRead ['a'] 8 2 0), .atender 0 none [],
    .atender 0 none []]

/-- In between the first process writes over its bytes, and the file is moved by a compaction. -/
theorem archivo_ida_y_vuelta_compactado :
    ∃ x y, run (pasoEquipo Memoria.cfgCuatroMarcos fun _ => ⟨['F'], 2, 8⟩)
        (Equipo.inicial (fun _ => ⟨['F'], 2, 8⟩) fun _ => 7) pedidosDeDos = some x ∧
      run (pasoEquipo Memoria.cfgCuatroMarcos fun _ => ⟨['F'], 2, 8⟩)
        (Equipo.inicial (fun _ => ⟨['F'], 2, 8⟩) fun _ => 7)
        (pedidosDeDos ++ .atender 0 none [] :: ([.accion (.escribir 1 0 2 [9, 9]),
          .atender 0 none [], .atender 0 none []] ++ [.atender 0 none []])) = some y ∧
      ∀ k : ℕ, k < (2 : ℤ).toNat →
        y.memoria.espacioMemoria
            (Memoria.direccionFisica Memoria.cfgCuatroMarcos y.memoria 2 (8 + k)) =
          x.memoria.espacioMemoria
            (Memoria.direccionFisica Memoria.cfgCuatroMarcos x.memoria 1 (0 + k)) :=
  archivo_ida_y_vuelta Memoria.cfgCuatroMarcos (fun _ => ⟨['F'], 2, 8⟩)
    (fun _ => ⟨by decide, by decide, by decide, by decide⟩) (fun _ => 7) pedidosDeDos
    [.accion (.escribir 1 0 2 [9, 9]), .atender 0 none [], .atender 0 none []] 0 none none [] []
    ['a'] 1 2 0 8 2 0 [(2, .fsCreate ['b']), (2, .fsTruncate ['a'] 4), (2, .fsRead ['a'] 8 2 0)] []
    (by decide +kernel) (by decide +kernel) (by decide +kernel) (by decide +kernel)
    (by decide +kernel)

end SimuladorSO.Sistema
