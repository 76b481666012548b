import SimuladorSO.Cpu.Efectos
import SimuladorSO.Library.Lines
import SimuladorSO.Memoria.Estado

/-!
# The lines of a script

`ejecutar_script` reads the file with `fgets` and a buffer of 100 characters, and stores what each
read brought.  The program counters and the targets of JNZ are indices of that list.

* `fgets_linea`, `fgets_corta`, `fgets_larga`: what one read takes;
* `lineasDe_eq_iff`, `lineasDe_prefix_iff`: when the reads are the lines, and when the lines are the
  first reads;
* `ejecutarScript_lineas_iff`: when the process gets the lines of its file.

A file has no character 0 here, as a C string.
-/

namespace SimuladorSO.Sistema

open CInt Commons Cpu Dictionary Lines Memoria

/-- The lines of a file. -/
def lineas (archivo : Cadena) : List Cadena := lines '\n' archivo

/-- The lines that end in a newline have 98 characters at most, and what follows the last newline
99. -/
def LineasCaben (archivo : Cadena) : Prop :=
  (∀ l ∈ (archivo.splitOn '\n').dropLast, l.length ≤ 98) ∧
    ∀ l ∈ (archivo.splitOn '\n').getLast?, l.length ≤ 99

/-- The lines have 99 characters at most, and those before one that is not empty 98. -/
def LineasCortas (ls : List Cadena) : Prop :=
  (∀ l ∈ ls, l.length ≤ 99) ∧ ls.Pairwise fun l l' => l' ≠ [] → l.length ≤ 98

/-- Memoria answers each program counter with its line, and JNZ goes to the line that it names. -/
structure ContestaLineas (m : Memoria.Estado) (archivo : Cadena) (pid : ℤ) : Prop where
  instruccion : ∀ (pc : ℕ) (l : Cadena), (lineas archivo)[pc]? = some l →
    enviarInstruccion (ejecutarScript m archivo pid) pid pc = some [.paquete (.linea l)]
  salto : ∀ (c : Efectos.Contexto) (registro destino : Cadena) (pc : ℕ) (l : Cadena),
    obtenerValor c.registros registro ≠ 0 → atoi destino = pc → (lineas archivo)[pc]? = some l →
    enviarInstruccion (ejecutarScript m archivo pid) pid
      (int32 (Efectos.jnz c registro destino).pc.toNat) = some [.paquete (.linea l)]

/-- Besides, the list that is stored is that of the lines. -/
structure ConservaLineas (m : Memoria.Estado) (archivo : Cadena) (pid : ℤ) : Prop
    extends ContestaLineas m archivo pid where
  lista : get (ejecutarScript m archivo pid).diccionarioInstrucciones pid = some (lineas archivo)

variable {archivo l resto : Cadena} {n fuel : ℕ} {ls : List Cadena}

/-! ### One read -/

/-- A line that fits, with its newline. -/
theorem fgets_linea (h : '\n' ∉ l) (hn : l.length < n) (resto : Cadena) :
    fgets n (l ++ '\n' :: resto) = (l ++ ['\n'], resto) := by
  induction l generalizing n with
  | nil =>
    obtain ⟨n, rfl⟩ : ∃ k, n = k + 1 := ⟨n - 1, by simp at hn; omega⟩
    rfl
  | cons c l ih =>
    obtain ⟨n, rfl⟩ : ∃ k, n = k + 1 := ⟨n - 1, by simp at hn; omega⟩
    obtain ⟨hc, hl⟩ := not_or.1 (mt List.mem_cons.2 h)
    rw [List.cons_append, fgets, if_neg (Ne.symm hc), ih hl (by simp at hn; omega)]
    rfl

/-- The end of the file, without a newline. -/
theorem fgets_corta (h : '\n' ∉ l) (hn : l.length ≤ n) : fgets n l = (l, []) := by
  induction l generalizing n with
  | nil => cases n <;> rfl
  | cons c l ih =>
    obtain ⟨n, rfl⟩ : ∃ k, n = k + 1 := ⟨n - 1, by simp at hn; omega⟩
    obtain ⟨hc, hl⟩ := not_or.1 (mt List.mem_cons.2 h)
    rw [fgets, if_neg (Ne.symm hc), ih hl (by simp at hn; omega)]

/-- A line that does not fit: the buffer is filled. -/
theorem fgets_larga (h : '\n' ∉ l) (hn : n ≤ l.length) (resto : Cadena) :
    fgets n (l ++ resto) = (l.take n, l.drop n ++ resto) := by
  induction l generalizing n with
  | nil =>
    obtain rfl : n = 0 := by simpa using hn
    rfl
  | cons c l ih =>
    cases n with
    | zero => rfl
    | succ n =>
      obtain ⟨hc, hl⟩ := not_or.1 (mt List.mem_cons.2 h)
      rw [List.cons_append, fgets, if_neg (Ne.symm hc), ih hl (by simpa using hn)]
      rfl

/-! ### The reads of a file -/

@[simp] theorem lineasDe_nil (fuel : ℕ) : lineasDe fuel [] = [] := by
  cases fuel <;> rfl

theorem lineasDe_succ (h : archivo ≠ []) (fuel : ℕ) :
    lineasDe (fuel + 1) archivo =
      ((fgets 99 archivo).1.takeWhile fun c => c ≠ '\n') :: lineasDe fuel (fgets 99 archivo).2 := by
  cases archivo with
  | nil => exact absurd rfl h
  | cons c archivo => rfl

theorem takeWhile_sin_newline (h : '\n' ∉ l) (resto : Cadena) :
    (l ++ '\n' :: resto).takeWhile (fun c => c ≠ '\n') = l ∧
      l.takeWhile (fun c => c ≠ '\n') = l := by
  have hl : ∀ c ∈ l, decide (c ≠ '\n') = true := fun c hc =>
    decide_eq_true fun heq => h (heq ▸ hc)
  constructor
  · rw [List.takeWhile_append_of_pos hl]
    simp
  · exact List.takeWhile_eq_self_iff.2 hl

theorem lineasDe_linea (h : '\n' ∉ l) (hl : l.length ≤ 98) (resto : Cadena) (fuel : ℕ) :
    lineasDe (fuel + 1) (l ++ '\n' :: resto) = l :: lineasDe fuel resto := by
  rw [lineasDe_succ (by simp), fgets_linea h (by omega), (takeWhile_sin_newline h []).1]

theorem lineasDe_corta (h : '\n' ∉ l) (hl : l.length ≤ 99) (hne : l ≠ []) (fuel : ℕ) :
    lineasDe (fuel + 1) l = [l] := by
  rw [lineasDe_succ hne, fgets_corta h hl, (takeWhile_sin_newline h []).2, lineasDe_nil]

theorem lineasDe_larga (h : '\n' ∉ l) (hl : 99 ≤ l.length) (resto : Cadena) (fuel : ℕ) :
    lineasDe (fuel + 1) (l ++ resto) = l.take 99 :: lineasDe fuel (l.drop 99 ++ resto) := by
  have hne : l ++ resto ≠ [] := by
    intro hnil
    rw [(List.append_eq_nil_iff.1 hnil).1] at hl
    simp at hl
  have htake : '\n' ∉ l.take 99 := fun hmem => h (List.mem_of_mem_take hmem)
  rw [lineasDe_succ hne, fgets_larga h hl, (takeWhile_sin_newline htake []).2]

/-- There are as many reads as lines, at least. -/
theorem length_lineas_le (hfuel : archivo.length ≤ fuel) :
    (lineas archivo).length ≤ (lineasDe fuel archivo).length := by
  induction fuel generalizing archivo with
  | zero =>
    obtain rfl : archivo = [] := List.length_eq_zero_iff.1 (by omega)
    rfl
  | succ fuel ih =>
    rcases line_cases '\n' archivo with h | ⟨l, resto, hl, rfl⟩
    · by_cases hne : archivo = []
      · rw [hne]
        exact le_rfl
      · rw [lineas, lines_of_notMem h hne, lineasDe_succ hne]
        exact Nat.le_add_left _ _
    · rw [List.length_append, List.length_cons] at hfuel
      by_cases hcabe : l.length ≤ 98
      · rw [lineasDe_linea hl hcabe, lineas, lines_append_cons hl]
        exact Nat.succ_le_succ (ih (by omega))
      · have hresto : (lineas (l.drop 99 ++ '\n' :: resto)).length ≤
            (lineasDe fuel (l.drop 99 ++ '\n' :: resto)).length := ih (by
          rw [List.length_append, List.length_drop, List.length_cons]
          omega)
        have hdrop : '\n' ∉ l.drop 99 := fun hmem => hl (List.mem_of_mem_drop hmem)
        rw [lineas, lines_append_cons hdrop] at hresto
        rw [lineasDe_larga hl (by omega), lineas, lines_append_cons hl]
        exact hresto.trans (Nat.le_succ _)

/-- The conditions on a file, by its first line. -/
theorem lineasCaben_corta (h : '\n' ∉ archivo) : LineasCaben archivo ↔ archivo.length ≤ 99 := by
  unfold LineasCaben
  rw [List.splitOn_eq_singleton h]
  simp

theorem lineasCaben_linea (h : '\n' ∉ l) (resto : Cadena) :
    LineasCaben (l ++ '\n' :: resto) ↔ l.length ≤ 98 ∧ LineasCaben resto := by
  have hne : resto.splitOn '\n' ≠ [] := List.splitOn_ne_nil '\n' resto
  unfold LineasCaben
  rw [List.splitOn_append_cons_self_of_not_mem h, List.getLast?_cons_of_ne_nil hne,
    List.dropLast_cons_of_ne_nil hne, List.forall_mem_cons, and_assoc]

/-- A read that fills the buffer is not the line, or is followed by one more read. -/
theorem lineasDe_larga_ne (h : '\n' ∉ l) (hl : 99 ≤ l.length)
    (hfuel : (l.drop 99 ++ '\n' :: resto).length ≤ fuel) :
    lineasDe (fuel + 1) (l ++ '\n' :: resto) ≠ lineas (l ++ '\n' :: resto) := by
  rw [lineasDe_larga h hl, lineas, lines_append_cons h]
  intro heq
  obtain ⟨-, hresto⟩ := List.cons.inj heq
  have hdrop : '\n' ∉ l.drop 99 := fun hmem => h (List.mem_of_mem_drop hmem)
  have hlength := length_lineas_le hfuel
  rw [hresto, lineas, lines_append_cons hdrop, List.length_cons] at hlength
  exact absurd hlength (Nat.not_succ_le_self _)

/-- **When the reads are the lines.** -/
theorem lineasDe_eq_iff (hfuel : archivo.length ≤ fuel) :
    lineasDe fuel archivo = lineas archivo ↔ LineasCaben archivo := by
  induction fuel generalizing archivo with
  | zero =>
    obtain rfl : archivo = [] := List.length_eq_zero_iff.1 (by omega)
    exact iff_of_true rfl ((lineasCaben_corta (by simp)).2 (by simp))
  | succ fuel ih =>
    rcases line_cases '\n' archivo with h | ⟨l, resto, hl, rfl⟩
    · rw [lineasCaben_corta h]
      by_cases hne : archivo = []
      · rw [hne]
        exact iff_of_true rfl (by simp)
      · rw [lineas, lines_of_notMem h hne]
        by_cases hcabe : archivo.length ≤ 99
        · exact iff_of_true (lineasDe_corta h hcabe hne fuel) hcabe
        · refine iff_of_false (fun heq => ?_) hcabe
          have hlarga := lineasDe_larga h (by omega) [] fuel
          rw [List.append_nil, heq] at hlarga
          have hlength := congrArg List.length (List.cons.inj hlarga).1
          rw [List.length_take] at hlength
          omega
    · rw [lineasCaben_linea hl]
      rw [List.length_append, List.length_cons] at hfuel
      by_cases hcabe : l.length ≤ 98
      · rw [lineasDe_linea hl hcabe, lineas, lines_append_cons hl, List.cons_inj_right,
          and_iff_right hcabe]
        exact ih (by omega)
      · refine iff_of_false (lineasDe_larga_ne hl (by omega) ?_) fun hcaben => hcabe hcaben.1
        rw [List.length_append, List.length_drop, List.length_cons]
        omega

/-! ### The first reads -/

theorem lineasCortas_cons :
    LineasCortas (l :: ls) ↔
      (l.length ≤ 99 ∧ ∀ l' ∈ ls, l' ≠ [] → l.length ≤ 98) ∧ LineasCortas ls := by
  unfold LineasCortas
  rw [List.forall_mem_cons, List.pairwise_cons]
  tauto

/-- A line of 99 characters may only be followed by empty ones. -/
theorem lineasCortas_cons_99 (hl : l.length = 99) :
    LineasCortas (l :: ls) ↔ ∀ l' ∈ ls, l' = [] := by
  rw [lineasCortas_cons]
  constructor
  · rintro ⟨⟨-, hvacias⟩, -⟩ l' hl'
    by_contra hne
    have hle := hvacias l' hl' hne
    omega
  · intro hvacias
    refine ⟨⟨by omega, fun l' hl' hne => absurd (hvacias l' hl') hne⟩, fun l' hl' => ?_, ?_⟩
    · rw [hvacias l' hl']
      exact Nat.zero_le _
    · exact List.pairwise_of_forall_mem_list fun l' _ l'' hl'' hne => absurd (hvacias l'' hl'') hne

/-- With one empty read in front, the lines are the first reads if they are empty too. -/
theorem lineas_prefix_desplazado (hfuel : archivo.length ≤ fuel) :
    lineas archivo <+: [] :: lineasDe fuel archivo ↔ ∀ l ∈ lineas archivo, l = [] := by
  induction fuel generalizing archivo with
  | zero =>
    obtain rfl : archivo = [] := List.length_eq_zero_iff.1 (by omega)
    simp [lineas]
  | succ fuel ih =>
    rcases line_cases '\n' archivo with h | ⟨l, resto, hl, rfl⟩
    · by_cases hne : archivo = []
      · rw [hne]
        simp [lineas]
      · rw [lineas, lines_of_notMem h hne, List.cons_prefix_cons]
        exact iff_of_false (fun hvacio => hne hvacio.1) fun hvacio =>
          hne (hvacio archivo List.mem_cons_self)
    · rw [List.length_append, List.length_cons] at hfuel
      rw [lineas, lines_append_cons hl, List.cons_prefix_cons, List.forall_mem_cons]
      refine and_congr_right fun hvacia => ?_
      subst hvacia
      rw [lineasDe_linea hl (Nat.zero_le _)]
      exact ih (by simpa using hfuel)

/-- **When the lines are the first reads.** -/
theorem lineasDe_prefix_iff (hfuel : archivo.length ≤ fuel) :
    lineas archivo <+: lineasDe fuel archivo ↔ LineasCortas (lineas archivo) := by
  induction fuel generalizing archivo with
  | zero =>
    obtain rfl : archivo = [] := List.length_eq_zero_iff.1 (by omega)
    simp [lineas, LineasCortas]
  | succ fuel ih =>
    rcases line_cases '\n' archivo with h | ⟨l, resto, hl, rfl⟩
    · by_cases hne : archivo = []
      · rw [hne]
        simp [lineas, LineasCortas]
      · rw [lineas, lines_of_notMem h hne, lineasCortas_cons]
        by_cases hcabe : archivo.length ≤ 99
        · rw [lineasDe_corta h hcabe hne]
          exact iff_of_true List.prefix_rfl ⟨⟨hcabe, by simp⟩, by simp [LineasCortas]⟩
        · refine iff_of_false (fun hprefix => ?_) fun hcortas => hcabe hcortas.1.1
          have hlarga := lineasDe_larga h (by omega) [] fuel
          rw [List.append_nil] at hlarga
          rw [hlarga, List.cons_prefix_cons] at hprefix
          have hlength := congrArg List.length hprefix.1
          rw [List.length_take] at hlength
          omega
    · rw [List.length_append, List.length_cons] at hfuel
      rw [lineas, lines_append_cons hl]
      rcases lt_trichotomy l.length 99 with hlt | heq | hgt
      · have hcabe : l.length ≤ 98 := by omega
        rw [lineasDe_linea hl hcabe, List.cons_prefix_cons, and_iff_right rfl, lineasCortas_cons,
          and_iff_right ⟨by omega, fun _ _ _ => hcabe⟩]
        exact ih (by omega)
      · -- the newline is left for the next read
        obtain ⟨k, rfl⟩ : ∃ k, fuel = k + 1 := ⟨fuel - 1, by omega⟩
        have hnewline : lineasDe (k + 1) ([] ++ '\n' :: resto) = [] :: lineasDe k resto :=
          lineasDe_linea List.not_mem_nil (Nat.zero_le _) resto k
        rw [List.nil_append] at hnewline
        rw [lineasDe_larga hl (by omega), List.take_of_length_le (by omega),
          List.drop_eq_nil_of_le (by omega), List.nil_append, hnewline, List.cons_prefix_cons,
          and_iff_right rfl, lineasCortas_cons_99 heq]
        exact lineas_prefix_desplazado (by omega)
      · rw [lineasDe_larga hl (by omega), List.cons_prefix_cons, lineasCortas_cons]
        refine iff_of_false (fun hprefix => ?_) fun hcortas => by omega
        have hlength := congrArg List.length hprefix.1
        rw [List.length_take] at hlength
        omega

/-! ### What memoria answers -/

variable {m : Memoria.Estado} {pid : ℤ}

theorem get_ejecutarScript (m : Memoria.Estado) (archivo : Cadena) (pid : ℤ) :
    get (ejecutarScript m archivo pid).diccionarioInstrucciones pid =
      some (lineasDe archivo.length archivo) :=
  get_put_self _ _ _

/-- A line is the answer if it was read at that position. -/
theorem enviarInstruccion_iff (m : Memoria.Estado) (archivo : Cadena) (pid : ℤ) (pc : ℕ)
    (l : Cadena) :
    enviarInstruccion (ejecutarScript m archivo pid) pid pc = some [.paquete (.linea l)] ↔
      (lineasDe archivo.length archivo)[pc]? = some l := by
  unfold enviarInstruccion
  rw [get_ejecutarScript]
  dsimp only
  by_cases hpc : pc < (lineasDe archivo.length archivo).length
  · rw [if_neg (by omega), listGet, if_pos (Int.natCast_nonneg pc), Int.toNat_natCast,
      List.getElem?_eq_getElem hpc]
    simp
  · rw [if_pos (by omega), List.getElem?_eq_none (by omega)]
    simp

/-- The target of a jump is asked for as it is written. -/
theorem jnz_pc (c : Efectos.Contexto) {registro destino : Cadena} {pc : ℕ}
    (h : obtenerValor c.registros registro ≠ 0) (hpc : atoi destino = pc) :
    int32 (Efectos.jnz c registro destino).pc.toNat = pc := by
  have hrange : InRange pc := hpc ▸ inRange_int32 _
  obtain ⟨-, hlt⟩ := hrange
  have hlt' : (pc : ℤ) % 2 ^ 32 = pc := Int.emod_eq_of_lt (by omega) (by omega)
  rw [Efectos.jnz, if_pos h, hpc]
  show int32 (UInt32.ofInt pc).toNat = pc
  rw [toNat_ofInt_uint32, hlt', Int.toNat_natCast, int32_of_inRange ⟨by omega, hlt⟩]

theorem contestaLineas_iff_empiezan :
    ContestaLineas m archivo pid ↔ lineas archivo <+: lineasDe archivo.length archivo := by
  rw [List.prefix_iff_getElem?]
  constructor
  · intro h pc hpc
    exact (enviarInstruccion_iff m archivo pid pc _).1
      (h.instruccion pc _ (List.getElem?_eq_getElem hpc))
  · intro h
    have hlee : ∀ (pc : ℕ) (l : Cadena), (lineas archivo)[pc]? = some l →
        enviarInstruccion (ejecutarScript m archivo pid) pid pc = some [.paquete (.linea l)] := by
      intro pc l hl
      obtain ⟨hpc, rfl⟩ := List.getElem?_eq_some_iff.1 hl
      exact (enviarInstruccion_iff m archivo pid pc _).2 (h pc hpc)
    refine ⟨hlee, fun c registro destino pc l hvalor hdestino hl => ?_⟩
    rw [jnz_pc c hvalor hdestino]
    exact hlee pc l hl

theorem conservaLineas_iff_eq :
    ConservaLineas m archivo pid ↔ lineasDe archivo.length archivo = lineas archivo := by
  constructor
  · intro h
    have hlista := h.lista
    rw [get_ejecutarScript] at hlista
    exact Option.some.inj hlista
  · intro h
    refine ⟨contestaLineas_iff_empiezan.2 ?_, ?_⟩
    · rw [h]
    · rw [get_ejecutarScript, h]

/-- **When a process gets the lines of its file.**  The list is that of the lines when each line has
98 characters at most, and 99 the last one if no newline ends it; the answers are the lines when no
line has more than 99 characters, and only empty ones stand after one of 99. -/
theorem ejecutarScript_lineas_iff (m : Memoria.Estado) (archivo : Cadena) (pid : ℤ) :
    (ConservaLineas m archivo pid ↔ LineasCaben archivo) ∧
      (ContestaLineas m archivo pid ↔ LineasCortas (lineas archivo)) :=
  ⟨conservaLineas_iff_eq.trans (lineasDe_eq_iff le_rfl),
    contestaLineas_iff_empiezan.trans (lineasDe_prefix_iff le_rfl)⟩

/-- A script with a line of 99 characters. -/
def scriptLargo : Cadena := List.replicate 99 'A' ++ '\n' :: "EXIT".toList

/-- **A line of 99 characters shifts the rest**: its newline is one more, empty, instruction, and the
second line is the third of the list. -/
theorem scriptLargo_desplaza :
    (lineas scriptLargo)[1]? = some "EXIT".toList ∧
      enviarInstruccion (ejecutarScript (generarEspacioMemoria fun _ => 0) scriptLargo 1) 1 1 =
        some [.paquete (.linea [])] ∧
      ¬ ContestaLineas (generarEspacioMemoria fun _ => 0) scriptLargo 1 ∧
      ¬ ConservaLineas (generarEspacioMemoria fun _ => 0) scriptLargo 1 := by
  have hl : '\n' ∉ List.replicate 99 'A' := fun h => absurd (List.eq_of_mem_replicate h) (by decide)
  have hlinea : (lineas scriptLargo)[1]? = some "EXIT".toList := by
    rw [scriptLargo, lineas, lines_append_cons hl,
      lines_of_notMem (show '\n' ∉ "EXIT".toList by decide) (by decide)]
    rfl
  have hlee : enviarInstruccion (ejecutarScript (generarEspacioMemoria fun _ => 0) scriptLargo 1)
      1 1 = some [.paquete (.linea [])] := by
    refine (enviarInstruccion_iff _ scriptLargo 1 1 []).2 ?_
    show (lineasDe (103 + 1) scriptLargo)[1]? = some []
    rw [scriptLargo, lineasDe_larga hl (by simp)]
    rfl
  have hno : ¬ ContestaLineas (generarEspacioMemoria fun _ => 0) scriptLargo 1 := fun h => by
    have hexit := h.instruccion 1 _ hlinea
    rw [Nat.cast_one, hlee] at hexit
    exact absurd hexit (by decide)
  exact ⟨hlinea, hlee, hno, fun h => hno h.toContestaLineas⟩

end SimuladorSO.Sistema
