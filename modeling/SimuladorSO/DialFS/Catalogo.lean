import SimuladorSO.DialFS.Estado
import SimuladorSO.Library.Keyed

/-!
# The list of files and the directory

`Catalogo c N conf s` says that `lista_archivos` and the directory of the state `s` hold the files of
`N`, each one once and with the metadata `conf`.

* `porNombre`, `porBloqueInicial`: what the searches find then;
* `guardar`, `alta`, `baja`: how it survives `config_save`, a new file and a removed one.
-/

namespace SimuladorSO.DialFS

open Dictionary

variable {c : InoutConfig} {s : Estado} {N : Finset Cadena} {conf conf' : Cadena → Metadata}
  {x : Cadena}

/-- The interface's own two files are not files of the file system. -/
def Reservado (c : InoutConfig) (n : Cadena) : Prop :=
  n = nombreArchivoBloques c ∨ n = nombreArchivoBitmap c

instance (n : Cadena) : Decidable (Reservado c n) := inferInstanceAs (Decidable (_ ∨ _))

/-- The files of `N` with the metadata `conf` are the ones listed and the ones on disk. -/
structure Catalogo (c : InoutConfig) (N : Finset Cadena) (conf : Cadena → Metadata)
    (s : Estado) : Prop where
  nodup : (s.listaArchivos.map Archivo.nombreArchivo).Nodup
  lista : ∀ a, a ∈ s.listaArchivos ↔ a.nombreArchivo ∈ N ∧ a.config = conf a.nombreArchivo
  directorio : ∀ n, ¬ Reservado c n →
    get s.directorio n = if n ∈ N then some (.metadata (conf n)) else none
  ajenos : ∀ n ∈ N, ¬ Reservado c n
  propios : ∀ n, Reservado c n → (get s.directorio n).isSome

theorem Catalogo.vacio : Catalogo c ∅ conf (iniciarFileSystem c) where
  nodup := List.nodup_nil
  lista := by simp [iniciarFileSystem]
  directorio n hn := by
    have h1 : n ≠ nombreArchivoBloques c := fun h => hn (Or.inl h)
    have h2 : n ≠ nombreArchivoBitmap c := fun h => hn (Or.inr h)
    show get (put (put [] _ _) _ _) n = _
    rw [get_put_of_ne _ _ h2, get_put_of_ne _ _ h1]
    simp
  ajenos := by simp
  propios n hn := by
    show (get (put (put [] _ _) _ _) n).isSome
    rw [get_put, get_put]
    rcases hn with rfl | rfl
    · rw [if_pos rfl]
      split_ifs <;> rfl
    · rw [if_pos rfl]
      rfl

/-- Only the metadata of the files of `N` matter. -/
theorem Catalogo.congr (h : Catalogo c N conf s) (hconf : ∀ n ∈ N, conf' n = conf n) :
    Catalogo c N conf' s where
  nodup := h.nodup
  lista a := by
    rw [h.lista a]
    exact and_congr_right fun ha => by rw [hconf _ ha]
  directorio n hn := by
    rw [h.directorio n hn]
    split_ifs with hN
    · rw [hconf n hN]
    · rfl
  ajenos := h.ajenos
  propios := h.propios

theorem Catalogo.mem (h : Catalogo c N conf s) (hx : x ∈ N) : ⟨x, conf x⟩ ∈ s.listaArchivos :=
  (h.lista _).2 ⟨hx, rfl⟩

/-! ### Searches -/

/-- A search that succeeds answers the position and the value of an element. -/
theorem obtenerArchivo_of_mem {p : Archivo → Bool} {lista : List Archivo} {a : Archivo}
    (ha : a ∈ lista) (hp : p a = true) :
    ∃ i a', obtenerArchivo p lista = some (i, a') ∧ lista[i]? = some a' ∧ p a' = true := by
  unfold obtenerArchivo
  cases hfind : lista.findIdx? p with
  | none =>
    have := List.findIdx?_eq_none_iff.1 hfind a ha
    rw [hp] at this
    cases this
  | some i =>
    obtain ⟨hlt, hpi, -⟩ := List.findIdx?_eq_some_iff_getElem.1 hfind
    have hget : lista[i]? = some lista[i] := List.getElem?_eq_getElem hlt
    refine ⟨i, lista[i], ?_, hget, hpi⟩
    show lista[i]?.map (fun unArchivo => (i, unArchivo)) = _
    rw [hget, Option.map_some]

theorem Catalogo.porNombre (h : Catalogo c N conf s) (hx : x ∈ N) :
    ∃ i, obtenerArchivoPorNombre s x = some (i, ⟨x, conf x⟩) ∧
      s.listaArchivos[i]? = some ⟨x, conf x⟩ := by
  obtain ⟨i, a, hobt, hget, hp⟩ := obtenerArchivo_of_mem
    (p := fun a => decide (a.nombreArchivo = x)) (h.mem hx) (by simp)
  have hname : a.nombreArchivo = x := by simpa using hp
  have hconf : a.config = conf x := by
    rw [← hname]
    exact ((h.lista a).1 (List.mem_of_getElem? hget)).2
  have ha : a = ⟨x, conf x⟩ := by
    calc a = ⟨a.nombreArchivo, a.config⟩ := rfl
      _ = ⟨x, conf x⟩ := by rw [hname, hconf]
  rw [ha] at hobt hget
  exact ⟨i, hobt, hget⟩

theorem Catalogo.porBloqueInicial (h : Catalogo c N conf s) {b : ℤ}
    (hx : ∃ n ∈ N, (conf n).bloqueInicial = b) :
    ∃ i, ∃ y ∈ N, (conf y).bloqueInicial = b ∧
      obtenerArchivoPorBloqueInicial s b = some (i, ⟨y, conf y⟩) ∧
      s.listaArchivos[i]? = some ⟨y, conf y⟩ := by
  obtain ⟨n, hn, hnb⟩ := hx
  obtain ⟨i, a, hobt, hget, hp⟩ := obtenerArchivo_of_mem
    (p := fun a => decide (a.config.bloqueInicial = b)) (h.mem hn) (by simpa using hnb)
  obtain ⟨hy, hconf⟩ := (h.lista a).1 (List.mem_of_getElem? hget)
  have ha : a = ⟨a.nombreArchivo, conf a.nombreArchivo⟩ := by
    rw [← hconf]
  have hb : a.config.bloqueInicial = b := by simpa using hp
  rw [hconf] at hb
  rw [ha] at hobt hget
  exact ⟨i, a.nombreArchivo, hy, hb, hobt, hget⟩

/-- A name is free in the directory when it is neither that of a file nor one of the interface's
own. -/
theorem Catalogo.get_eq_none_iff (h : Catalogo c N conf s) :
    get s.directorio x = none ↔ x ∉ N ∧ ¬ Reservado c x := by
  by_cases hr : Reservado c x
  · have hsome := h.propios x hr
    refine iff_of_false ?_ fun hn => hn.2 hr
    intro hnone
    rw [hnone] at hsome
    cases hsome
  · rw [h.directorio x hr]
    split_ifs with hx
    · simp [hx]
    · simp [hx, hr]

/-! ### Changes -/

/-- Two states with the same files and directory. -/
theorem Catalogo.congr_estado (h : Catalogo c N conf s) {s' : Estado}
    (hlista : s'.listaArchivos = s.listaArchivos) (hdir : s'.directorio = s.directorio) :
    Catalogo c N conf s' where
  nodup := by rw [hlista]; exact h.nodup
  lista := by rw [hlista]; exact h.lista
  directorio := by rw [hdir]; exact h.directorio
  ajenos := h.ajenos
  propios := by rw [hdir]; exact h.propios

/-- The metadata of one file are saved, in a state with the same files. -/
theorem Catalogo.guardar (h : Catalogo c N conf s) {i : ℕ} {viejo : Metadata}
    (hi : s.listaArchivos[i]? = some ⟨x, viejo⟩) (config : Metadata) {s' : Estado}
    (hlista : s'.listaArchivos = s.listaArchivos) (hdir : s'.directorio = s.directorio) :
    Catalogo c N (Function.update conf x config) (guardarConfig s' i ⟨x, viejo⟩ config) := by
  have hx : x ∈ N := ((h.lista _).1 (List.mem_of_getElem? hi)).1
  constructor
  · show ((s'.listaArchivos.set i ⟨x, config⟩).map Archivo.nombreArchivo).Nodup
    rw [hlista, Keyed.map_set (b := (⟨x, config⟩ : Archivo)) hi rfl]
    exact h.nodup
  · intro a
    show a ∈ s'.listaArchivos.set i ⟨x, config⟩ ↔ _
    rw [hlista, Keyed.mem_set_iff h.nodup hi, h.lista]
    constructor
    · rintro (rfl | ⟨⟨ha, hconf⟩, hne⟩)
      · exact ⟨hx, by rw [Function.update_self]⟩
      · exact ⟨ha, by rw [Function.update_of_ne hne, hconf]⟩
    · rintro ⟨ha, hconf⟩
      by_cases hax : a.nombreArchivo = x
      · rw [hax, Function.update_self] at hconf
        left
        rw [← hax, ← hconf]
      · rw [Function.update_of_ne hax] at hconf
        exact Or.inr ⟨⟨ha, hconf⟩, hax⟩
  · intro n hn
    show get (put s'.directorio x (.metadata config)) n = _
    rw [hdir, get_put]
    by_cases hnx : n = x
    · rw [hnx, if_pos rfl, if_pos hx, Function.update_self]
    · rw [if_neg hnx, Function.update_of_ne hnx, h.directorio n hn]
  · exact h.ajenos
  · intro n hn
    show (get (put s'.directorio x (.metadata config)) n).isSome
    rw [hdir, get_put]
    split_ifs
    · rfl
    · exact h.propios n hn

/-- A new file is listed and saved. -/
theorem Catalogo.alta (h : Catalogo c N conf s) (hx : x ∉ N) (hr : ¬ Reservado c x)
    (config : Metadata) {s' : Estado} (hlista : s'.listaArchivos = s.listaArchivos ++ [⟨x, config⟩])
    (hdir : s'.directorio = put s.directorio x (.metadata config)) :
    Catalogo c (insert x N) (Function.update conf x config) s' where
  nodup := by
    rw [hlista, List.map_append, List.map_singleton, List.nodup_append]
    refine ⟨h.nodup, List.nodup_singleton _, ?_⟩
    intro n hn m hm
    obtain ⟨a, ha, rfl⟩ := List.mem_map.1 hn
    obtain rfl := List.mem_singleton.1 hm
    rintro heq
    exact hx (heq ▸ ((h.lista a).1 ha).1)
  lista a := by
    rw [hlista, List.mem_append, List.mem_singleton, h.lista, Finset.mem_insert]
    constructor
    · rintro (⟨ha, hconf⟩ | rfl)
      · have hne : a.nombreArchivo ≠ x := fun heq => hx (heq ▸ ha)
        exact ⟨Or.inr ha, by rw [Function.update_of_ne hne, hconf]⟩
      · exact ⟨Or.inl rfl, by rw [Function.update_self]⟩
    · rintro ⟨ha, hconf⟩
      by_cases hax : a.nombreArchivo = x
      · rw [hax, Function.update_self] at hconf
        right
        rw [← hax, ← hconf]
      · rw [Function.update_of_ne hax] at hconf
        exact Or.inl ⟨ha.resolve_left hax, hconf⟩
  directorio n hn := by
    rw [hdir, get_put]
    by_cases hnx : n = x
    · rw [hnx, if_pos rfl, if_pos (Finset.mem_insert_self x N), Function.update_self]
    · rw [if_neg hnx, Function.update_of_ne hnx, h.directorio n hn]
      refine if_congr ?_ rfl rfl
      rw [Finset.mem_insert, or_iff_right hnx]
  ajenos n hn := by
    rcases Finset.mem_insert.1 hn with rfl | hn
    · exact hr
    · exact h.ajenos n hn
  propios n hn := by
    rw [hdir, get_put]
    split_ifs
    · rfl
    · exact h.propios n hn

/-- A file is taken out of the list and of the directory. -/
theorem Catalogo.baja (h : Catalogo c N conf s) (hx : x ∈ N) {i : ℕ}
    (hi : s.listaArchivos[i]? = some ⟨x, conf x⟩) {s' : Estado}
    (hlista : s'.listaArchivos = s.listaArchivos.eraseIdx i)
    (hdir : s'.directorio = remove s.directorio x) : Catalogo c (N.erase x) conf s' where
  nodup := by
    rw [hlista]
    exact Keyed.nodup_eraseIdx h.nodup i
  lista a := by
    rw [hlista, Keyed.mem_eraseIdx_iff h.nodup hi, h.lista, Finset.mem_erase]
    tauto
  directorio n hn := by
    rw [hdir, get_remove, h.directorio n hn]
    by_cases hnx : n = x
    · rw [hnx, if_pos rfl, if_neg (Finset.notMem_erase x N)]
    · rw [if_neg hnx]
      refine if_congr ?_ rfl rfl
      rw [Finset.mem_erase, and_iff_right hnx]
  ajenos n hn := h.ajenos n (Finset.mem_of_mem_erase hn)
  propios n hn := by
    have hnx : n ≠ x := by
      rintro rfl
      exact h.ajenos n hx hn
    rw [hdir, get_remove, if_neg hnx]
    exact h.propios n hn

end SimuladorSO.DialFS
