import Mathlib.Data.List.GetD
import Mathlib.Tactic

/-!
# Contiguous extents on a device of blocks

A device has `count` blocks of `bs` bytes and a mark for each block.  Every name of a finite set `N`
holds one extent: a run of consecutive blocks whose first bytes are the content of the name.

* `Stores bs count N ext mark data`: the extents lie on the device and do not meet, exactly their
  blocks are marked, their content is on the device and every other byte of the device is zero;
* `Stores.erase`, `Stores.insert`, `Stores.replace`: what an extent may become;
* `Stores.clear`, `Stores.place`, `Stores.overwrite`, `Stores.shrink`, `Stores.grow`, `Stores.move`:
  the loops over bytes and marks that bring it there;
* `Stores.free_add_sum`, `Stores.sum_of_packed`: how many blocks are left;
* `Stores.exists_start`: the first marked block after an unmarked one begins an extent;
* `SameOrder`, `Stores.sameOrder_move`: the order of the extents on the device.
-/

namespace Extents

variable {ν β : Type*}

/-- A run of consecutive blocks and the bytes it holds. -/
structure Extent (β : Type*) where
  start : ℤ
  width : ℤ
  bytes : List β

/-- The blocks of an extent. -/
def Extent.Owns (e : Extent β) (b : ℤ) : Prop := e.start ≤ b ∧ b < e.start + e.width

instance (e : Extent β) (b : ℤ) : Decidable (e.Owns b) := inferInstanceAs (Decidable (_ ∧ _))

theorem Extent.owns_mk {start width b : ℤ} {bytes : List β} :
    (⟨start, width, bytes⟩ : Extent β).Owns b ↔ start ≤ b ∧ b < start + width := Iff.rfl

/-- The byte an extent has at position `j` of the device: its content is followed by zeros. -/
def Extent.byteAt [Zero β] (e : Extent β) (bs j : ℤ) : β :=
  e.bytes.getD (j - e.start * bs).toNat 0

/-- The extent has a block, lies on the device and its content fits in it. -/
structure Extent.Sound (bs count : ℤ) (e : Extent β) : Prop where
  width_pos : 0 < e.width
  start_nonneg : 0 ≤ e.start
  le_count : e.start + e.width ≤ count
  fits : (e.bytes.length : ℤ) ≤ e.width * bs

/-- The device stores the extents of the names in `N`, and nothing else. -/
structure Stores [Zero β] (bs count : ℤ) (N : Finset ν) (ext : ν → Extent β) (mark : ℤ → Bool)
    (data : ℤ → β) : Prop where
  sound : ∀ n ∈ N, (ext n).Sound bs count
  disjoint : ∀ n ∈ N, ∀ n' ∈ N, ∀ b, (ext n).Owns b → (ext n').Owns b → n = n'
  marked : ∀ b, 0 ≤ b → b < count → (mark b = true ↔ ∃ n ∈ N, (ext n).Owns b)
  bytes : ∀ n ∈ N, ∀ j, (ext n).Owns (j / bs) → data j = (ext n).byteAt bs j
  zeros : ∀ j, 0 ≤ j / bs → j / bs < count → mark (j / bs) = false → data j = 0

/-- A position belongs to an extent when it lies between the ends of its blocks. -/
theorem Extent.owns_div {bs : ℤ} (hbs : 0 < bs) (e : Extent β) (j : ℤ) :
    e.Owns (j / bs) ↔ e.start * bs ≤ j ∧ j < (e.start + e.width) * bs := by
  unfold Extent.Owns
  rw [Int.le_ediv_iff_mul_le hbs, Int.ediv_lt_iff_lt_mul hbs]

theorem Extent.Sound.owns_start {bs count : ℤ} {e : Extent β} (h : e.Sound bs count) :
    e.Owns e.start :=
  ⟨le_rfl, by have := h.width_pos; omega⟩

/-- The positions of the content belong to the extent. -/
theorem Extent.Sound.owns_of_lt {bs count : ℤ} (hbs : 0 < bs) {e : Extent β}
    (h : e.Sound bs count) {j : ℤ} (h1 : e.start * bs ≤ j)
    (h2 : j < e.start * bs + e.bytes.length) : e.Owns (j / bs) := by
  rw [Extent.owns_div hbs, add_mul]
  have := h.fits
  omega

theorem Extent.byteAt_of_le [Zero β] {e : Extent β} {bs j : ℤ}
    (h : e.start * bs + e.bytes.length ≤ j) : e.byteAt bs j = 0 := by
  unfold Extent.byteAt
  rw [List.getD_eq_default]
  omega

/-! ### The order of the extents -/

/-- The extents of the names of `M` begin in the same order. -/
def SameOrder (M : Finset ν) (ext ext' : ν → Extent β) : Prop :=
  ∀ n ∈ M, ∀ m ∈ M, (ext' n).start < (ext' m).start ↔ (ext n).start < (ext m).start

theorem SameOrder.refl (M : Finset ν) (ext : ν → Extent β) : SameOrder M ext ext :=
  fun _ _ _ _ => Iff.rfl

theorem SameOrder.trans {M : Finset ν} {ext₁ ext₂ ext₃ : ν → Extent β}
    (h₁ : SameOrder M ext₁ ext₂) (h₂ : SameOrder M ext₂ ext₃) : SameOrder M ext₁ ext₃ :=
  fun n hn m hm => (h₂ n hn m hm).trans (h₁ n hn m hm)

/-! ### Contents -/

section
variable [Zero β]

/-- The first `n` bytes, completed with zeros. -/
def resize (n : ℕ) (l : List β) : List β := l.take n ++ List.replicate (n - l.length) 0

/-- The bytes from `p` on replaced by those of `d`. -/
def splice (p : ℕ) (d l : List β) : List β := l.take p ++ d ++ l.drop (p + d.length)

@[simp] theorem length_resize (n : ℕ) (l : List β) : (resize n l).length = n := by
  simp [resize]
  omega

omit [Zero β] in
theorem length_splice {p : ℕ} {d l : List β} (h : p + d.length ≤ l.length) :
    (splice p d l).length = l.length := by
  simp [splice]
  omega

theorem getD_resize (n : ℕ) (l : List β) (k : ℕ) :
    (resize n l).getD k 0 = if k < n then l.getD k 0 else 0 := by
  split_ifs with hk
  · unfold resize
    by_cases hkl : k < l.length
    · rw [List.getD_append _ _ _ _ (by simp; omega), List.getD_eq_getElem?_getD,
        List.getElem?_take_of_lt hk, ← List.getD_eq_getElem?_getD]
    · rw [List.getD_append_right _ _ _ _ (by simp; omega), List.getD_replicate _ (by simp; omega),
        List.getD_eq_default _ _ (by omega)]
  · exact List.getD_eq_default _ _ (by simp; omega)

theorem getD_splice {p : ℕ} {d l : List β} (h : p + d.length ≤ l.length) (k : ℕ) :
    (splice p d l).getD k 0 = if p ≤ k ∧ k < p + d.length then d.getD (k - p) 0 else l.getD k 0 := by
  have hlen : (l.take p).length = p := by simp; omega
  unfold splice
  rw [List.append_assoc]
  by_cases h1 : k < p
  · rw [if_neg (by omega), List.getD_append _ _ _ _ (by omega), List.getD_eq_getElem?_getD,
      List.getElem?_take_of_lt h1, ← List.getD_eq_getElem?_getD]
  · rw [List.getD_append_right _ _ _ _ (by omega), hlen]
    by_cases h2 : k < p + d.length
    · rw [if_pos (by omega), List.getD_append _ _ _ _ (by omega)]
    · rw [if_neg (by omega), List.getD_append_right _ _ _ _ (by omega), List.getD_eq_getElem?_getD,
        List.getElem?_drop, ← List.getD_eq_getElem?_getD]
      congr 1
      omega

end

section
variable [Zero β] {bs count : ℤ} {N : Finset ν} {ext ext' : ν → Extent β} {mark mark' : ℤ → Bool}
  {data data' : ℤ → β} {x : ν}

/-- A blank device stores no name. -/
theorem Stores.empty (hmark : ∀ b, 0 ≤ b → b < count → mark b = false) (hdata : ∀ j, data j = 0) :
    Stores bs count (∅ : Finset ν) ext mark data where
  sound := by simp
  disjoint := by simp
  marked b h0 hb := by simp [hmark b h0 hb]
  bytes := by simp
  zeros j _ _ _ := hdata j

/-- A block of an extent is on the device. -/
theorem Stores.range (h : Stores bs count N ext mark data) (hx : x ∈ N) {b : ℤ}
    (hb : (ext x).Owns b) : 0 ≤ b ∧ b < count := by
  have hs := h.sound x hx
  have h0 := hs.start_nonneg
  have hc := hs.le_count
  obtain ⟨h1, h2⟩ := hb
  exact ⟨by omega, by omega⟩

theorem Stores.mark_of_owns (h : Stores bs count N ext mark data) (hx : x ∈ N) {b : ℤ}
    (hb : (ext x).Owns b) : mark b = true := by
  obtain ⟨h0, hc⟩ := h.range hx hb
  exact (h.marked b h0 hc).2 ⟨x, hx, hb⟩

/-- Different names own different blocks. -/
theorem Stores.not_owns (h : Stores bs count N ext mark data) (hx : x ∈ N) {n : ν} (hn : n ∈ N)
    (hne : n ≠ x) {b : ℤ} (hb : (ext n).Owns b) : ¬ (ext x).Owns b :=
  fun hb' => hne (h.disjoint n hn x hx b hb hb')

/-- What a stored name reads back: its content, at the beginning of its extent. -/
theorem Stores.read (hbs : 0 < bs) (h : Stores bs count N ext mark data) (hx : x ∈ N) :
    (List.range (ext x).bytes.length).map (fun i : ℕ => data ((ext x).start * bs + i)) =
      (ext x).bytes := by
  apply List.ext_getElem
  · simp
  · intro i h1 h2
    have hown : (ext x).Owns (((ext x).start * bs + (i : ℕ)) / bs) :=
      (h.sound x hx).owns_of_lt hbs (by omega) (by omega)
    rw [List.getElem_map, List.getElem_range, h.bytes x hx _ hown]
    unfold Extent.byteAt
    rw [add_sub_cancel_left, Int.toNat_natCast, List.getD_eq_getElem _ _ h2]

/-! ### Counting blocks -/

/-- The unmarked blocks of the device. -/
noncomputable def free (count : ℤ) (mark : ℤ → Bool) : Finset ℤ :=
  (Finset.Ico 0 count).filter fun b => mark b = false

/-- The free blocks are those that no extent takes. -/
theorem Stores.free_add_sum (h : Stores bs count N ext mark data) (hcount : 0 ≤ count) :
    ((free count mark).card : ℤ) + ∑ n ∈ N, (ext n).width = count := by
  have hmarked : (Finset.Ico 0 count).filter (fun b => ¬ mark b = false) =
      N.biUnion fun n => Finset.Ico (ext n).start ((ext n).start + (ext n).width) := by
    ext b
    rw [Finset.mem_filter, Finset.mem_Ico, Finset.mem_biUnion, Bool.not_eq_false]
    constructor
    · rintro ⟨⟨h0, hb⟩, hm⟩
      obtain ⟨n, hn, hown⟩ := (h.marked b h0 hb).1 hm
      exact ⟨n, hn, Finset.mem_Ico.2 hown⟩
    · rintro ⟨n, hn, hown⟩
      have hown := Finset.mem_Ico.1 hown
      exact ⟨h.range hn hown, h.mark_of_owns hn hown⟩
  have hcard : ((N.biUnion fun n =>
      Finset.Ico (ext n).start ((ext n).start + (ext n).width)).card : ℤ) =
      ∑ n ∈ N, (ext n).width := by
    rw [Finset.card_biUnion, Nat.cast_sum]
    · refine Finset.sum_congr rfl fun n hn => ?_
      have := (h.sound n hn).width_pos
      rw [Int.card_Ico, add_sub_cancel_left, Int.toNat_of_nonneg this.le]
    · intro n hn n' hn' hne
      rw [Function.onFun, Finset.disjoint_left]
      intro b hb hb'
      exact hne (h.disjoint n hn n' hn' b (Finset.mem_Ico.1 hb) (Finset.mem_Ico.1 hb'))
  have hsplit := Finset.card_filter_add_card_filter_not (s := Finset.Ico 0 count)
    (fun b => mark b = false)
  rw [hmarked, Int.card_Ico, sub_zero] at hsplit
  rw [← hcard]
  unfold free
  omega

/-- When the marked blocks are the first `l` ones, the extents take exactly `l` blocks. -/
theorem Stores.sum_of_packed (h : Stores bs count N ext mark data) {l : ℤ} (h0 : 0 ≤ l)
    (hl : l ≤ count) (hbelow : ∀ b, 0 ≤ b → b < l → mark b = true)
    (habove : ∀ b, l ≤ b → b < count → mark b = false) : ∑ n ∈ N, (ext n).width = l := by
  have hfree : free count mark = Finset.Ico l count := by
    ext b
    rw [free, Finset.mem_filter, Finset.mem_Ico, Finset.mem_Ico]
    constructor
    · rintro ⟨⟨hb0, hb⟩, hm⟩
      refine ⟨?_, hb⟩
      by_contra hlt
      rw [hbelow b hb0 (by omega)] at hm
      cases hm
    · rintro ⟨h1, h2⟩
      exact ⟨⟨by omega, h2⟩, habove b h1 h2⟩
  have hsum := h.free_add_sum (h0.trans hl)
  rw [hfree, Int.card_Ico] at hsum
  omega

/-- A marked block that follows an unmarked one is the first of its extent. -/
theorem Stores.exists_start (h : Stores bs count N ext mark data) {b : ℤ} (h0 : 0 < b)
    (hb : b < count) (hm : mark b = true) (hprev : mark (b - 1) = false) :
    ∃ n ∈ N, (ext n).start = b := by
  obtain ⟨n, hn, hown⟩ := (h.marked b h0.le hb).1 hm
  refine ⟨n, hn, ?_⟩
  by_contra hne
  have hown' : (ext n).Owns (b - 1) := by
    obtain ⟨h1, h2⟩ := hown
    exact ⟨by omega, by omega⟩
  rw [h.mark_of_owns hn hown'] at hprev
  cases hprev

/-! ### Operations on one extent -/

variable [DecidableEq ν] {e : Extent β}

/-- A name is erased: its blocks are unmarked and zeroed. -/
theorem Stores.erase (h : Stores bs count N ext mark data) (hx : x ∈ N)
    (hmark : ∀ b, mark' b = if (ext x).Owns b then false else mark b)
    (hin : ∀ j, (ext x).Owns (j / bs) → data' j = 0)
    (hout : ∀ j, ¬ (ext x).Owns (j / bs) → data' j = data j) :
    Stores bs count (N.erase x) ext mark' data' where
  sound n hn := h.sound n (Finset.mem_of_mem_erase hn)
  disjoint n hn n' hn' :=
    h.disjoint n (Finset.mem_of_mem_erase hn) n' (Finset.mem_of_mem_erase hn')
  marked b h0 hb := by
    rw [hmark b]
    split_ifs with hown
    · refine iff_of_false (by simp) ?_
      rintro ⟨n, hn, hb'⟩
      exact h.not_owns hx (Finset.mem_of_mem_erase hn) (Finset.ne_of_mem_erase hn) hb' hown
    · rw [h.marked b h0 hb]
      constructor
      · rintro ⟨n, hn, hb'⟩
        have hne : n ≠ x := by
          rintro rfl
          exact hown hb'
        exact ⟨n, Finset.mem_erase.2 ⟨hne, hn⟩, hb'⟩
      · rintro ⟨n, hn, hb'⟩
        exact ⟨n, Finset.mem_of_mem_erase hn, hb'⟩
  bytes n hn j hj := by
    obtain ⟨hne, hn⟩ := Finset.mem_erase.1 hn
    rw [hout j (h.not_owns hx hn hne hj), h.bytes n hn j hj]
  zeros j h0 hc hm := by
    rw [hmark] at hm
    by_cases hown : (ext x).Owns (j / bs)
    · exact hin j hown
    · rw [if_neg hown] at hm
      rw [hout j hown, h.zeros j h0 hc hm]

/-- A new name takes unmarked blocks. -/
theorem Stores.insert (h : Stores bs count N ext mark data) (hx : x ∉ N) (he : e.Sound bs count)
    (hfree : ∀ b, e.Owns b → mark b = false)
    (hmark : ∀ b, mark' b = if e.Owns b then true else mark b)
    (hin : ∀ j, e.Owns (j / bs) → data' j = e.byteAt bs j)
    (hout : ∀ j, ¬ e.Owns (j / bs) → data' j = data j) :
    Stores bs count (insert x N) (Function.update ext x e) mark' data' := by
  have hne : ∀ n ∈ N, n ≠ x := by
    rintro n hn rfl
    exact hx hn
  have hold : ∀ n ∈ N, ∀ b, (ext n).Owns b → ¬ e.Owns b := by
    intro n hn b hb hb'
    have hm := h.mark_of_owns hn hb
    rw [hfree b hb'] at hm
    cases hm
  constructor
  · intro n hn
    rcases Finset.mem_insert.1 hn with rfl | hn
    · rw [Function.update_self]
      exact he
    · rw [Function.update_of_ne (hne n hn)]
      exact h.sound n hn
  · intro n hn n' hn' b hb hb'
    rcases Finset.mem_insert.1 hn with hnx | hn <;> rcases Finset.mem_insert.1 hn' with hnx' | hn'
    · rw [hnx, hnx']
    · rw [hnx, Function.update_self] at hb
      rw [Function.update_of_ne (hne n' hn')] at hb'
      exact absurd hb (hold n' hn' b hb')
    · rw [Function.update_of_ne (hne n hn)] at hb
      rw [hnx', Function.update_self] at hb'
      exact absurd hb' (hold n hn b hb)
    · rw [Function.update_of_ne (hne n hn)] at hb
      rw [Function.update_of_ne (hne n' hn')] at hb'
      exact h.disjoint n hn n' hn' b hb hb'
  · intro b h0 hb
    rw [hmark b]
    split_ifs with hown
    · refine iff_of_true rfl ⟨x, Finset.mem_insert_self x N, ?_⟩
      rw [Function.update_self]
      exact hown
    · rw [h.marked b h0 hb]
      constructor
      · rintro ⟨n, hn, hb'⟩
        refine ⟨n, Finset.mem_insert_of_mem hn, ?_⟩
        rw [Function.update_of_ne (hne n hn)]
        exact hb'
      · rintro ⟨n, hn, hb'⟩
        rcases Finset.mem_insert.1 hn with rfl | hn
        · rw [Function.update_self] at hb'
          exact absurd hb' hown
        · rw [Function.update_of_ne (hne n hn)] at hb'
          exact ⟨n, hn, hb'⟩
  · intro n hn j hj
    rcases Finset.mem_insert.1 hn with rfl | hn
    · rw [Function.update_self] at hj ⊢
      exact hin j hj
    · rw [Function.update_of_ne (hne n hn)] at hj ⊢
      rw [hout j (hold n hn _ hj), h.bytes n hn j hj]
  · intro j h0 hc hm
    rw [hmark] at hm
    by_cases hown : e.Owns (j / bs)
    · rw [if_pos hown] at hm
      cases hm
    · rw [if_neg hown] at hm
      rw [hout j hown, h.zeros j h0 hc hm]

/-- The extent of a name is replaced by one that takes its own blocks and unmarked ones. -/
theorem Stores.replace (h : Stores bs count N ext mark data) (hx : x ∈ N) (he : e.Sound bs count)
    (hfree : ∀ b, e.Owns b → mark b = false ∨ (ext x).Owns b)
    (hmark : ∀ b, mark' b = if e.Owns b then true else if (ext x).Owns b then false else mark b)
    (hin : ∀ j, e.Owns (j / bs) → data' j = e.byteAt bs j)
    (hold : ∀ j, ¬ e.Owns (j / bs) → (ext x).Owns (j / bs) → data' j = 0)
    (hout : ∀ j, ¬ e.Owns (j / bs) → ¬ (ext x).Owns (j / bs) → data' j = data j) :
    Stores bs count N (Function.update ext x e) mark' data' := by
  have herased : Stores bs count (N.erase x) ext
      (fun b => if (ext x).Owns b then false else mark b)
      (fun j => if (ext x).Owns (j / bs) then 0 else data j) :=
    h.erase hx (fun b => rfl) (fun j hj => if_pos hj) (fun j hj => if_neg hj)
  rw [← Finset.insert_erase hx]
  refine herased.insert (Finset.notMem_erase x N) he ?_ hmark hin ?_
  · intro b hb
    rcases hfree b hb with hm | hown
    · rw [hm, ite_self]
    · exact if_pos hown
  · intro j hj
    show data' j = if (ext x).Owns (j / bs) then 0 else data j
    split_ifs with hown
    · exact hold j hj hown
    · exact hout j hj hown

/-! ### Loops over bytes and marks -/

/-- Zeroing the content and unmarking the blocks erases a name. -/
theorem Stores.clear (hbs : 0 < bs) (h : Stores bs count N ext mark data) (hx : x ∈ N)
    (hmark : ∀ b, mark' b =
      if (ext x).start ≤ b ∧ b < (ext x).start + (ext x).width then false else mark b)
    (hdata : ∀ j, data' j =
      if (ext x).start * bs ≤ j ∧ j < (ext x).start * bs + (ext x).bytes.length then 0
      else data j) : Stores bs count (N.erase x) ext mark' data' := by
  refine h.erase hx hmark ?_ ?_
  · intro j hj
    rw [hdata]
    split_ifs with hcontent
    · rfl
    · have hstart := ((ext x).owns_div hbs j).1 hj
      rw [h.bytes x hx j hj, Extent.byteAt_of_le (by omega)]
  · intro j hj
    rw [hdata, if_neg]
    rintro ⟨h1, h2⟩
    exact hj ((h.sound x hx).owns_of_lt hbs h1 h2)

/-- Writing some bytes at the beginning of free blocks and marking these stores a new name; the rest
of its content is zero. -/
theorem Stores.place (hbs : 0 < bs) (h : Stores bs count N ext mark data) (hx : x ∉ N)
    (he : e.Sound bs count) {d : List β} {n : ℕ} (hn : d.length ≤ n) (hbytes : e.bytes = resize n d)
    (hfree : ∀ b, e.Owns b → mark b = false)
    (hmark : ∀ b, mark' b = if e.start ≤ b ∧ b < e.start + e.width then true else mark b)
    (hdata : ∀ j, data' j =
      if e.start * bs ≤ j ∧ j < e.start * bs + d.length then d.getD (j - e.start * bs).toNat 0
      else data j) :
    Stores bs count (Insert.insert x N) (Function.update ext x e) mark' data' := by
  have hlen : e.bytes.length = n := by rw [hbytes, length_resize]
  refine h.insert hx he hfree hmark ?_ ?_
  · intro j hj
    have hstart := (e.owns_div hbs j).1 hj
    have hrange : 0 ≤ j / bs ∧ j / bs < count := by
      have h0 := he.start_nonneg
      have hc := he.le_count
      obtain ⟨h1, h2⟩ := hj
      exact ⟨by omega, by omega⟩
    rw [hdata]
    unfold Extent.byteAt
    rw [hbytes, getD_resize]
    split_ifs with hd hk hk
    · rfl
    · omega
    · rw [h.zeros j hrange.1 hrange.2 (hfree _ hj), List.getD_eq_default _ _ (by omega)]
    · exact h.zeros j hrange.1 hrange.2 (hfree _ hj)
  · intro j hj
    rw [hdata, if_neg]
    rintro ⟨h1, h2⟩
    exact hj (he.owns_of_lt hbs h1 (by omega))

/-- Some bytes of the content are overwritten. -/
theorem Stores.overwrite (hbs : 0 < bs) (h : Stores bs count N ext mark data) (hx : x ∈ N) {p : ℕ}
    {d : List β} (hp : p + d.length ≤ (ext x).bytes.length)
    (hdata : ∀ j, data' j =
      if (ext x).start * bs + p ≤ j ∧ j < (ext x).start * bs + p + d.length then
        d.getD (j - ((ext x).start * bs + p)).toNat 0
      else data j) :
    Stores bs count N
      (Function.update ext x { ext x with bytes := splice p d (ext x).bytes }) mark data' := by
  have hs := h.sound x hx
  refine h.replace hx ⟨hs.width_pos, hs.start_nonneg, hs.le_count, ?_⟩ (fun b hb => Or.inr hb)
    ?_ ?_ ?_ ?_
  · rw [length_splice hp]
    exact hs.fits
  · intro b
    show mark b = if (ext x).Owns b then true else if (ext x).Owns b then false else mark b
    split_ifs with hb
    · exact h.mark_of_owns hx hb
    · rfl
  · intro j hj
    have hstart := ((ext x).owns_div hbs j).1 hj
    show data' j = (splice p d (ext x).bytes).getD (j - (ext x).start * bs).toNat 0
    rw [hdata, getD_splice hp, h.bytes x hx j hj]
    split_ifs with h1 h2 h2
    · congr 1
      omega
    · omega
    · omega
    · rfl
  · intro j hj hj'
    exact absurd hj' hj
  · intro j hj _
    rw [hdata, if_neg]
    rintro ⟨h1, h2⟩
    exact hj (hs.owns_of_lt hbs (by omega) (by omega))

/-- The last bytes are zeroed and the last blocks unmarked. -/
theorem Stores.shrink (hbs : 0 < bs) (h : Stores bs count N ext mark data) (hx : x ∈ N) {n : ℕ}
    {w : ℤ} (h0 : 0 < w) (hw : w ≤ (ext x).width) (hfits : (n : ℤ) ≤ w * bs)
    (hmark : ∀ b, mark' b =
      if (ext x).start + w ≤ b ∧ b < (ext x).start + (ext x).width then false else mark b)
    (hdata : ∀ j, data' j =
      if (ext x).start * bs + n ≤ j ∧ j < (ext x).start * bs + (ext x).bytes.length then 0
      else data j) :
    Stores bs count N
      (Function.update ext x ⟨(ext x).start, w, resize n (ext x).bytes⟩) mark' data' := by
  have hs := h.sound x hx
  have hcount := hs.le_count
  have hsub : ∀ b, (⟨(ext x).start, w, resize n (ext x).bytes⟩ : Extent β).Owns b →
      (ext x).Owns b := by
    intro b hb
    rw [Extent.owns_mk] at hb
    exact ⟨hb.1, by omega⟩
  have hzero : ∀ j, (ext x).Owns (j / bs) → (ext x).start * bs + n ≤ j → data' j = 0 := by
    intro j hj hnj
    rw [hdata]
    split_ifs with hcontent
    · rfl
    · rw [h.bytes x hx j hj, Extent.byteAt_of_le (by omega)]
  refine h.replace hx ⟨h0, hs.start_nonneg, by show (ext x).start + w ≤ count; omega, ?_⟩
    (fun b hb => Or.inr (hsub b hb)) ?_ ?_ ?_ ?_
  · rw [length_resize]
    exact hfits
  · intro b
    rw [hmark]
    by_cases hb : (ext x).Owns b
    · rw [h.mark_of_owns hx hb, if_pos hb]
      obtain ⟨h1, h2⟩ := hb
      by_cases hlt : b < (ext x).start + w
      · rw [if_neg (by omega), if_pos (Extent.owns_mk.2 ⟨h1, hlt⟩)]
      · rw [if_pos (by omega), if_neg (by rw [Extent.owns_mk]; omega)]
    · rw [if_neg, if_neg fun hnew => hb (hsub b hnew), if_neg hb]
      rintro ⟨h1, h2⟩
      exact hb ⟨by omega, h2⟩
  · intro j hj
    have hstart := (Extent.owns_div hbs _ j).1 hj
    have hstart : (ext x).start * bs ≤ j := hstart.1
    by_cases hnj : (ext x).start * bs + n ≤ j
    · rw [hzero j (hsub _ hj) hnj, Extent.byteAt_of_le]
      rw [length_resize]
      exact hnj
    · rw [hdata, if_neg (by omega), h.bytes x hx j (hsub _ hj)]
      show _ = (resize n (ext x).bytes).getD (j - (ext x).start * bs).toNat 0
      rw [getD_resize, if_pos (by omega)]
      rfl
  · intro j hj hj'
    refine hzero j hj' ?_
    have hstart := ((ext x).owns_div hbs j).1 hj'
    by_contra hlt
    refine hj ((Extent.owns_div hbs _ j).2 ⟨hstart.1, ?_⟩)
    show j < ((ext x).start + w) * bs
    rw [add_mul]
    omega
  · intro j _ hj'
    rw [hdata, if_neg]
    rintro ⟨h1, h2⟩
    exact hj' (hs.owns_of_lt hbs (by omega) h2)

/-- The free blocks that follow are marked, and the content is completed with zeros. -/
theorem Stores.grow (hbs : 0 < bs) (h : Stores bs count N ext mark data) (hx : x ∈ N) {n : ℕ}
    (hn : (ext x).bytes.length ≤ n) {w : ℤ} (hw : (ext x).width ≤ w)
    (hcount : (ext x).start + w ≤ count) (hfits : (n : ℤ) ≤ w * bs)
    (hfree : ∀ b, (ext x).start + (ext x).width ≤ b → b < (ext x).start + w → mark b = false)
    (hmark : ∀ b, mark' b =
      if (ext x).start + (ext x).width ≤ b ∧ b < (ext x).start + w then true else mark b) :
    Stores bs count N
      (Function.update ext x ⟨(ext x).start, w, resize n (ext x).bytes⟩) mark' data := by
  have hs := h.sound x hx
  have hpos := hs.width_pos
  have h0 := hs.start_nonneg
  have hsub : ∀ b, (ext x).Owns b →
      (⟨(ext x).start, w, resize n (ext x).bytes⟩ : Extent β).Owns b :=
    fun b hb => ⟨hb.1, by have := hb.2; show b < (ext x).start + w; omega⟩
  have hnew : ∀ b, (⟨(ext x).start, w, resize n (ext x).bytes⟩ : Extent β).Owns b →
      (ext x).Owns b ∨ (0 ≤ b ∧ b < count ∧ mark b = false) := by
    rintro b ⟨h1, h2⟩
    have h1 : (ext x).start ≤ b := h1
    have h2 : b < (ext x).start + w := h2
    by_cases hb : b < (ext x).start + (ext x).width
    · exact Or.inl ⟨h1, hb⟩
    · exact Or.inr ⟨by omega, by omega, hfree b (by omega) h2⟩
  refine h.replace hx ⟨by show 0 < w; omega, h0, hcount, ?_⟩ ?_ ?_ ?_ ?_ ?_
  · rw [length_resize]
    exact hfits
  · intro b hb
    exact (hnew b hb).symm.imp (fun h => h.2.2) id
  · intro b
    rw [hmark]
    by_cases hb : (ext x).Owns b
    · rw [h.mark_of_owns hx hb, ite_self, if_pos (hsub b hb)]
    · rw [if_neg hb]
      refine if_congr ?_ rfl rfl
      have hb' : ¬ ((ext x).start ≤ b ∧ b < (ext x).start + (ext x).width) := hb
      show _ ↔ (ext x).start ≤ b ∧ b < (ext x).start + w
      omega
  · intro j hj
    have hstart := (Extent.owns_div hbs _ j).1 hj
    have hstart : (ext x).start * bs ≤ j := hstart.1
    have hbyte : Extent.byteAt ⟨(ext x).start, w, resize n (ext x).bytes⟩ bs j =
        (ext x).byteAt bs j := by
      show (resize n (ext x).bytes).getD (j - (ext x).start * bs).toNat 0 = _
      rw [getD_resize]
      split_ifs with hk
      · rfl
      · rw [Extent.byteAt_of_le (by omega)]
    rw [hbyte]
    rcases hnew _ hj with hown | ⟨hb0, hbc, hm⟩
    · exact h.bytes x hx j hown
    · rw [h.zeros j hb0 hbc hm, Extent.byteAt_of_le]
      by_contra hlt
      have hown := hs.owns_of_lt hbs hstart (by omega)
      rw [h.mark_of_owns hx hown] at hm
      cases hm
  · intro j hj hj'
    exact absurd (hsub _ hj') hj
  · intro j _ _
    rfl

/-- The blocks are moved back over free ones: the content is zeroed and then copied, the marks are
cleared and then set. -/
theorem Stores.move (hbs : 0 < bs) (h : Stores bs count N ext mark data) (hx : x ∈ N) {l : ℤ}
    (hl0 : 0 ≤ l) (hl : l ≤ (ext x).start)
    (hfree : ∀ b, l ≤ b → b < (ext x).start → mark b = false)
    (hmark : ∀ b, mark' b =
      if l ≤ b ∧ b < l + (ext x).width then true
      else if (ext x).start ≤ b ∧ b < (ext x).start + (ext x).width then false else mark b)
    (hdata : ∀ j, data' j =
      if l * bs ≤ j ∧ j < l * bs + (ext x).bytes.length then
        (ext x).bytes.getD (j - l * bs).toNat 0
      else if (ext x).start * bs ≤ j ∧ j < (ext x).start * bs + (ext x).bytes.length then 0
      else data j) :
    Stores bs count N (Function.update ext x { ext x with start := l }) mark' data' := by
  have hs := h.sound x hx
  have hcount := hs.le_count
  have hsound : Extent.Sound bs count { ext x with start := l } :=
    ⟨hs.width_pos, hl0, by show l + (ext x).width ≤ _; omega, hs.fits⟩
  have hnew : ∀ b, Extent.Owns { ext x with start := l } b → mark b = false ∨ (ext x).Owns b := by
    rintro b ⟨h1, h2⟩
    have h1 : l ≤ b := h1
    have h2 : b < l + (ext x).width := h2
    by_cases hb : b < (ext x).start
    · exact Or.inl (hfree b h1 hb)
    · exact Or.inr ⟨by omega, by omega⟩
  -- outside the new content the device is zero in the old and in the new blocks
  have hzero : ∀ j, (Extent.Owns { ext x with start := l } (j / bs) ∨ (ext x).Owns (j / bs)) →
      ¬ (l * bs ≤ j ∧ j < l * bs + (ext x).bytes.length) → data' j = 0 := by
    intro j hj hnot
    rw [hdata, if_neg hnot]
    split_ifs with hcontent
    · rfl
    · by_cases hown : (ext x).Owns (j / bs)
      · have hstart := ((ext x).owns_div hbs j).1 hown
        rw [h.bytes x hx j hown, Extent.byteAt_of_le (by omega)]
      · have hown' := hj.resolve_right hown
        have h1 := hsound.start_nonneg
        have h2 := hsound.le_count
        have h3 := hown'.1
        have h4 := hown'.2
        exact h.zeros j (by omega) (by omega) ((hnew _ hown').resolve_right hown)
  refine h.replace hx hsound hnew hmark ?_ ?_ ?_
  · intro j hj
    have hstart := (Extent.owns_div hbs _ j).1 hj
    by_cases hcontent : l * bs ≤ j ∧ j < l * bs + (ext x).bytes.length
    · rw [hdata, if_pos hcontent]
      rfl
    · rw [hzero j (Or.inl hj) hcontent, Extent.byteAt_of_le]
      show l * bs + (ext x).bytes.length ≤ j
      have h1 : l * bs ≤ j := hstart.1
      omega
  · intro j hj hj'
    refine hzero j (Or.inr hj') ?_
    rintro ⟨h1, h2⟩
    exact hj (hsound.owns_of_lt hbs h1 h2)
  · intro j hj hj'
    rw [hdata, if_neg, if_neg]
    · rintro ⟨h1, h2⟩
      exact hj' (hs.owns_of_lt hbs h1 h2)
    · rintro ⟨h1, h2⟩
      exact hj (hsound.owns_of_lt hbs h1 h2)

/-- Moving an extent back over unmarked blocks passes no other extent. -/
theorem Stores.sameOrder_move (h : Stores bs count N ext mark data) (hx : x ∈ N) {l : ℤ}
    (hl : l ≤ (ext x).start) (hfree : ∀ b, l ≤ b → b < (ext x).start → mark b = false) :
    SameOrder N ext (Function.update ext x { ext x with start := l }) := by
  -- another extent begins before the unmarked blocks or after the start of this one
  have hfuera : ∀ n ∈ N, n ≠ x → (ext n).start < l ∨ (ext x).start < (ext n).start := by
    intro n hn hne
    have hown := (h.sound n hn).owns_start
    have hmark := h.mark_of_owns hn hown
    by_contra hno
    have heq : (ext n).start = (ext x).start := by
      by_contra hdist
      rw [hfree _ (by omega) (by omega)] at hmark
      cases hmark
    refine h.not_owns hx hn hne hown ?_
    rw [heq]
    exact (h.sound x hx).owns_start
  intro n hn m hm
  by_cases hnx : n = x
  · by_cases hmx : m = x
    · rw [hnx, hmx]
      simp
    · rw [hnx, Function.update_self, Function.update_of_ne hmx]
      have hout := hfuera m hm hmx
      show l < (ext m).start ↔ _
      omega
  · by_cases hmx : m = x
    · rw [hmx, Function.update_self, Function.update_of_ne hnx]
      have hout := hfuera n hn hnx
      show (ext n).start < l ↔ _
      omega
    · rw [Function.update_of_ne hnx, Function.update_of_ne hmx]

end

end Extents
