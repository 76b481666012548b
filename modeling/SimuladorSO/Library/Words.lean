import Mathlib.Tactic

/-!
# Words of a text

A word without separators occurs in a text only inside one of its words
(`infix_intercalate_iff`): there are no occurrences across a separator.
-/

namespace Words

variable {α : Type*} {sep : α} {w a b : List α}

/-- An occurrence in two pieces with a separator between them is in one of the two. -/
theorem infix_append_cons_iff (hw : sep ∉ w) (hne : w ≠ []) :
    w <:+: a ++ sep :: b ↔ w <:+: a ∨ w <:+: b := by
  constructor
  · intro h
    rcases List.infix_append_iff_ne_nil.1 h with h | h | ⟨l₁, l₂, -, hl₂, rfl, -, hstart⟩
    · exact Or.inl h
    · rcases List.infix_cons_iff.1 h with hstart | h
      · rcases List.prefix_cons_iff.1 hstart with rfl | ⟨t, rfl, -⟩
        · exact absurd rfl hne
        · exact absurd List.mem_cons_self hw
      · exact Or.inr h
    · rcases List.prefix_cons_iff.1 hstart with rfl | ⟨t, rfl, -⟩
      · exact absurd rfl hl₂
      · exact absurd (List.mem_append_right l₁ List.mem_cons_self) hw
  · rintro (h | h)
    · exact List.infix_append_of_infix_left h
    · exact List.infix_append_of_infix_right (List.infix_cons h)

/-- A word without separators occurs in a text exactly if it occurs in one of its words. -/
theorem infix_intercalate_iff (hw : sep ∉ w) (hne : w ≠ []) (words : List (List α)) :
    w <:+: [sep].intercalate words ↔ ∃ v ∈ words, w <:+: v := by
  induction words with
  | nil =>
    rw [List.intercalate_nil]
    simpa using hne
  | cons v words ih =>
    cases words with
    | nil => simp
    | cons v' words =>
      rw [List.intercalate_cons_cons, List.append_assoc, List.singleton_append,
        infix_append_cons_iff hw hne, ih, List.exists_mem_cons_iff (a := v)]

end Words
