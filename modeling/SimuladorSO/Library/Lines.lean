import Mathlib.Tactic

/-!
# Lines

The lines of a text: what stands before each separator, and what follows the last one, unless that is
empty.

* `lines`: the lines, over the pieces of the text;
* `line_cases`: a text is one unfinished line, or a line, its separator and the rest;
* `lines_append_cons`, `lines_of_notMem`: its lines in each case.
-/

namespace Lines

variable {α : Type*} [BEq α] [LawfulBEq α] {sep : α} {l s : List α}

/-- The lines of a text. -/
def lines (sep : α) (s : List α) : List (List α) :=
  let pieces := s.splitOn sep
  if pieces.getLast?.any List.isEmpty then pieces.dropLast else pieces

/-- A text is one unfinished line, or a line, its separator and the rest. -/
theorem line_cases (sep : α) (s : List α) :
    sep ∉ s ∨ ∃ l rest, sep ∉ l ∧ s = l ++ sep :: rest := by
  by_cases h : sep ∈ s
  · obtain ⟨l, rest, hs, hl⟩ := List.eq_append_cons_of_mem h
    exact Or.inr ⟨l, rest, hl, hs⟩
  · exact Or.inl h

omit [LawfulBEq α] in
@[simp] theorem lines_nil (sep : α) : lines sep [] = [] := by
  unfold lines
  rw [List.splitOn_nil]
  rfl

/-- A line comes before those of the rest. -/
theorem lines_append_cons (h : sep ∉ l) (rest : List α) :
    lines sep (l ++ sep :: rest) = l :: lines sep rest := by
  have hne : rest.splitOn sep ≠ [] := List.splitOn_ne_nil sep rest
  unfold lines
  rw [List.splitOn_append_cons_self_of_not_mem h]
  dsimp only
  rw [List.getLast?_cons_of_ne_nil hne, List.dropLast_cons_of_ne_nil hne]
  split_ifs
  · rfl
  · rfl

/-- A text without separators is one line. -/
theorem lines_of_notMem (h : sep ∉ s) (hs : s ≠ []) : lines sep s = [s] := by
  unfold lines
  rw [List.splitOn_eq_singleton h]
  simp [hs]

end Lines
