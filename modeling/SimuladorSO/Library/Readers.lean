import Mathlib.Tactic

/-!
# Readers of a stream

A reader takes a value off the front of a stream.  `Reads read front a` says that it takes exactly
`front`, whatever comes after, and that the value is `a`: a writer and a reader agree when the reader
reads what the writer wrote.
-/

namespace Readers

variable {β α γ : Type*}

/-- A value and the rest of the stream, or a failure. -/
abbrev Reader (β α : Type*) := List β → Option (α × List β)

/-- The reader takes `front`, and gives `a`, whatever follows. -/
def Reads (read : Reader β α) (front : List β) (a : α) : Prop :=
  ∀ rest, read (front ++ rest) = some (a, rest)

/-- One reader after another. -/
def andThen (read : Reader β α) (next : α → Reader β γ) : Reader β γ :=
  fun s => (read s).bind fun r => next r.1 r.2

/-- The first `n` elements. -/
def take (n : ℕ) : Reader β (List β) :=
  fun s => if n ≤ s.length then some (s.take n, s.drop n) else none

variable {read : Reader β α} {next : α → Reader β γ} {front front' : List β} {a : α} {c : γ}

theorem Reads.andThen (h : Reads read front a) (h' : Reads (next a) front' c) :
    Reads (andThen read next) (front ++ front') c := by
  intro rest
  rw [Readers.andThen, List.append_assoc, h]
  exact h' rest

theorem Reads.map (h : Reads read front a) (f : α → γ) :
    Reads (fun s => (read s).map fun r => (f r.1, r.2)) front (f a) := by
  intro rest
  show (read (front ++ rest)).map _ = _
  rw [h]
  rfl

theorem reads_take {n : ℕ} (h : front.length = n) : Reads (take n) front front := by
  subst h
  intro rest
  rw [take, if_pos (by rw [List.length_append]; omega), List.take_left, List.drop_left]

end Readers
