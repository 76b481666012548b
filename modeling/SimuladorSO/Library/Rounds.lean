import SimuladorSO.Library.Loops

/-!
# Going once round a queue

A loop that pops the elements of a queue one by one: each is gathered, or put back at the end.

* `turn`: one iteration;
* `iterate_turn`: as many iterations as there are elements;
* `iterate_turn_unique`: what they do when exactly one element is gathered.
-/

namespace Rounds

open Loops

variable {α σ : Type*} {take : α → Bool} {gather : σ → α → σ}

/-- The head is gathered, or put back at the end. -/
def turn (take : α → Bool) (gather : σ → α → σ) : List α × σ → List α × σ
  | ([], s) => ([], s)
  | (a :: rest, s) => if take a then (rest, gather s a) else (rest ++ [a], s)

/-- The elements that were there go once round the queue, and those put back keep their order. -/
theorem iterate_turn (take : α → Bool) (gather : σ → α → σ) (queue rest : List α) (s : σ) :
    iterate (fun _ => turn take gather) queue.length (queue ++ rest, s) =
      (rest ++ queue.filter (fun a => !take a), (queue.filter take).foldl gather s) := by
  induction queue using List.reverseRecOn generalizing rest with
  | nil => simp
  | append_singleton queue a ih =>
    -- the last turn finds `a` at the head
    rw [List.length_append, List.length_singleton, iterate_succ, List.append_assoc, ih]
    cases ha : take a with
    | true => simp [turn, ha]
    | false => simp [turn, ha]

/-- When one element is gathered, the others are the queue. -/
theorem iterate_turn_unique {front back : List α} {a : α} (ha : take a = true)
    (hfront : ∀ b ∈ front, take b = false) (hback : ∀ b ∈ back, take b = false) (s : σ) :
    iterate (fun _ => turn take gather) (front ++ a :: back).length (front ++ a :: back, s) =
      (front ++ back, gather s a) := by
  have hround := iterate_turn take gather (front ++ a :: back) [] s
  have hkept : ∀ l : List α, (∀ b ∈ l, take b = false) → l.filter (fun b => !take b) = l :=
    fun l hl => List.filter_eq_self.2 fun b hb => by rw [hl b hb]; rfl
  have htaken : ∀ l : List α, (∀ b ∈ l, take b = false) → l.filter take = [] :=
    fun l hl => List.filter_eq_nil_iff.2 fun b hb => by rw [hl b hb]; exact Bool.false_ne_true
  rw [List.append_nil, List.nil_append] at hround
  rw [hround, List.filter_append, List.filter_append, List.filter_cons, List.filter_cons, ha,
    hkept front hfront, hkept back hback, htaken front hfront, htaken back hback]
  rfl

end Rounds
