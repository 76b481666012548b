import Mathlib.Tactic

/-!
# Matching answers to a queue

A client puts its requests in a queue of its own and sends them in that order.  The answers come one
for each request, in the order of the requests, and say nothing else: each is taken to be for the
head of the queue.

`Matched queue pending sent popped requests answers`: the queue holds the requests that were sent and
have not been matched, and then those still to be sent (`pending`).  Hence the element taken for the
`k`-th answer is the `k`-th that was sent (`Matched.popped_sent`), and there is one whenever there
is an answer (`Matched.pop`).
-/

namespace Matching

variable {α : Type*}

/-- The queue of a client with `requests` unanswered requests and `answers` unread answers. -/
structure Matched (queue pending sent popped : List α) (requests answers : ℕ) : Prop where
  order : popped ++ queue = sent ++ pending
  balance : popped.length + answers + requests = sent.length

variable {queue pending sent popped : List α} {requests answers : ℕ} {p : α}

theorem Matched.empty : Matched ([] : List α) [] [] [] 0 0 := ⟨rfl, rfl⟩

/-- A request is queued. -/
theorem Matched.push (h : Matched queue pending sent popped requests answers) (p : α) :
    Matched (queue ++ [p]) (pending ++ [p]) sent popped requests answers where
  order := by simp only [← List.append_assoc, h.order]
  balance := h.balance

/-- The first request that is pending is sent. -/
theorem Matched.send (h : Matched queue (p :: pending) sent popped requests answers) :
    Matched queue pending (sent ++ [p]) popped (requests + 1) answers where
  order := by simp [h.order]
  balance := by simp [← h.balance]; omega

/-- A request is answered. -/
theorem Matched.answer (h : Matched queue pending sent popped (requests + 1) answers) :
    Matched queue pending sent popped requests (answers + 1) where
  order := h.order
  balance := by have := h.balance; omega

/-- What was taken is a first part of what was sent. -/
theorem Matched.popped_sent (h : Matched queue pending sent popped requests answers) :
    popped <+: sent := by
  have hlen : popped.length ≤ sent.length := by have := h.balance; omega
  have hleft : popped <+: sent ++ pending := ⟨queue, h.order⟩
  exact List.prefix_of_prefix_length_le hleft (List.prefix_append sent pending) hlen

/-- An answer finds its request at the head of the queue. -/
theorem Matched.pop (h : Matched queue pending sent popped requests (answers + 1)) :
    ∃ p rest, queue = p :: rest ∧ sent[popped.length]? = some p ∧
      Matched rest pending sent (popped ++ [p]) requests answers := by
  have hlt : popped.length < sent.length := by have := h.balance; omega
  have hget : (popped ++ queue)[popped.length]? = sent[popped.length]? := by
    rw [h.order, List.getElem?_append_left hlt]
  cases queue with
  | nil =>
    rw [List.append_nil, List.getElem?_eq_none le_rfl, List.getElem?_eq_getElem hlt] at hget
    cases hget
  | cons p rest =>
    rw [List.getElem?_append_right le_rfl, Nat.sub_self] at hget
    refine ⟨p, rest, rfl, hget.symm, ?_, ?_⟩
    · rw [List.append_assoc]
      exact h.order
    · have := h.balance
      simp
      omega

end Matching
