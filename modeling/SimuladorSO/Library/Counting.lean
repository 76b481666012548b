import Mathlib.Tactic

/-!
# Counting semaphores with recorded takers

A counter starts at `init`; every taker is recorded when it takes, whether an instance is left for
it or it has to wait, and a negative counter is the number of those who wait.

* `Counted init n records waiters`: the counter is `init` less the records, and the waiters are the
  records that exceed `init`;
* `take_grant`, `take_wait`, `give_free`, `give_wake`, `quit`: the operations keep it;
* `granted_le`, `waiters_eq_zero`, `waiters_eq_max`: what it says to the users.
-/

namespace Counting

/-- The counter and the number of waiters agree with the number of records. -/
structure Counted (init n : ℤ) (records waiters : ℕ) : Prop where
  value : n = init - records
  waiting : (waiters : ℤ) = max 0 (records - max init 0)

variable {init n : ℤ} {records waiters : ℕ}

/-- Nothing taken. -/
theorem Counted.start (init : ℤ) : Counted init init 0 0 where
  value := by simp
  waiting := by simp

/-- An instance is taken by one who need not wait. -/
theorem Counted.take_grant (h : Counted init n records waiters) (hn : 0 ≤ n - 1) :
    Counted init (n - 1) (records + 1) waiters := by
  obtain ⟨hv, hw⟩ := h
  constructor
  · push_cast
    omega
  · push_cast
    omega

/-- One who finds no instance is recorded and waits. -/
theorem Counted.take_wait (h : Counted init n records waiters) (hn : n - 1 < 0) :
    Counted init (n - 1) (records + 1) (waiters + 1) := by
  obtain ⟨hv, hw⟩ := h
  constructor
  · push_cast
    omega
  · push_cast
    omega

/-- A record is given back and nobody waits for it. -/
theorem Counted.give_free (h : Counted init n (records + 1) waiters) (hn : 0 < n + 1) :
    Counted init (n + 1) records waiters := by
  obtain ⟨hv, hw⟩ := h
  push_cast at hv hw
  constructor
  · omega
  · omega

/-- Nobody waits when the counter is positive once a record is given back. -/
theorem Counted.waiters_of_free (h : Counted init n (records + 1) waiters) (hn : 0 < n + 1) :
    waiters = 0 := by
  obtain ⟨hv, hw⟩ := h
  push_cast at hv hw
  omega

/-- A record is given back while somebody waits, who is woken. -/
theorem Counted.give_wake (h : Counted init n (records + 1) waiters) (hn : n + 1 ≤ 0) :
    0 < waiters ∧ Counted init (n + 1) records (waiters - 1) := by
  obtain ⟨hv, hw⟩ := h
  push_cast at hv hw
  have hpos : 0 < waiters := by omega
  refine ⟨hpos, ?_, ?_⟩
  · omega
  · rw [Nat.cast_pred hpos]
    omega

/-- One who waits gives up, and its record with it. -/
theorem Counted.quit (h : Counted init n (records + 1) (waiters + 1)) :
    Counted init (n + 1) records waiters := by
  obtain ⟨hv, hw⟩ := h
  push_cast at hv hw
  constructor
  · omega
  · omega

/-- The records of those who do not wait never exceed the instances. -/
theorem Counted.granted_le (h : Counted init n records waiters) (hi : 0 ≤ init) :
    (records : ℤ) - waiters ≤ init := by
  have hw := h.waiting
  omega

/-- The counter, when negative, counts the waiters. -/
theorem Counted.waiters_eq_max (h : Counted init n records waiters) (hi : 0 ≤ init) :
    (waiters : ℤ) = max 0 (-n) := by
  have hv := h.value
  have hw := h.waiting
  omega

/-- Nobody waits while an instance is free. -/
theorem Counted.waiters_eq_zero (h : Counted init n records waiters) (hi : 0 ≤ init)
    (hn : 0 < n) : waiters = 0 := by
  have hw := h.waiters_eq_max hi
  omega

end Counting
