/-
# Queues

A queue, seen as all that was ever appended and how much of that was retrieved: what it holds
is the rest, in order. It also remembers the most it ever held, by which the memory of an
implementation can be bounded.
-/

import Mathlib.Data.List.Basic

namespace LiteIM.Foundation

open List

structure Queue (α : Type) where
  appended : List α := []
  retrieved : Nat := 0
  /-- The most that was held so far. -/
  peak : Nat := 0
  retrieved_le : retrieved ≤ appended.length := by decide
  held_le_peak : (appended.drop retrieved).length ≤ peak := by decide

namespace Queue

variable {α : Type}

def contents (queue : Queue α) : List α := queue.appended.drop queue.retrieved

def append (queue : Queue α) (data : List α) : Queue α where
  appended := queue.appended ++ data
  retrieved := queue.retrieved
  peak := max queue.peak ((queue.appended ++ data).drop queue.retrieved).length
  retrieved_le := by
    rw [length_append]
    exact Nat.le_add_right_of_le queue.retrieved_le
  held_le_peak := Nat.le_max_right _ _

/-- At most what is held can be retrieved. -/
def retrieve? (queue : Queue α) (count : Nat) : Option (Queue α) :=
  if hcount : count ≤ queue.contents.length then
    some
      { appended := queue.appended
        retrieved := queue.retrieved + count
        peak := queue.peak
        retrieved_le := by
          have hretrieved := queue.retrieved_le
          rw [contents, length_drop] at hcount
          omega
        held_le_peak := by
          have hheld := queue.held_le_peak
          rw [length_drop] at hheld ⊢
          omega }
  else none

def retrieveAll (queue : Queue α) : Queue α where
  appended := queue.appended
  retrieved := queue.appended.length
  peak := queue.peak
  retrieved_le := Nat.le_refl _
  held_le_peak := by
    rw [drop_length]
    exact Nat.zero_le _

theorem contents_append (queue : Queue α) (data : List α) :
    (queue.append data).contents = queue.contents ++ data :=
  drop_append_of_le_length queue.retrieved_le

theorem peak_append (queue : Queue α) (data : List α) :
    (queue.append data).peak = max queue.peak (queue.contents ++ data).length := by
  rw [← contents_append]
  rfl

theorem contents_retrieveAll (queue : Queue α) : queue.retrieveAll.contents = [] :=
  drop_length

theorem retrieve?_of_le {queue : Queue α} {count : Nat} (hcount : count ≤ queue.contents.length) :
    ∃ after, queue.retrieve? count = some after ∧
      after.contents = queue.contents.drop count ∧ after.peak = queue.peak := by
  refine ⟨_, dif_pos hcount, ?_, rfl⟩
  rw [contents, contents, drop_drop]

theorem retrieve?_of_lt {queue : Queue α} {count : Nat}
    (hcount : queue.contents.length < count) : queue.retrieve? count = none :=
  dif_neg (Nat.not_le.mpr hcount)

end Queue

end LiteIM.Foundation
