/-
# Priority queues

A priority queue as the list of its entries in the order in which they come to the top:
`r first second` says that `first` may stand before `second`. How a heap is laid out in
memory does not show in its operations.
-/

import Mathlib.Data.List.Sort
import Mathlib.Data.List.TakeWhile

namespace LiteIM.Foundation

open List

structure PriorityQueue {α : Type} (r : α → α → Prop) where
  entries : List α
  sorted : entries.Pairwise r

namespace PriorityQueue

variable {α : Type} {r : α → α → Prop}

def empty : PriorityQueue r := ⟨[], .nil⟩

def top? (queue : PriorityQueue r) : Option α := queue.entries.head?

def pop (queue : PriorityQueue r) : PriorityQueue r := ⟨queue.entries.tail, queue.sorted.tail⟩

/-- Pop for as long as the top satisfies a condition. -/
def popWhile (condition : α → Bool) (queue : PriorityQueue r) : PriorityQueue r :=
  ⟨queue.entries.dropWhile condition, queue.sorted.sublist (dropWhile_sublist _)⟩

def push [DecidableRel r] [Std.Total r] [IsTrans α r] (queue : PriorityQueue r) (entry : α) :
    PriorityQueue r :=
  ⟨queue.entries.orderedInsert r entry, queue.sorted.orderedInsert entry _⟩

instance : Membership α (PriorityQueue r) := ⟨fun queue entry => entry ∈ queue.entries⟩

variable {queue : PriorityQueue r} {entry : α}

theorem mem_def : entry ∈ queue ↔ entry ∈ queue.entries := Iff.rfl

variable {other : α}

@[simp]
theorem mem_push [DecidableRel r] [Std.Total r] [IsTrans α r] :
    other ∈ queue.push entry ↔ other = entry ∨ other ∈ queue := by
  rw [mem_def, push, mem_orderedInsert, mem_def]

theorem notMem_of_top?_eq_none (htop : queue.top? = none) (entry : α) : entry ∉ queue := by
  rw [mem_def, head?_eq_none_iff.mp htop]
  exact not_mem_nil

/-- The entries are the top and those below it. -/
theorem entries_of_top? (htop : queue.top? = some entry) :
    queue.entries = entry :: queue.pop.entries := by
  obtain ⟨rest, hrest⟩ := head?_eq_some_iff.mp htop
  show queue.entries = entry :: queue.entries.tail
  rw [hrest, tail_cons]

/-- Nothing stands before the top. -/
theorem top?_first (htop : queue.top? = some entry) (hother : other ∈ queue) :
    other = entry ∨ r entry other := by
  have hsorted := queue.sorted
  rw [entries_of_top? htop, pairwise_cons] at hsorted
  rw [mem_def, entries_of_top? htop, mem_cons] at hother
  exact hother.imp_right (hsorted.1 other)

theorem mem_pop_of_ne (htop : queue.top? = some entry) (hother : other ∈ queue)
    (hne : other ≠ entry) : other ∈ queue.pop := by
  rw [mem_def, entries_of_top? htop, mem_cons] at hother
  exact hother.resolve_left hne

theorem mem_popWhile_of_false {condition : α → Bool} (hmem : entry ∈ queue)
    (hfalse : condition entry = false) : entry ∈ queue.popWhile condition := by
  rw [mem_def, ← takeWhile_append_dropWhile (p := condition) (l := queue.entries),
    mem_append] at hmem
  rcases hmem with hdropped | hkept
  · rw [mem_takeWhile_imp hdropped] at hfalse
    cases hfalse
  · exact hkept

/-- The top that remains does not satisfy the condition. -/
theorem top?_popWhile {condition : α → Bool} (htop : (queue.popWhile condition).top? = some entry) :
    condition entry = false := by
  have hhead := head?_dropWhile_not condition queue.entries
  rw [show (queue.entries.dropWhile condition).head? = some entry from htop] at hhead
  exact hhead

end PriorityQueue

end LiteIM.Foundation
