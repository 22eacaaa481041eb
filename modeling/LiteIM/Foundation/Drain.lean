/-
# Draining a queue

A consumer takes some items from the front of a queue, acknowledges them, and starts again
until it finds the queue empty. Only the acknowledgement removes items, and at any time
others may be appended. Every item is then taken once and in order, and the consumer ends
when the appending does.
-/

import LiteIM.Foundation.Transition

namespace LiteIM.Foundation

open List

/-- What the consumer does next; `acking` knows how many items it took. -/
inductive Drain.Phase where
  | pulling
  | acking (count : Nat)
  | finished

structure Drain (α : Type) where
  pending : List α
  phase : Drain.Phase

namespace Drain

variable {α : Type}

inductive Action (α : Type) where
  | take (batch : List α)
  | ack
  | add (items : List α)

inductive Step : Drain α → Action α → Drain α → Prop where
  | take {pending : List α} {limit : Nat} (nonempty : pending.take limit ≠ []) :
      Step ⟨pending, .pulling⟩ (.take (pending.take limit))
        ⟨pending, .acking (pending.take limit).length⟩
  | finish : Step ⟨[], .pulling⟩ (.take []) ⟨[], .finished⟩
  | ack {pending : List α} {count : Nat} :
      Step ⟨pending, .acking count⟩ .ack ⟨pending.drop count, .pulling⟩
  | add {pending items : List α} {phase : Phase} :
      Step ⟨pending, phase⟩ (.add items) ⟨pending ++ items, phase⟩

def Action.batch? : Action α → Option (List α)
  | .take batch => some batch
  | _ => none

def Action.items : Action α → List α
  | .add items => items
  | _ => []

/-- What was taken so far, one batch at a time. -/
def batches (actions : List (Action α)) : List (List α) := actions.filterMap Action.batch?

/-- What was appended so far. -/
def added (actions : List (Action α)) : List α := actions.flatMap Action.items

@[simp]
theorem batches_snoc (actions : List (Action α)) (action : Action α) :
    batches (actions ++ [action]) = batches actions ++ action.batch?.toList :=
  filterMap_snoc _ _ _

@[simp]
theorem added_snoc (actions : List (Action α)) (action : Action α) :
    added (actions ++ [action]) = added actions ++ action.items := by
  simp [added]

/-- The items that are neither taken nor going to be appended. -/
def left (drain : Drain α) : List α :=
  match drain.phase with
  | .acking count => drain.pending.drop count
  | _ => drain.pending

/-- How the work stands that began with the items `first`. -/
structure Progress (first : List α) (actions : List (Action α)) (drain : Drain α) : Prop where
  taken : (batches actions).flatten ++ drain.left = first ++ added actions
  within : ∀ count, drain.phase = .acking count → count ≤ drain.pending.length
  /-- Only the last batch may be empty. -/
  counted : (batches actions).length ≤ (batches actions).flatten.length + 1
  counted_before : drain.phase ≠ .finished →
    (batches actions).length ≤ (batches actions).flatten.length
  complete : drain.phase = .finished → first <+: (batches actions).flatten

variable {first : List α} {actions : List (Action α)} {drain : Drain α}

theorem Progress.step {next : Drain α} {action : Action α}
    (hprogress : Progress first actions drain) (hstep : Step drain action next) :
    Progress first (actions ++ [action]) next := by
  have htaken := hprogress.taken
  cases hstep with
  | @take pending limit hnonempty =>
    have hcount := hprogress.counted_before (by simp)
    have hlength := length_pos_iff.mpr hnonempty
    refine ⟨?_, ?_, ?_, ?_, by simp⟩
    · simp only [left] at htaken
      simp only [left, batches_snoc, added_snoc, Action.batch?, Action.items,
        Option.toList_some, flatten_append, flatten_singleton, append_nil,
        append_assoc]
      rw [← htaken, prefix_iff_eq_append.mp (List.take_prefix limit pending)]
    · intro count hphase
      rw [← Phase.acking.inj hphase, length_take]
      exact Nat.min_le_right _ _
    · simp only [batches_snoc, Action.batch?, Option.toList_some, flatten_append,
        flatten_singleton, length_append, length_singleton]
      omega
    · intro _
      simp only [batches_snoc, Action.batch?, Option.toList_some, flatten_append,
        flatten_singleton, length_append, length_singleton]
      omega
  | finish =>
    have hcount := hprogress.counted_before (by simp)
    refine ⟨?_, by simp, ?_, by simp, fun _ => ?_⟩
    · simpa [left, Action.batch?, Action.items] using htaken
    · simpa [Action.batch?] using hcount
    · refine ⟨added actions, ?_⟩
      simpa [left, Action.batch?] using htaken.symm
  | ack =>
    refine ⟨?_, by simp, ?_, fun _ => ?_, by simp⟩
    · simpa [left, Action.batch?, Action.items] using htaken
    · simpa [Action.batch?] using hprogress.counted
    · simpa [Action.batch?] using hprogress.counted_before (by simp)
  | @add pending items phase =>
    refine ⟨?_, ?_, ?_, ?_, ?_⟩
    · have hleft : left ⟨pending ++ items, phase⟩ = left ⟨pending, phase⟩ ++ items := by
        cases phase with
        | acking count =>
          exact drop_append_of_le_length (hprogress.within count rfl)
        | pulling | finished => rfl
      simp only [hleft, batches_snoc, added_snoc, Action.batch?, Action.items,
        Option.toList_none, append_nil, ← append_assoc, htaken]
    · intro count hphase
      rw [length_append]
      exact Nat.le_add_right_of_le (hprogress.within count hphase)
    · simpa [Action.batch?] using hprogress.counted
    · simpa [Action.batch?] using hprogress.counted_before
    · simpa [Action.batch?] using hprogress.complete

/-- How the work stands after any steps. -/
theorem progress_of_path (hpath : Path Step ⟨first, .pulling⟩ actions drain) :
    Progress first actions drain := by
  apply hpath.invariant (Progress first)
  · exact ⟨by simp [batches, added, left], by simp, by simp [batches], by simp [batches], by simp⟩
  · exact fun past before action after _ hbefore hstep => hbefore.step hstep

/-- Everything taken is something that was there or was appended, in that order. -/
theorem Progress.prefix_added (hprogress : Progress first actions drain) :
    (batches actions).flatten <+: first ++ added actions :=
  ⟨drain.left, hprogress.taken⟩

/-- There are no more batches than items, and the empty one at the end. -/
theorem Progress.length_batches_le (hprogress : Progress first actions drain) :
    (batches actions).length ≤ first.length + (added actions).length + 1 := by
  have hlength := hprogress.prefix_added.length_le
  rw [length_append] at hlength
  exact Nat.le_trans hprogress.counted (Nat.succ_le_succ hlength)

end Drain

end LiteIM.Foundation
