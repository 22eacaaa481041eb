/-
# Mutually inverse partial maps

Two tables that record one relation from both ends are kept in step by editing
them in pairs. The edits that keep them mutually inverse are dropping a pair from
both ends, and adding a pair whose ends are free.
-/

import Mathlib.Logic.Function.Basic

namespace LiteIM.Foundation

open Function

variable {α β : Type} [DecidableEq α] [DecidableEq β]

/-- Each map is the inverse of the other where it is defined. -/
def PartialInverse (forward : α → Option β) (backward : β → Option α) : Prop :=
  ∀ a b, forward a = some b ↔ backward b = some a

namespace PartialInverse

variable {forward : α → Option β} {backward : β → Option α}

omit [DecidableEq α] [DecidableEq β] in
theorem empty : PartialInverse (fun _ : α => (none : Option β)) (fun _ => none) := by
  intro a b
  simp

variable {a : α} {b : β}

omit [DecidableEq α] [DecidableEq β] in
/-- Nothing is reached from two sides. -/
theorem injective (hinverse : PartialInverse forward backward) {a' : α} (ha : forward a = some b)
    (ha' : forward a' = some b) : a = a' := by
  have hback := (hinverse a b).mp ha
  rw [(hinverse a' b).mp ha'] at hback
  exact (Option.some.inj hback).symm

theorem erase (hinverse : PartialInverse forward backward) (hpair : forward a = some b) :
    PartialInverse (update forward a none) (update backward b none) := by
  intro a' b'
  by_cases ha : a' = a
  · subst ha
    by_cases hb : b' = b
    · simp [hb]
    · have hother : backward b' ≠ some a' := fun hback => hb
        (Option.some.inj ((hpair.symm.trans ((hinverse a' b').mpr hback)))).symm
      simp [hb, hother]
  · by_cases hb : b' = b
    · subst hb
      have hother : forward a' ≠ some b' := fun hforward => ha
        (hinverse.injective hforward hpair)
      simp [ha, hother]
    · simpa [ha, hb] using hinverse a' b'

theorem insert (hinverse : PartialInverse forward backward) (hforward : forward a = none)
    (hbackward : backward b = none) : PartialInverse (update forward a (some b))
      (update backward b (some a)) := by
  intro a' b'
  by_cases ha : a' = a
  · subst ha
    by_cases hb : b' = b
    · simp [hb]
    · have hother : backward b' ≠ some a' := fun hback => by
        simp [(hinverse a' b').mpr hback] at hforward
      simp [hb, hother, Ne.symm hb]
  · by_cases hb : b' = b
    · subst hb
      have hother : forward a' ≠ some b' := fun hforward' => by
        simp [(hinverse a' b').mp hforward'] at hbackward
      simp [ha, hother, Ne.symm ha]
    · simpa [ha, hb] using hinverse a' b'

end PartialInverse

end LiteIM.Foundation
