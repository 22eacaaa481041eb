/-
# Quotas that are checked before they are charged

Whoever is let in is charged later, and whether to let in is decided by what was charged so
far. Those let in and not charged yet are pending: the check does not see them. So the quota
is exceeded by as many as may be pending at once, and by no more.

What enters, is charged or leaves is given here by the sets it results in, so that the rules
apply to any system in which these sets can be read off a state.
-/

import Mathlib.Data.Finset.Card

namespace LiteIM.Foundation

open Finset

/-- A counter, those who were charged to it, and those who were let in and are not charged
yet. -/
structure Quota (ι : Type) where
  count : Nat
  charged : Finset ι
  pending : Finset ι

namespace Quota

variable {ι : Type} [DecidableEq ι]

/-- One is let in while the count is below the limit and fewer than `width` are pending. A
charge counts, or the count is beyond the limit anyway. -/
inductive Step (limit width : Nat) (quota next : Quota ι) : Prop where
  | enter (i : ι) (hlimit : quota.count < limit) (hwidth : quota.pending.card < width)
      (hcount : quota.count ≤ next.count) (hcharged : next.charged ⊆ quota.charged)
      (hpending : next.pending ⊆ insert i quota.pending)
  | charge (i : ι) (hmem : i ∈ quota.pending)
      (hcount : quota.count < next.count ∨ limit ≤ next.count)
      (hcharged : next.charged ⊆ insert i quota.charged)
      (hpending : next.pending ⊆ quota.pending.erase i)
  | leave (hcount : quota.count ≤ next.count) (hcharged : next.charged ⊆ quota.charged)
      (hpending : next.pending ⊆ quota.pending)

/-- Every charge was counted, up to the limit, and the quota is exceeded by those pending. -/
structure Within (limit width : Nat) (quota : Quota ι) : Prop where
  counted : quota.charged.card ≤ quota.count ∨ limit ≤ quota.count
  total : quota.charged.card + quota.pending.card ≤ limit - 1 + width

theorem Within.step {limit width : Nat} {quota next : Quota ι}
    (hwithin : Within limit width quota) (hstep : Step limit width quota next) :
    Within limit width next := by
  obtain ⟨hcounted, htotal⟩ := hwithin
  cases hstep with
  | enter i hlimit hwidth hcount hcharged hpending =>
    have hless := card_le_card hcharged
    have hmore := (card_le_card hpending).trans (card_insert_le i quota.pending)
    exact ⟨by omega, by omega⟩
  | charge i hmem hcount hcharged hpending =>
    have hmore := (card_le_card hcharged).trans (card_insert_le i quota.charged)
    have hless := card_le_card hpending
    rw [card_erase_of_mem hmem] at hless
    have hpositive := card_pos.mpr ⟨i, hmem⟩
    exact ⟨by omega, by omega⟩
  | leave hcount hcharged hpending =>
    have hless := card_le_card hcharged
    have hfewer := card_le_card hpending
    exact ⟨by omega, by omega⟩

end Quota

end LiteIM.Foundation
