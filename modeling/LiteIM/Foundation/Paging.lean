/-
# Reading in pages

A reader asks for one page after another. Every request but the first carries a cursor
that the page before it gives, and an empty page ends the reading. When a page is the
beginning of what is left to read, and what is left after it is the rest, the pages end
and are together what was left at first.
-/

import Mathlib.Data.List.Basic
import Mathlib.Data.List.Pairwise

namespace LiteIM.Foundation

open List

variable {α κ : Type}

/-- The pages of a reader from the `n`-th request on. `answers` says which page a request
with a cursor is answered with. -/
inductive Pages (answers : Nat → κ → List α → Prop) (next : List α → κ) :
    Nat → κ → List (List α) → Prop where
  | done {n : Nat} {cursor : κ} (answered : answers n cursor []) : Pages answers next n cursor []
  | more {n : Nat} {cursor : κ} {page : List α} {rest : List (List α)}
      (answered : answers n cursor page) (nonempty : page ≠ [])
      (later : Pages answers next (n + 1) (next page) rest) :
      Pages answers next n cursor (page :: rest)

/-- A page is the beginning of what is left, and leaves the rest. -/
structure Serves (answers : Nat → κ → List α → Prop) (next : List α → κ)
    (left : Nat → κ → List α) (n : Nat) (cursor : κ) (limit : Nat) : Prop where
  positive : 0 < limit
  answered : answers n cursor ((left n cursor).take limit)
  rest : (left n cursor).take limit ≠ [] →
    left (n + 1) (next ((left n cursor).take limit)) = (left n cursor).drop limit

/-- Such pages end. -/
theorem exists_pages {answers : Nat → κ → List α → Prop} {next : List α → κ}
    {left : Nat → κ → List α}
    (hserves : ∀ n cursor, ∃ limit, Serves answers next left n cursor limit)
    (n : Nat) (cursor : κ) :
    ∃ pages, Pages answers next n cursor pages ∧ pages.flatten = left n cursor := by
  -- What is left gets shorter with every page.
  induction hlength : (left n cursor).length using Nat.strongRecOn
    generalizing n cursor with
  | ind length ih =>
    obtain ⟨limit, hpage⟩ := hserves n cursor
    have hanswered := hpage.answered
    by_cases hempty : (left n cursor).take limit = []
    · have hnothing : left n cursor = [] := by
        cases take_eq_nil_iff.mp hempty with
        | inl hzero => exact (Nat.ne_of_gt hpage.positive hzero).elim
        | inr hnil => exact hnil
      rw [hempty] at hanswered
      exact ⟨[], .done hanswered, hnothing.symm⟩
    · have hrest := hpage.rest hempty
      have hsome : left n cursor ≠ [] := fun hnil => hempty (by rw [hnil, take_nil])
      have hshorter : ((left n cursor).drop limit).length < length := by
        rw [length_drop, ← hlength]
        exact Nat.sub_lt (length_pos_iff.mpr hsome) hpage.positive
      obtain ⟨pages, hpages, hflatten⟩ := ih _ hshorter (n + 1) _ (congrArg List.length hrest)
      refine ⟨_ :: pages, .more hanswered hempty hpages, ?_⟩
      rw [flatten_cons, hflatten, hrest, take_append_drop]

section Cursor

variable (key : α → Nat)

/-- In a list in decreasing order, what is below an element is what follows it. -/
theorem filter_below {before after : List α} {row : α}
    (hsorted : (before ++ row :: after).Pairwise fun first second => key second < key first) :
    (before ++ row :: after).filter (fun other => key other < key row) = after := by
  obtain ⟨-, htail, hacross⟩ := pairwise_append.mp hsorted
  have hbefore : before.filter (fun other => key other < key row) = [] := by
    apply filter_eq_nil_iff.mpr
    intro other hmem
    have hlarger := hacross other hmem row mem_cons_self
    simpa using Nat.le_of_lt hlarger
  have hafter : after.filter (fun other => key other < key row) = after := by
    apply filter_eq_self.mpr
    intro other hmem
    simpa using (pairwise_cons.mp htail).1 other hmem
  rw [filter_append, hbefore, nil_append, filter_cons_of_neg (by simp), hafter]

/-- What is below the last row of a page is the rest. -/
theorem filter_below_getLast {rows : List α} {limit : Nat} {row : α}
    (hsorted : rows.Pairwise fun first second => key second < key first)
    (hlast : (rows.take limit).getLast? = some row) :
    rows.filter (fun other => key other < key row) = rows.drop limit := by
  obtain ⟨before, hpage⟩ := getLast?_eq_some_iff.mp hlast
  have hrows : rows = before ++ row :: rows.drop limit := by
    rw [← singleton_append, ← append_assoc, ← hpage, take_append_drop]
  rw [hrows] at hsorted
  conv_lhs => rw [hrows]
  exact filter_below key hsorted

end Cursor

end LiteIM.Foundation
