/-
# Sequences and loops that can fail

A sequence of steps in `Except` succeeds when each of its steps does, and a loop
when each of its rounds does. The rules here turn a success of the whole into the
successes of the parts.
-/

import Mathlib.Data.List.Forall2

namespace LiteIM.Foundation

variable {ε α β : Type}

/-- A sequence that succeeded, step by step. -/
theorem bind_eq_ok_iff {result : Except ε α} {f : α → Except ε β} {value : β} :
    (result >>= f) = .ok value ↔ ∃ mid, result = .ok mid ∧ f mid = .ok value := by
  cases result with
  | ok | error => simp [bind, Except.bind]

/-- A loop that succeeded, round by round: what holds of no rounds, and of one more
round if it holds of the others, holds of the loop. -/
theorem foldlM_ok_induction {round : β → α → Except ε β} {items : List α} {first last : β}
    (hloop : items.foldlM round first = .ok last) (related : List α → β → β → Prop)
    (hnil : ∀ state, related [] state state)
    (hcons : ∀ item items first mid last, round first item = .ok mid →
      related items mid last → related (item :: items) first last) :
    related items first last := by
  induction items generalizing first with
  | nil =>
    obtain rfl := Except.ok.inj hloop
    exact hnil first
  | cons item items ih =>
    rw [List.foldlM_cons] at hloop
    obtain ⟨mid, hround, hrest⟩ := bind_eq_ok_iff.mp hloop
    exact hcons item items first mid last hround (ih hrest)

/-- A loop that collects results succeeds if each round does. -/
theorem mapM_eq_ok_iff {f : α → Except ε β} {items : List α} {values : List β} :
    items.mapM f = .ok values ↔
      List.Forall₂ (fun item value => f item = .ok value) items values := by
  induction items generalizing values with
  | nil => simp [pure, Except.pure, eq_comm]
  | cons item items ih =>
    rw [List.mapM_cons, bind_eq_ok_iff, List.forall₂_cons_left_iff]
    apply exists_congr
    intro value
    apply Iff.intro
    · rintro ⟨hfirst, hrest⟩
      obtain ⟨rest, hrest, hvalues⟩ := bind_eq_ok_iff.mp hrest
      exact ⟨rest, hfirst, ih.mp hrest, (Except.ok.inj hvalues).symm⟩
    · rintro ⟨rest, hfirst, hrest, rfl⟩
      exact ⟨hfirst, bind_eq_ok_iff.mpr ⟨rest, ih.mpr hrest, rfl⟩⟩

end LiteIM.Foundation
