/-
# Labelled transitions

A system whose threads are told apart only by what they do: a step carries a label, and
a path is a sequence of steps together with its labels. What happened so far is then in
the labels, and a state holds nothing but what the modelled program keeps.

An invariant may speak of the labels and of the state at once. A system that is part of
a larger one takes some of its steps: its own path is read off the path of the whole.
-/

import Mathlib.Data.List.Basic

namespace LiteIM.Foundation

open List

theorem filterMap_snoc {α β : Type} (f : α → Option β) (past : List α) (last : α) :
    (past ++ [last]).filterMap f = past.filterMap f ++ (f last).toList := by
  cases hlast : f last <;> simp [hlast]

section Path

variable {S L : Type}

/-- Steps one after another, with their labels. -/
inductive Path (step : S → L → S → Prop) (first : S) : List L → S → Prop where
  | nil : Path step first [] first
  | snoc {mid last : S} {labels : List L} {label : L} (path : Path step first labels mid)
      (taken : step mid label last) : Path step first (labels ++ [label]) last

variable {step : S → L → S → Prop} {first mid last : S} {labels : List L}

/-- What holds at the beginning and is kept by every step holds at the end. -/
theorem Path.invariant (hpath : Path step first labels last) (property : List L → S → Prop)
    (hfirst : property [] first)
    (hstep : ∀ past before label after, Path step first past before → property past before →
      step before label after → property (past ++ [label]) after) : property labels last := by
  induction hpath with
  | nil => exact hfirst
  | snoc path taken ih => exact hstep _ _ _ _ path ih taken

/-- An invariant of the states alone. -/
theorem Path.state_invariant (hpath : Path step first labels last) (property : S → Prop)
    (hfirst : property first)
    (hstep : ∀ before label after, property before → step before label after → property after) :
    property last := by
  apply hpath.invariant (fun _ state => property state) hfirst
  intro past before label after _ hbefore htaken
  exact hstep before label after hbefore htaken

variable {rest : List L}

theorem Path.trans (hfirst : Path step first labels mid) (hrest : Path step mid rest last) :
    Path step first (labels ++ rest) last := by
  induction hrest with
  | nil =>
    rw [append_nil]
    exact hfirst
  | snoc path taken ih =>
    rw [← append_assoc]
    exact ih.snoc taken

variable {label : L}

theorem Path.single (htaken : step first label last) : Path step first [label] last :=
  Path.nil.snoc htaken

theorem Path.cons (htaken : step first label mid) (hrest : Path step mid rest last) :
    Path step first (label :: rest) last :=
  (Path.single htaken).trans hrest

/-- The state between two parts of a path. -/
theorem Path.split {past : List L} (hpath : Path step first (past ++ rest) last) :
    ∃ mid, Path step first past mid ∧ Path step mid rest last := by
  generalize hlabels : past ++ rest = labels at hpath
  induction hpath generalizing rest with
  | nil =>
    obtain ⟨rfl, rfl⟩ := append_eq_nil_iff.mp hlabels
    exact ⟨first, .nil, .nil⟩
  | @snoc mid last labels label path taken ih =>
    rcases eq_nil_or_concat rest with rfl | ⟨init, final, rfl⟩
    · rw [append_nil] at hlabels
      subst hlabels
      exact ⟨last, path.snoc taken, .nil⟩
    · rw [concat_eq_append, ← append_assoc] at hlabels
      obtain ⟨hinit, hfinal⟩ := append_inj' hlabels rfl
      obtain ⟨between, hpast, hrest⟩ := ih hinit
      rw [concat_eq_append, hfinal]
      exact ⟨between, hpast, hrest.snoc taken⟩

theorem Path.eq_of_nil (hpath : Path step first [] last) : last = first := by
  generalize hlabels : ([] : List L) = labels at hpath
  cases hpath with
  | nil => rfl
  | snoc => simp at hlabels

/-- The first step of a path. -/
theorem Path.head (hpath : Path step first (label :: rest) last) :
    ∃ mid, step first label mid ∧ Path step mid rest last := by
  generalize hlabels : label :: rest = labels at hpath
  induction hpath generalizing rest with
  | nil => exact nomatch hlabels
  | @snoc mid last labels final path taken ih =>
    cases labels with
    | nil =>
      obtain ⟨rfl, rfl⟩ := cons_eq_cons.mp hlabels
      obtain rfl := path.eq_of_nil
      exact ⟨last, taken, .nil⟩
    | cons =>
      obtain ⟨rfl, rfl⟩ := cons_eq_cons.mp hlabels
      obtain ⟨second, hfirst, hrest⟩ := ih rfl
      exact ⟨second, hfirst, hrest.snoc taken⟩

/-- Every path of a restricted system is one of the system. -/
theorem Path.mono {weaker : S → L → S → Prop} (hpath : Path step first labels last)
    (hweaker : ∀ before label after, step before label after → weaker before label after) :
    Path weaker first labels last := by
  induction hpath with
  | nil => exact .nil
  | snoc path taken ih => exact ih.snoc (hweaker _ _ _ taken)

/-- The steps of a path may be taken to start where an invariant holds. -/
theorem Path.guarded (hpath : Path step first labels last) (property : S → Prop)
    (hfirst : property first)
    (hstep : ∀ before label after, property before → step before label after → property after) :
    Path (fun before label after => property before ∧ step before label after) first labels
      last := by
  induction hpath with
  | nil => exact .nil
  | snoc path taken ih => exact ih.snoc ⟨path.state_invariant property hfirst hstep, taken⟩

/-- A step with a label, and no change without one. -/
def Optionally (step : S → L → S → Prop) (before : S) : Option L → S → Prop
  | none, after => after = before
  | some label, after => step before label after

/-- A part of a larger system: `view` is its state, and `own` the steps it takes. -/
theorem Path.project {T K : Type} {part : T → K → T → Prop} (view : S → T) (own : L → Option K)
    (hpath : Path step first labels last) (hstep : ∀ before label after, step before label after →
      Optionally part (view before) (own label) (view after)) :
    Path part (view first) (labels.filterMap own) (view last) := by
  induction hpath with
  | nil => exact .nil
  | @snoc mid last labels label path taken ih =>
    have hview := hstep mid label last taken
    rw [filterMap_snoc]
    cases hown : own label with
    | none =>
      rw [hown] at hview
      have hsame : view last = view mid := hview
      rw [hsame, Option.toList_none, append_nil]
      exact ih
    | some =>
      rw [hown] at hview
      exact ih.snoc hview

end Path

end LiteIM.Foundation
