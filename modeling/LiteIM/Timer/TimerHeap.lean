/-
# The timer heap

`TimerHeap` keeps its timers twice: a map from ids to timers, and a heap of deadlines.
Cancelling a timer takes it out of the map only; its heap entry is then stale and is
dropped when it comes to the top. A timer that fires is taken out of both before its
callback is called, so the callback finds the structure in order and may change it.
-/

import LiteIM.Foundation.PriorityQueue
import Mathlib.Data.List.AList

namespace LiteIM

open Foundation PriorityQueue

structure HeapEntry where
  expirationMs : Int
  timerId : UInt64
  deriving DecidableEq, Repr

namespace HeapEntry

/-- `Compare`: whether `lhs` has its turn after `rhs`. -/
def compare (lhs rhs : HeapEntry) : Bool :=
  if lhs.expirationMs = rhs.expirationMs then lhs.timerId > rhs.timerId
  else lhs.expirationMs > rhs.expirationMs

/-- The order of the heap. -/
def NotAfter (first second : HeapEntry) : Prop := compare first second = false

instance : DecidableRel NotAfter := fun first second =>
  inferInstanceAs (Decidable (compare first second = false))

theorem notAfter_iff {first second : HeapEntry} :
    NotAfter first second ↔ first.expirationMs < second.expirationMs ∨
      (first.expirationMs = second.expirationMs ∧
        first.timerId.toNat ≤ second.timerId.toNat) := by
  rw [NotAfter, compare]
  split_ifs with hsame
  · simp [hsame, UInt64.lt_iff_toNat_lt]
  · simp only [gt_iff_lt, decide_eq_false_iff_not, hsame, false_and, or_false]
    omega

instance : Std.Total NotAfter where
  total first second := by
    rw [notAfter_iff, notAfter_iff]
    omega

instance : IsTrans HeapEntry NotAfter where
  trans first second third := by
    rw [notAfter_iff, notAfter_iff, notAfter_iff]
    omega

end HeapEntry

/-- A timer of the map; `none` is an empty `std::function`. -/
structure TimerEntry (κ : Type) where
  expirationMs : Int
  callback : Option κ
  deriving DecidableEq, Repr

structure TimerHeap (κ : Type) where
  nextTimerId : UInt64 := 1
  heap : PriorityQueue HeapEntry.NotAfter := .empty
  timers : AList fun _ : UInt64 => TimerEntry κ := ∅

namespace TimerHeap

variable {κ : Type}

/-- `emplace` keeps an entry that is already there. -/
def add (timerHeap : TimerHeap κ) (expirationMs : Int) (callback : Option κ) :
    UInt64 × TimerHeap κ :=
  let timerId := timerHeap.nextTimerId
  (timerId,
    { nextTimerId := timerHeap.nextTimerId + 1
      timers :=
        if timerId ∈ timerHeap.timers then timerHeap.timers
        else timerHeap.timers.insert timerId ⟨expirationMs, callback⟩
      heap := timerHeap.heap.push ⟨expirationMs, timerId⟩ })

def cancel (timerHeap : TimerHeap κ) (timerId : UInt64) : TimerHeap κ :=
  { timerHeap with timers := timerHeap.timers.erase timerId }

def clear (timerHeap : TimerHeap κ) : TimerHeap κ :=
  { timerHeap with timers := ∅, heap := .empty }

/-- The timer an entry of the heap was pushed for is still in the map. -/
def isCurrent (timerHeap : TimerHeap κ) (entry : HeapEntry) : Bool :=
  match timerHeap.timers.lookup entry.timerId with
  | some timer => timer.expirationMs = entry.expirationMs
  | none => false

def removeStaleTopEntries (timerHeap : TimerHeap κ) : TimerHeap κ :=
  { timerHeap with heap := timerHeap.heap.popWhile fun entry => !timerHeap.isCurrent entry }

/-- How one pass of the loop in `popExpired` ends. -/
inductive Pass (κ : Type) where
  | returns (timerHeap : TimerHeap κ)
  | continues (timerHeap : TimerHeap κ)
  | fires (entry : HeapEntry) (callback : Option κ) (timerHeap : TimerHeap κ)

/-- A pass of the loop in `popExpired`, up to where it calls the callback. -/
def pass (timerHeap : TimerHeap κ) (nowMs : Int) : Pass κ :=
  let timerHeap := timerHeap.removeStaleTopEntries
  match timerHeap.heap.top? with
  | none => .returns timerHeap
  | some entry =>
    if entry.expirationMs > nowMs then .returns timerHeap
    else
      let timerHeap := { timerHeap with heap := timerHeap.heap.pop }
      match timerHeap.timers.lookup entry.timerId with
      | none => .continues timerHeap
      | some timer =>
        if timer.expirationMs ≠ entry.expirationMs then .continues timerHeap
        else
          .fires entry timer.callback
            { timerHeap with timers := timerHeap.timers.erase entry.timerId }

def nextExpirationMilliseconds (timerHeap : TimerHeap κ) : Int × TimerHeap κ :=
  let timerHeap := timerHeap.removeStaleTopEntries
  match timerHeap.heap.top? with
  | none => (-1, timerHeap)
  | some entry => (entry.expirationMs, timerHeap)

def activeTimerCount (timerHeap : TimerHeap κ) : Nat := timerHeap.timers.keys.length

/-! ## The heap covers the map -/

/-- Every timer of the map has an entry in the heap. -/
def Covered (timerHeap : TimerHeap κ) : Prop :=
  ∀ timerId timer, timerHeap.timers.lookup timerId = some timer →
    ⟨timer.expirationMs, timerId⟩ ∈ timerHeap.heap

variable {timerHeap : TimerHeap κ}

theorem isCurrent_iff {entry : HeapEntry} :
    timerHeap.isCurrent entry = true ↔ ∃ callback,
      timerHeap.timers.lookup entry.timerId = some ⟨entry.expirationMs, callback⟩ := by
  rw [isCurrent]
  split
  · next timer htimer =>
      rw [decide_eq_true_eq, htimer]
      refine ⟨fun hsame => ⟨timer.callback, by rw [← hsame]⟩, ?_⟩
      rintro ⟨callback, hsame⟩
      rw [Option.some.inj hsame]
  · next hnone => simp [hnone]

theorem Covered.add (hcovered : timerHeap.Covered) (hfresh : timerHeap.nextTimerId ∉
    timerHeap.timers) (expirationMs : Int) (callback : Option κ) :
    (timerHeap.add expirationMs callback).2.Covered := by
  intro timerId timer htimer
  show _ ∈ timerHeap.heap.push ⟨expirationMs, timerHeap.nextTimerId⟩
  rw [mem_push]
  simp only [TimerHeap.add, if_neg hfresh] at htimer
  by_cases hnew : timerId = timerHeap.nextTimerId
  · subst hnew
    rw [AList.lookup_insert] at htimer
    rw [← Option.some.inj htimer]
    exact Or.inl rfl
  · rw [AList.lookup_insert_ne hnew] at htimer
    exact Or.inr (hcovered timerId timer htimer)

theorem lookup_of_lookup_erase {timerId erased : UInt64} {timer : TimerEntry κ}
    (htimer : (timerHeap.timers.erase erased).lookup timerId = some timer) :
    timerId ≠ erased ∧ timerHeap.timers.lookup timerId = some timer := by
  have hne : timerId ≠ erased := by
    rintro rfl
    rw [AList.lookup_erase] at htimer
    cases htimer
  rw [AList.lookup_erase_ne hne] at htimer
  exact ⟨hne, htimer⟩

theorem Covered.cancel (hcovered : timerHeap.Covered) (timerId : UInt64) :
    (timerHeap.cancel timerId).Covered :=
  fun other timer htimer => hcovered other timer (lookup_of_lookup_erase htimer).2

theorem covered_clear : timerHeap.clear.Covered := by
  intro timerId timer htimer
  cases htimer

/-- Stale entries belong to no timer of the map. -/
theorem Covered.removeStaleTopEntries (hcovered : timerHeap.Covered) :
    timerHeap.removeStaleTopEntries.Covered := by
  intro timerId timer htimer
  apply mem_popWhile_of_false (hcovered timerId timer htimer)
  rw [Bool.not_eq_false', isCurrent_iff]
  exact ⟨timer.callback, htimer⟩

/-- The entry at the top is that of a timer, and no timer comes before it. -/
theorem Covered.top? (hcovered : timerHeap.Covered) {entry : HeapEntry}
    (htop : timerHeap.removeStaleTopEntries.heap.top? = some entry) :
    (∃ callback, timerHeap.timers.lookup entry.timerId =
      some ⟨entry.expirationMs, callback⟩) ∧
    ∀ timerId timer, timerHeap.timers.lookup timerId = some timer →
      entry.NotAfter ⟨timer.expirationMs, timerId⟩ := by
  apply And.intro
  · have hcurrent := top?_popWhile htop
    rwa [Bool.not_eq_false', isCurrent_iff] at hcurrent
  · intro timerId timer htimer
    rcases top?_first htop (hcovered.removeStaleTopEntries timerId timer htimer)
      with hsame | hbefore
    · rw [hsame, HeapEntry.notAfter_iff]
      exact Or.inr ⟨rfl, Nat.le_refl _⟩
    · exact hbefore

theorem Covered.no_top? (hcovered : timerHeap.Covered)
    (htop : timerHeap.removeStaleTopEntries.heap.top? = none) (timerId : UInt64) :
    timerHeap.timers.lookup timerId = none := by
  cases htimer : timerHeap.timers.lookup timerId with
  | none => rfl
  | some timer =>
    exact (notMem_of_top?_eq_none htop _
      (hcovered.removeStaleTopEntries timerId timer htimer)).elim

/-! ## What a pass does -/

/-- What a pass does with the map: nothing if it returns, and then no timer is due; or it
takes out the timer that is due first. -/
def PassSpec (timerHeap : TimerHeap κ) (nowMs : Int) : Pass κ → Prop
  | .returns next => next.timers = timerHeap.timers ∧
      next.nextTimerId = timerHeap.nextTimerId ∧ next.Covered ∧
      ∀ timerId timer, timerHeap.timers.lookup timerId = some timer → nowMs < timer.expirationMs
  | .continues _ => False
  | .fires entry callback next => next.timers = timerHeap.timers.erase entry.timerId ∧
      next.nextTimerId = timerHeap.nextTimerId ∧ next.Covered ∧
      timerHeap.timers.lookup entry.timerId = some ⟨entry.expirationMs, callback⟩ ∧
      entry.expirationMs ≤ nowMs ∧
      ∀ timerId timer, timerHeap.timers.lookup timerId = some timer →
        entry.NotAfter ⟨timer.expirationMs, timerId⟩

theorem Covered.pass (hcovered : timerHeap.Covered) (nowMs : Int) :
    timerHeap.PassSpec nowMs (timerHeap.pass nowMs) := by
  rw [TimerHeap.pass]
  cases htop : timerHeap.removeStaleTopEntries.heap.top? with
  | none =>
    refine ⟨rfl, rfl, hcovered.removeStaleTopEntries, fun timerId timer htimer => ?_⟩
    rw [hcovered.no_top? htop timerId] at htimer
    cases htimer
  | some entry =>
    obtain ⟨⟨callback, hlookup⟩, hfirst⟩ := hcovered.top? htop
    by_cases hlate : entry.expirationMs > nowMs
    · simp only [if_pos hlate]
      refine ⟨rfl, rfl, hcovered.removeStaleTopEntries, fun timerId timer htimer => ?_⟩
      have hbefore := HeapEntry.notAfter_iff.mp (hfirst timerId timer htimer)
      simp only at hbefore
      omega
    · have hkept : timerHeap.removeStaleTopEntries.timers.lookup entry.timerId =
          some ⟨entry.expirationMs, callback⟩ := hlookup
      simp only [if_neg hlate, hkept, ne_eq, not_true_eq_false, if_false]
      refine ⟨rfl, rfl, ?_, hlookup, Int.not_lt.mp hlate, hfirst⟩
      intro timerId timer htimer
      obtain ⟨hne, htimer⟩ := lookup_of_lookup_erase htimer
      apply mem_pop_of_ne htop (hcovered.removeStaleTopEntries _ _ htimer)
      rintro rfl
      exact hne rfl

end TimerHeap

end LiteIM
