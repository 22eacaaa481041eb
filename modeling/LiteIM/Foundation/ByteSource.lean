/-
# Reading from a stream

A stream that ends is read by calls that may return less than was asked for, may be
interrupted, or may fail. Which of these happens is a pattern that is given with the stream:
every call uses up one element of it, and once it is used up a call returns all it can.

A reader that wants a certain number of items calls until it has them. Without failures the
pattern does not show: the reader gets the front of the stream, or finds that it is too short.
-/

import Mathlib.Data.List.Infix

namespace LiteIM.Foundation

open List

/-- What a call does. -/
inductive Delivery (ε : Type) where
  | interrupted
  /-- At least one item and at most one more than `count`. -/
  | atMost (count : Nat)
  | fails (reason : ε)

/-- What a call returns. -/
inductive ReadResult (β ε : Type) where
  | items (data : List β)
  | closed
  | interrupted
  | failed (reason : ε)

structure Source (β ε : Type) where
  unread : List β
  pattern : List (Delivery ε) := []

namespace Source

variable {β ε : Type}

/-- The front of the stream, or its end. -/
def deliver (unread : List β) (count : Nat) (pattern : List (Delivery ε)) :
    ReadResult β ε × Source β ε :=
  if unread = [] then (.closed, ⟨unread, pattern⟩)
  else (.items (unread.take count), ⟨unread.drop count, pattern⟩)

/-- A call that asks for so many items. -/
def read (source : Source β ε) (count : Nat) : ReadResult β ε × Source β ε :=
  match source.pattern with
  | [] => deliver source.unread count []
  | .atMost limit :: pattern => deliver source.unread (min count (limit + 1)) pattern
  | .interrupted :: pattern => (.interrupted, ⟨source.unread, pattern⟩)
  | .fails reason :: pattern => (.failed reason, ⟨source.unread, pattern⟩)

/-- Everything a call can do. -/
inductive Reads (source : Source β ε) (count : Nat) : ReadResult β ε → Source β ε → Prop where
  | items {taken : Nat} {pattern : List (Delivery ε)} (positive : 0 < taken)
      (within : taken ≤ count) (nonempty : source.unread ≠ [])
      (suffix : pattern <:+ source.pattern) :
      Reads source count (.items (source.unread.take taken)) ⟨source.unread.drop taken, pattern⟩
  | closed {pattern : List (Delivery ε)} (ended : source.unread = [])
      (suffix : pattern <:+ source.pattern) :
      Reads source count .closed ⟨source.unread, pattern⟩
  | interrupted {pattern : List (Delivery ε)} (used : source.pattern = .interrupted :: pattern) :
      Reads source count .interrupted ⟨source.unread, pattern⟩
  | failed {reason : ε} {pattern : List (Delivery ε)}
      (used : source.pattern = .fails reason :: pattern) :
      Reads source count (.failed reason) ⟨source.unread, pattern⟩

variable {count : Nat}

theorem reads_deliver (source : Source β ε) {taken : Nat} {pattern : List (Delivery ε)}
    (hpositive : 0 < taken) (hwithin : taken ≤ count) (hsuffix : pattern <:+ source.pattern) :
    source.Reads count (deliver source.unread taken pattern).1
      (deliver source.unread taken pattern).2 := by
  rw [deliver]
  split_ifs with hend
  · exact .closed hend hsuffix
  · exact .items hpositive hwithin hend hsuffix

theorem reads_read (source : Source β ε) (hpositive : 0 < count) :
    source.Reads count (source.read count).1 (source.read count).2 := by
  rw [read]
  split
  · exact source.reads_deliver hpositive (Nat.le_refl _) nil_suffix
  · next limit pattern hpattern =>
      refine source.reads_deliver ?_ (Nat.min_le_left _ _) (hpattern ▸ suffix_cons _ _)
      exact Nat.lt_min.mpr ⟨hpositive, Nat.succ_pos _⟩
  · next pattern hpattern => exact .interrupted hpattern
  · next reason pattern hpattern => exact .failed hpattern

variable {source : Source β ε}

theorem reads_of_read {next : Source β ε} {result : ReadResult β ε} (hpositive : 0 < count)
    (hread : source.read count = (result, next)) : source.Reads count result next := by
  have hreads := source.reads_read hpositive
  rwa [hread] at hreads

/-- How a reader ends that wants a number of items. -/
inductive Outcome (β ε : Type) where
  | complete (data : List β)
  | closed
  | failed (reason : ε)

/-- Call until there are `count` items, of which `data` is there already. -/
def readLoop (count : Nat) (data : List β) (source : Source β ε) : Outcome β ε × Source β ε :=
  if _hmissing : data.length < count then
    match _hread : source.read (count - data.length) with
    | (.items more, next) => readLoop count (data ++ more) next
    | (.interrupted, next) => readLoop count data next
    | (.closed, next) => (.closed, next)
    | (.failed reason, next) => (.failed reason, next)
  else (.complete data, source)
termination_by count - data.length + source.pattern.length
decreasing_by
  · cases reads_of_read (Nat.sub_pos_of_lt _hmissing) _hread with
    | @items taken pattern hpositive _ hnonempty hsuffix =>
      have hlength := hsuffix.length_le
      have hunread := length_pos_iff.mpr hnonempty
      simp only [length_append, length_take]
      omega
  · cases reads_of_read (Nat.sub_pos_of_lt _hmissing) _hread with
    | interrupted hused =>
      simp only [hused, length_cons]
      omega

/-- No call fails. -/
def Quiet (source : Source β ε) : Prop := ∀ reason, .fails reason ∉ source.pattern

theorem Quiet.of_suffix {next : Source β ε} (hquiet : source.Quiet)
    (hsuffix : next.pattern <:+ source.pattern) : next.Quiet :=
  fun reason hmem => hquiet reason (hsuffix.subset hmem)

/-- Without failures a reader gets the front of the stream. -/
theorem readLoop_complete {data : List β} (hquiet : source.Quiet) (hdata : data.length ≤ count)
    (henough : count - data.length ≤ source.unread.length) : ∃ next, readLoop count data source =
        (.complete (data ++ source.unread.take (count - data.length)), next) ∧
      next.unread = source.unread.drop (count - data.length) ∧ next.Quiet := by
  fun_induction readLoop count data source with
  | case1 data source hmissing more next hread ih =>
    cases reads_of_read (Nat.sub_pos_of_lt hmissing) hread with
    | @items taken pattern hpositive hwithin _ hsuffix =>
      have hlength : (data ++ source.unread.take taken).length = data.length + taken := by
        rw [length_append, length_take]
        omega
      have hrest : count - (data.length + taken) ≤ (source.unread.drop taken).length := by
        rw [length_drop]
        omega
      have htaken : taken + (count - (data.length + taken)) = count - data.length := by omega
      rw [hlength] at ih
      obtain ⟨last, hloop, hunread, hlast⟩ := ih (hquiet.of_suffix hsuffix) (by omega) hrest
      refine ⟨last, ?_, ?_, hlast⟩
      · rw [hloop, append_assoc, ← take_add, htaken]
      · rw [hunread, drop_drop, htaken]
  | case2 data source hmissing next hread ih =>
    cases reads_of_read (Nat.sub_pos_of_lt hmissing) hread with
    | interrupted hused =>
      have hsuffix : _ <:+ source.pattern := hused ▸ suffix_cons _ _
      exact ih (hquiet.of_suffix hsuffix) hdata henough
  | case3 data source hmissing next hread =>
    cases reads_of_read (Nat.sub_pos_of_lt hmissing) hread with
    | closed hended =>
      rw [hended, length_nil] at henough
      omega
  | case4 data source hmissing reason next hread =>
    cases reads_of_read (Nat.sub_pos_of_lt hmissing) hread with
    | failed hused => exact (hquiet reason (hused ▸ mem_cons_self)).elim
  | case5 data source hmissing =>
    have hnone : count - data.length = 0 := by omega
    rw [hnone]
    exact ⟨source, by simp, by simp, hquiet⟩

/-- A reader notices the end of a stream that is too short. -/
theorem readLoop_closed {data : List β} (hquiet : source.Quiet)
    (hshort : source.unread.length < count - data.length) :
    ∃ next, readLoop count data source = (.closed, next) := by
  fun_induction readLoop count data source with
  | case1 data source hmissing more next hread ih =>
    cases reads_of_read (Nat.sub_pos_of_lt hmissing) hread with
    | @items taken pattern hpositive _ _ hsuffix =>
      apply ih (hquiet.of_suffix hsuffix)
      rw [length_append, length_take, length_drop]
      omega
  | case2 data source hmissing next hread ih =>
    cases reads_of_read (Nat.sub_pos_of_lt hmissing) hread with
    | interrupted hused =>
      have hsuffix : _ <:+ source.pattern := hused ▸ suffix_cons _ _
      exact ih (hquiet.of_suffix hsuffix) hshort
  | case3 => exact ⟨_, rfl⟩
  | case4 data source hmissing reason next hread =>
    cases reads_of_read (Nat.sub_pos_of_lt hmissing) hread with
    | failed hused => exact (hquiet reason (hused ▸ mem_cons_self)).elim
  | case5 => omega

end Source

end LiteIM.Foundation
