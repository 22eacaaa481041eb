/-
# Texts

Texts are byte strings. A text is cut at the first separator in it, its lines end at
newlines, and blanks around it can be trimmed off. Where a text is cut depends only on what
stands before the first separator, so a text put together from a part without the separator
and any rest at all is taken apart in one way only.
-/

import LiteIM.Foundation.BigEndian
import Mathlib.Data.List.DropRight

namespace LiteIM.Foundation

open List

/-- The bytes of a literal. -/
def literal (text : String) : Bytes := text.toUTF8.data.toList

/-! ## Cutting -/

section Cut

variable {α : Type} [DecidableEq α] {separator : α}

/-- What stands before the first separator, and what stands after it. -/
def cutAt (separator : α) : List α → Option (List α × List α)
  | [] => none
  | head :: tail =>
    if head = separator then some ([], tail)
    else (cutAt separator tail).map fun parts => (head :: parts.1, parts.2)

variable {front : List α}

theorem cutAt_append (hfront : separator ∉ front) (back : List α) :
    cutAt separator (front ++ separator :: back) = some (front, back) := by
  induction front with
  | nil => exact if_pos rfl
  | cons head front ih =>
    rw [mem_cons, not_or] at hfront
    rw [cons_append, cutAt, if_neg (Ne.symm hfront.1), ih hfront.2]
    rfl

variable {text : List α}

theorem cutAt_of_notMem (htext : separator ∉ text) : cutAt separator text = none := by
  induction text with
  | nil => rfl
  | cons head text ih =>
    rw [mem_cons, not_or] at htext
    rw [cutAt, if_neg (Ne.symm htext.1), ih htext.2]
    rfl

theorem cutAt_eq_none_iff : cutAt separator text = none ↔ separator ∉ text := by
  refine ⟨fun hcut hmem => ?_, cutAt_of_notMem⟩
  obtain ⟨front, back, rfl, hfront⟩ := eq_append_cons_of_mem hmem
  rw [cutAt_append hfront] at hcut
  cases hcut

theorem cutAt_eq_some_iff {back : List α} : cutAt separator text = some (front, back) ↔
      text = front ++ separator :: back ∧ separator ∉ front := by
  refine ⟨fun hcut => ?_, fun h => h.1 ▸ cutAt_append h.2 back⟩
  have hmem : separator ∈ text := by
    by_contra htext
    rw [cutAt_of_notMem htext] at hcut
    cases hcut
  obtain ⟨before, after, rfl, hbefore⟩ := eq_append_cons_of_mem hmem
  rw [cutAt_append hbefore] at hcut
  cases hcut
  exact ⟨rfl, hbefore⟩

/-- The first separator of a text determines the parts around it. -/
theorem append_separator_inj {front' back back' : List α} (hfront : separator ∉ front)
    (hfront' : separator ∉ front')
    (heq : front ++ separator :: back = front' ++ separator :: back') :
    front = front' ∧ back = back' := by
  have hcut := congrArg (cutAt separator) heq
  rw [cutAt_append hfront, cutAt_append hfront', Option.some.injEq, Prod.mk.injEq] at hcut
  exact hcut

end Cut

/-! ## Lines and blanks -/

/-- The lines of a text. A newline at its end begins no further line. -/
def lines : Bytes → List Bytes
  | [] => []
  | byte :: rest =>
    if byte = 0x0A then [] :: lines rest
    else
      match lines rest with
      | [] => [[byte]]
      | line :: others => (byte :: line) :: others

/-- The bytes that `std::isspace` accepts: a space, or one of tab to carriage return. -/
def isSpace (byte : UInt8) : Bool := byte == 0x20 || (0x09 ≤ byte && byte ≤ 0x0D)

theorem isSpace_iff {byte : UInt8} :
    isSpace byte ↔ byte.toNat = 32 ∨ 9 ≤ byte.toNat ∧ byte.toNat ≤ 13 := by
  simp [isSpace, UInt8.le_iff_toNat_le, ← UInt8.toNat_inj]

def trim (text : Bytes) : Bytes := (text.dropWhile isSpace).rdropWhile isSpace

/-- What is left after trimming begins with no blank. -/
theorem isSpace_of_trim_eq_cons {text rest : Bytes} {byte : UInt8}
    (htrim : trim text = byte :: rest) : isSpace byte = false := by
  obtain ⟨dropped, happend⟩ := rdropWhile_prefix isSpace (text.dropWhile isSpace)
  have hhead : (text.dropWhile isSpace).head? = some byte := by
    rw [← happend, ← trim, htrim]
    rfl
  have hnot := head?_dropWhile_not isSpace text
  rw [hhead] at hnot
  exact hnot

end LiteIM.Foundation
