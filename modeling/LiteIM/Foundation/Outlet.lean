/-
# Outlets

A stream of output that is accepted in pieces and leaves in pieces of other sizes: what
was accepted and has not left is pending, up to a limit, until the outlet is closed and
drops it. What left and what is pending is what was accepted, and after the close what
left is a beginning of it.
-/

import LiteIM.Foundation.Transition

namespace LiteIM.Foundation

open List

structure Outlet (β : Type) where
  limit : Nat
  pending : List β := []
  isOpen : Bool := true

namespace Outlet

inductive Label (β : Type) where
  | accept (data : List β)
  | emit (data : List β)
  | close

variable {β : Type}

inductive Step (outlet : Outlet β) : Label β → Outlet β → Prop where
  | accept {data : List β} (isOpen : outlet.isOpen = true)
      (room : outlet.pending.length + data.length ≤ outlet.limit) :
      Step outlet (.accept data) { outlet with pending := outlet.pending ++ data }
  | emit {data rest : List β} (isOpen : outlet.isOpen = true)
      (pending : outlet.pending = data ++ rest) :
      Step outlet (.emit data) { outlet with pending := rest }
  | close (isOpen : outlet.isOpen = true) :
      Step outlet .close { outlet with pending := [], isOpen := false }

def Label.accepted? : Label β → Option (List β)
  | .accept data => some data
  | _ => none

def Label.emitted? : Label β → Option (List β)
  | .emit data => some data
  | _ => none

/-- All that was accepted. -/
def accepted (past : List (Label β)) : List β := (past.filterMap Label.accepted?).flatten

/-- All that left. -/
def emitted (past : List (Label β)) : List β := (past.filterMap Label.emitted?).flatten

theorem accepted_snoc (past : List (Label β)) (label : Label β) :
    accepted (past ++ [label]) = accepted past ++ label.accepted?.getD [] := by
  rw [accepted, filterMap_snoc, flatten_append]
  cases label.accepted? <;> simp [accepted]

theorem emitted_snoc (past : List (Label β)) (label : Label β) :
    emitted (past ++ [label]) = emitted past ++ label.emitted?.getD [] := by
  rw [emitted, filterMap_snoc, flatten_append]
  cases label.emitted? <;> simp [emitted]

variable {limit : Nat} {outlet last : Outlet β} {past rest : List (Label β)}

theorem Step.isOpen_eq {label : Label β} (htaken : Step outlet label last)
    (hlabel : label ≠ .close) : last.isOpen = outlet.isOpen := by
  cases htaken with
  | close => exact (hlabel rfl).elim
  | _ => rfl

/-- Nothing is lost, doubled or reordered, and closing only drops what is pending. -/
structure Exact (limit : Nat) (past : List (Label β)) (outlet : Outlet β) : Prop where
  exact : outlet.isOpen = true → emitted past ++ outlet.pending = accepted past
  isPrefix : emitted past <+: accepted past
  bounded : outlet.pending.length ≤ outlet.limit
  limit_eq : outlet.limit = limit

theorem Exact.step {label : Label β} (hexact : Exact limit past outlet)
    (htaken : Step outlet label last) : Exact limit (past ++ [label]) last := by
  cases htaken with
  | @accept data isOpen room =>
    have hall : emitted past ++ (outlet.pending ++ data) = accepted past ++ data := by
      rw [← append_assoc, hexact.exact isOpen]
    refine ⟨fun _ => ?_, ?_, ?_, hexact.limit_eq⟩
    · rw [accepted_snoc, emitted_snoc]
      show emitted past ++ [] ++ (outlet.pending ++ data) = accepted past ++ data
      rw [append_nil, hall]
    · rw [accepted_snoc, emitted_snoc]
      show emitted past ++ [] <+: accepted past ++ data
      rw [append_nil, ← hall]
      exact prefix_append _ _
    · rwa [length_append]
  | @emit data rest isOpen pending =>
    have hall : emitted past ++ data ++ rest = accepted past := by
      rw [append_assoc, ← pending, hexact.exact isOpen]
    refine ⟨fun _ => ?_, ?_, ?_, hexact.limit_eq⟩
    · rw [accepted_snoc, emitted_snoc]
      show emitted past ++ data ++ rest = accepted past ++ []
      rw [append_nil, hall]
    · rw [accepted_snoc, emitted_snoc]
      show emitted past ++ data <+: accepted past ++ []
      rw [append_nil, ← hall]
      exact prefix_append _ _
    · have hlength := hexact.bounded
      rw [pending, length_append] at hlength
      exact Nat.le_of_add_left_le hlength
  | close =>
    refine ⟨nofun, ?_, Nat.zero_le _, hexact.limit_eq⟩
    rw [accepted_snoc, emitted_snoc]
    show emitted past ++ [] <+: accepted past ++ []
    rw [append_nil, append_nil]
    exact hexact.isPrefix

theorem exact_of_path (hpath : Path Step ({ limit } : Outlet β) past outlet) :
    Exact limit past outlet := by
  apply hpath.invariant (Exact limit)
  · exact ⟨fun _ => rfl, prefix_refl _, Nat.zero_le limit, rfl⟩
  · intro past before label after _ hexact htaken
    exact hexact.step htaken

/-- A closed outlet accepts and emits nothing. -/
theorem eq_nil_of_closed (hclosed : outlet.isOpen = false)
    (hpath : Path Step outlet rest last) : rest = [] := by
  have hstays : last = outlet ∧ rest = [] := by
    apply hpath.invariant fun rest last => last = outlet ∧ rest = []
    · exact ⟨rfl, rfl⟩
    · rintro past before label after - ⟨rfl, -⟩ htaken
      cases htaken with
      | accept isOpen | emit isOpen | close isOpen => exact nomatch hclosed.symm.trans isOpen
  exact hstays.2

end Outlet

end LiteIM.Foundation
