/-
# Requests one after another

A component serves requests by programs. Here each request runs to its end before
the next one begins, while the world may change from outside in between. A sequence
records what was completed: the request, the calls made for it, and its result.
-/

import LiteIM.Foundation.Program
import Mathlib.Logic.Relation

namespace LiteIM.Foundation

/-- A request that was served, with its calls and its result. -/
structure Completed (S : Signature) (ρ α : Type) where
  request : ρ
  trace : List (Event S)
  result : α

/-- Requests served one after another. -/
inductive Sequence {S : Signature} {W ρ α : Type} (M : Machine S W) (outside : W → W → Prop)
    (serve : ρ → Program S α) : W → List (Completed S ρ α) → W → Prop where
  | nil (world : W) : Sequence M outside serve world [] world
  | outside {world mid last : W} {served : List (Completed S ρ α)} (change : outside world mid)
      (rest : Sequence M outside serve mid served last) :
      Sequence M outside serve world served last
  | request {world mid last : W} {served : List (Completed S ρ α)} {request : ρ}
      {trace : List (Event S)} {result : α}
      (exec : (serve request).Exec M world trace result mid)
      (rest : Sequence M outside serve mid served last) :
      Sequence M outside serve world (⟨request, trace, result⟩ :: served) last

namespace Sequence

variable {S : Signature} {W ρ α : Type} {M : Machine S W} {outside : W → W → Prop}
variable {serve : ρ → Program S α} {first mid last : W}
variable {served earlier later : List (Completed S ρ α)}

/-- What every request and every outside change preserves holds at the end. -/
theorem invariant (hsequence : Sequence M outside serve first served last)
    (property : W → Prop) (hfirst : property first)
    (hrequest : ∀ completed ∈ served, ∀ world next, property world →
      (serve completed.request).Exec M world completed.trace completed.result next →
      property next)
    (houtside : ∀ world next, property world → outside world next → property next) :
    property last := by
  induction hsequence with
  | nil => exact hfirst
  | outside change rest ih => exact ih (houtside _ _ hfirst change) hrequest
  | request exec rest ih =>
    apply ih
    · exact hrequest ⟨_, _, _⟩ List.mem_cons_self _ _ hfirst exec
    · exact fun completed hmem => hrequest completed (List.mem_cons_of_mem _ hmem)

end Sequence

end LiteIM.Foundation
