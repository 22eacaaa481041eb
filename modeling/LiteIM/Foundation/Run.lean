/-
# Runs of a machine

A machine seen from its own side: calls arrive one after another, from whatever
programs make them, and each is answered. A run is the list of these events. A relation
that every event keeps holds between any two points of a run.
-/

import LiteIM.Foundation.Program

namespace LiteIM.Foundation

namespace Machine

variable {S : Signature} {W : Type}

/-- Calls answered one after another. -/
inductive Run (M : Machine S W) : W → List (Event S) → W → Prop where
  | nil (world : W) : Run M world [] world
  | cons {event : Event S} {world mid last : W} {trace : List (Event S)}
      (answered : M event.call world event.reply mid) (rest : Run M mid trace last) :
      Run M world (event :: trace) last

variable {M : Machine S W} {first mid last : W} {trace : List (Event S)}

/-- A program's complete run is a run of the machine. -/
theorem run_of_exec {α : Type} {program : Program S α} {value : α}
    (hexec : program.Exec M first trace value last) : M.Run first trace last := by
  induction hexec with
  | ret value world => exact .nil world
  | call answered rest ih => exact .cons answered ih

/-- A relation that every event keeps holds between the ends of a run. -/
theorem Run.related (hrun : M.Run first trace last) (related : W → W → Prop)
    (hrefl : ∀ world, related world world)
    (htrans : ∀ {first second third}, related first second → related second third →
      related first third)
    (hevent : ∀ c world reply next, M c world reply next → related world next) :
    related first last := by
  induction hrun with
  | nil world => exact hrefl world
  | cons answered rest ih => exact htrans (hevent _ _ _ _ answered) ih

end Machine

end LiteIM.Foundation
