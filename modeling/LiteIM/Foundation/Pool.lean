/-
# Pools of programs

Several programs share one machine. A step of the pool lets one program make its
next call, or lets the world change from outside; which of these comes next is
not determined, so a run of the pool is any interleaving at the grain of one
call.

Two ways of reasoning meet here. What a program does by itself, whatever it is
answered, is stated on the program and holds of its own part of the log. What the
calls do to the world is stated on single steps. A step may also be required to
satisfy a guard on the pool it is taken in: runs all of whose steps meet a
condition are then runs of the guarded pool.
-/

import LiteIM.Foundation.Program
import Mathlib.Logic.Function.Basic
import Mathlib.Logic.Relation

namespace LiteIM.Foundation

open Function List

/-- Programs in progress, the world they act on, and what happened so far. -/
structure Pool (S : Signature) (ι α W : Type) where
  threads : ι → Program S α
  world : W
  log : List (ι × Event S)

namespace Pool

variable {S : Signature} {ι α W : Type} [DecidableEq ι]

/-- Programs that have made no call yet. -/
def start (programs : ι → Program S α) (world : W) : Pool S ι α W := ⟨programs, world, []⟩

/-- The pool after one of its programs made its next call. -/
def advance (pool : Pool S ι α W) (i : ι) (event : Event S) (next : Program S α) (world : W) :
    Pool S ι α W :=
  ⟨update pool.threads i next, world, pool.log ++ [(i, event)]⟩

/-- The events of one program. -/
def history (log : List (ι × Event S)) (i : ι) : List (Event S) :=
  (log.filter fun entry => entry.1 = i).map Prod.snd

/-- No program is between its first call and its end. -/
def AtRest (pool : Pool S ι α W) : Prop :=
  ∀ i, history pool.log i = [] ∨ ∃ value, pool.threads i = .ret value

/-- One step of a pool. `outside` is what the world does by itself. -/
inductive Step (M : Machine S W) (outside : W → W → Prop)
    (guard : Pool S ι α W → ι → S.Call → Prop) : Pool S ι α W → Pool S ι α W → Prop where
  | thread {pool : Pool S ι α W} (i : ι) {c : S.Call} {next : S.Reply c → Program S α}
      {reply : S.Reply c} {world : W} (hthread : pool.threads i = .call c next)
      (hguard : guard pool i c) (hanswer : M c pool.world reply world) :
      Step M outside guard pool (pool.advance i ⟨c, reply⟩ (next reply) world)
  | outside {pool : Pool S ι α W} {world : W} (houtside : outside pool.world world) :
      Step M outside guard pool { pool with world }

/-- A run of a pool, all of whose steps meet the guard. -/
abbrev Reaches (M : Machine S W) (outside : W → W → Prop)
    (guard : Pool S ι α W → ι → S.Call → Prop) : Pool S ι α W → Pool S ι α W → Prop :=
  Relation.ReflTransGen (Step M outside guard)

variable {M : Machine S W} {outside : W → W → Prop} {guard : Pool S ι α W → ι → S.Call → Prop}
variable {first last : Pool S ι α W}

/-- What holds at the start and is preserved by every step holds along every run. -/
theorem Reaches.invariant (hreaches : Reaches M outside guard first last)
    (property : Pool S ι α W → Prop) (hfirst : property first)
    (hthread : ∀ pool i c next reply world, property pool → pool.threads i = .call c next →
      guard pool i c → M c pool.world reply world →
      property (pool.advance i ⟨c, reply⟩ (next reply) world))
    (houtside : ∀ pool world, property pool → outside pool.world world →
      property { pool with world }) : property last := by
  induction hreaches with
  | refl => exact hfirst
  | tail _ hstep ih =>
    cases hstep with
    | thread i hcall hguard hanswer => exact hthread _ i _ _ _ _ ih hcall hguard hanswer
    | outside hchange => exact houtside _ _ ih hchange

/-- What every single call and outside change preserves holds along every run,
whatever the programs are. -/
theorem Reaches.world_invariant (hreaches : Reaches M outside guard first last)
    (property : W → Prop) (hfirst : property first.world)
    (hcall : ∀ c world reply next, property world → M c world reply next → property next)
    (houtside : ∀ world next, property world → outside world next → property next) :
    property last.world := by
  apply hreaches.invariant (fun pool => property pool.world) hfirst
  · intro pool i c next reply world hproperty _ _ hanswer
    exact hcall c pool.world reply world hproperty hanswer
  · intro pool world hproperty hchange
    exact houtside pool.world world hproperty hchange

/-- One program may run to its end while the others wait. -/
theorem Reaches.exec (pool : Pool S ι α W) (i : ι) {program : Program S α} {world last : W}
    {trace : List (Event S)} {value : α} (hexec : Program.Exec M program world trace value last)
    (hthread : pool.threads i = program) (hworld : pool.world = world)
    (hguard : ∀ pool i c, guard pool i c) :
    Reaches M outside guard pool
      ⟨update pool.threads i (.ret value), last,
        pool.log ++ trace.map fun event => (i, event)⟩ := by
  induction hexec generalizing pool with
  | ret =>
    subst hworld
    rw [← hthread, update_eq_self, map_nil, append_nil]
  | @call c next world mid last reply trace value answered rest ih =>
    subst hworld
    have hadvanced : (pool.advance i ⟨c, reply⟩ (next reply) mid).threads i = next reply :=
      update_self ..
    apply Relation.ReflTransGen.head (Step.thread i hthread (hguard pool i c) answered)
    simpa [advance] using ih _ hadvanced rfl

/-- Let the programs make their calls in a given order. A program that has ended
makes none. -/
def schedule (answer : (c : S.Call) → W → S.Reply c × W) (pool : Pool S ι α W) :
    List ι → Pool S ι α W
  | [] => pool
  | i :: order =>
    match pool.threads i with
    | .ret _ => schedule answer pool order
    | .call c next =>
      schedule answer (pool.advance i ⟨c, (answer c pool.world).1⟩
        (next (answer c pool.world).1) (answer c pool.world).2) order

/-- Every call of a schedule meets a guard. -/
def Meets (answer : (c : S.Call) → W → S.Reply c × W)
    (guard : Pool S ι α W → ι → S.Call → Prop) (pool : Pool S ι α W) : List ι → Prop
  | [] => True
  | i :: order =>
    match pool.threads i with
    | .ret _ => Meets answer guard pool order
    | .call c next =>
      guard pool i c ∧ Meets answer guard (pool.advance i ⟨c, (answer c pool.world).1⟩
        (next (answer c pool.world).1) (answer c pool.world).2) order

theorem meets_of_forall {answer : (c : S.Call) → W → S.Reply c × W}
    (hguard : ∀ pool i c, guard pool i c) (pool : Pool S ι α W) (order : List ι) :
    Meets answer guard pool order := by
  induction order generalizing pool with
  | nil => trivial
  | cons i order ih =>
    rw [Meets]
    split
    · exact ih _
    · exact ⟨hguard _ _ _, ih _⟩

variable {i : ι}

theorem meets_call {answer : (c : S.Call) → W → S.Reply c × W} {pool : Pool S ι α W}
    {order : List ι} {c : S.Call} {next : S.Reply c → Program S α}
    (hthread : pool.threads i = .call c next) (hguard : guard pool i c)
    (hrest : Meets answer guard (pool.advance i ⟨c, (answer c pool.world).1⟩
      (next (answer c pool.world).1) (answer c pool.world).2) order) :
    Meets answer guard pool (i :: order) := by
  rw [Meets, hthread]
  exact ⟨hguard, hrest⟩

/-- A schedule is one of the runs of the pool. -/
theorem reaches_schedule {answer : (c : S.Call) → W → S.Reply c × W}
    (hanswer : ∀ c world, M c world (answer c world).1 (answer c world).2)
    {pool : Pool S ι α W} {order : List ι} (hmeets : Meets answer guard pool order) :
    Reaches M outside guard pool (pool.schedule answer order) := by
  induction order generalizing pool with
  | nil => exact Relation.ReflTransGen.refl
  | cons i order ih =>
    rw [Meets] at hmeets
    rw [schedule]
    cases hthread : pool.threads i with
    | ret =>
      rw [hthread] at hmeets
      exact ih hmeets
    | call c =>
      rw [hthread] at hmeets
      exact Relation.ReflTransGen.head
        (Step.thread i hthread hmeets.1 (hanswer c pool.world)) (ih hmeets.2)

/-! ## What one program does by itself -/

theorem history_append_self (log : List (ι × Event S)) (i : ι) (event : Event S) :
    history (log ++ [(i, event)]) i = history log i ++ [event] := by
  simp [history]

variable {j : ι}

theorem history_append_of_ne (log : List (ι × Event S)) (hne : i ≠ j) (event : Event S) :
    history (log ++ [(i, event)]) j = history log j := by
  simp [history, hne]

variable {event : Event S}

theorem mem_history {log : List (ι × Event S)} : event ∈ history log i ↔ (i, event) ∈ log := by
  simp [history]

section Advance

variable (pool : Pool S ι α W) (i : ι) (event : Event S) (next : Program S α) (after : W)

theorem history_advance_self :
    history (pool.advance i event next after).log i = history pool.log i ++ [event] :=
  history_append_self pool.log i event

theorem history_advance_of_ne (hne : j ≠ i) :
    history (pool.advance i event next after).log j = history pool.log j :=
  history_append_of_ne pool.log (Ne.symm hne) event

theorem mem_history_advance {other : Event S} :
    other ∈ history (pool.advance i event next after).log j ↔
      other ∈ history pool.log j ∨ j = i ∧ other = event := by
  rw [mem_history, mem_history, advance, mem_append, mem_singleton, Prod.mk.injEq]

end Advance

section

variable (hreaches : Reaches M outside guard first last)
include hreaches

/-- The log only grows. -/
theorem Reaches.log_grows :
    first.log <+: last.log := by
  apply hreaches.invariant (fun pool => first.log <+: pool.log) (prefix_refl _)
  · intro pool i c next reply world hgrows _ _ _
    exact hgrows.trans (prefix_append _ _)
  · intro pool world hgrows _
    exact hgrows

theorem Reaches.mem_history (hmem : event ∈ history first.log i) : event ∈ history last.log i :=
  Pool.mem_history.mpr (hreaches.log_grows.subset (Pool.mem_history.mp hmem))

/-- A program that has ended stays as it is. -/
theorem Reaches.ret {value : α}
    (hended : first.threads i = .ret value) : last.threads i = .ret value := by
  apply hreaches.invariant (fun pool => pool.threads i = .ret value) hended
  · intro pool j c next reply world hpool hthread _ _
    have hne : i ≠ j := by
      rintro rfl
      exact nomatch hpool.symm.trans hthread
    exact (update_of_ne hne _ _).trans hpool
  · intro pool world hpool _
    exact hpool

/-- An event of the log is the answer to a call that its program made at some point of
the run, where the guard held. -/
theorem Reaches.occurred_guarded (hmem : (i, event) ∈ last.log) (hnew : (i, event) ∉ first.log) :
    ∃ pool next after, Reaches M outside guard first pool ∧ Reaches M outside guard pool last ∧
      pool.threads i = .call event.call next ∧ guard pool i event.call ∧
      M event.call pool.world event.reply after := by
  induction hreaches with
  | refl => exact (hnew hmem).elim
  | @tail mid last hprevious hstep ih =>
    have hearlier : (i, event) ∈ mid.log → ∃ pool next after,
        Reaches M outside guard first pool ∧ Reaches M outside guard pool last ∧
        pool.threads i = .call event.call next ∧ guard pool i event.call ∧
        M event.call pool.world event.reply after := by
      intro hold
      obtain ⟨pool, next, after, hbefore, hafter, hanswered⟩ := ih hold
      exact ⟨pool, next, after, hbefore, hafter.tail hstep, hanswered⟩
    cases hstep with
    | outside => exact hearlier hmem
    | thread j hcall hguard hanswer =>
      rcases mem_append.mp hmem with hold | hlast
      · exact hearlier hold
      · obtain ⟨rfl, rfl⟩ := Prod.mk.inj (mem_singleton.mp hlast)
        exact ⟨mid, _, _, hprevious, .single (.thread i hcall hguard hanswer), hcall,
          hguard, hanswer⟩

/-- An event of the log is the answer to a call that its program made at some point of
the run. -/
theorem Reaches.occurred (hmem : (i, event) ∈ last.log) (hnew : (i, event) ∉ first.log) :
    ∃ pool next after, Reaches M outside guard first pool ∧ Reaches M outside guard pool last ∧
      pool.threads i = .call event.call next ∧ M event.call pool.world event.reply after := by
  obtain ⟨pool, next, after, hbefore, hafter, hcall, -, hanswer⟩ :=
    hreaches.occurred_guarded hmem hnew
  exact ⟨pool, next, after, hbefore, hafter, hcall, hanswer⟩

end

section Follows

variable {justified : ι → List (Event S) → Event S → Prop}
variable {post : ι → List (Event S) → α → Prop} {programs : ι → Program S α} {world : W}

section

variable (hreaches : Reaches M outside guard (start programs world) last)
include hreaches

/-- A program's own part of the log, and what is left of it, are as the program
does whatever it is answered. -/
theorem Reaches.follows
    (hprograms : ∀ i, Program.Follows (justified i) (post i) [] (programs i)) (i : ι) :
    Program.Follows (justified i) (post i) (history last.log i) (last.threads i) := by
  revert i
  apply hreaches.invariant (fun pool => ∀ i,
    Program.Follows (justified i) (post i) (history pool.log i) (pool.threads i))
  · exact hprograms
  · intro pool i c next reply world hpool hthread _ _ j
    by_cases hsame : i = j
    · subst hsame
      have hcall := hpool i
      rw [hthread] at hcall
      simpa [advance, history_append_self] using (hcall reply).2
    · simpa [advance, history_append_of_ne _ hsame, update_of_ne (Ne.symm hsame)]
        using hpool j
  · intro pool world hpool _
    exact hpool

/-- What holds throughout the programs holds throughout what is left of them. -/
theorem Reaches.throughout {property : (c : S.Call) → (S.Reply c → Program S α) → Prop}
    (hprograms : ∀ i, (programs i).Throughout property) (i : ι) :
    (last.threads i).Throughout property := by
  revert i
  apply hreaches.invariant (fun pool => ∀ i, (pool.threads i).Throughout property) hprograms
  · intro pool i c next reply world hpool hthread _ _ j
    by_cases hsame : j = i
    · subst hsame
      have hcall := hpool j
      rw [hthread] at hcall
      simpa [advance] using hcall.2 reply
    · simpa [advance, update_of_ne hsame] using hpool j
  · intro pool world hpool _
    exact hpool

/-- Invariants of pools whose programs have a property throughout. -/
theorem Reaches.throughout_invariant {discipline : (c : S.Call) → (S.Reply c → Program S α) → Prop}
    (hprograms : ∀ i, (programs i).Throughout discipline)
    (property : Pool S ι α W → Prop) (hstart : property (start programs world))
    (hthread : ∀ pool i c next reply after, property pool → pool.threads i = .call c next →
      discipline c next → guard pool i c → M c pool.world reply after →
      property (pool.advance i ⟨c, reply⟩ (next reply) after))
    (houtside : ∀ pool world, property pool → outside pool.world world →
      property { pool with world }) : property last := by
  induction hreaches with
  | refl => exact hstart
  | tail hprevious hstep ih =>
    cases hstep with
    | thread i hcall hguard hanswer =>
      have hthroughout := Reaches.throughout hprevious hprograms i
      rw [hcall] at hthroughout
      exact hthread _ i _ _ _ _ ih hcall hthroughout.1 hguard hanswer
    | outside hchange => exact houtside _ _ ih hchange

/-- A program without events is still as it was. -/
theorem Reaches.threads_of_history_nil
    (hnil : history last.log i = []) : last.threads i = programs i := by
  revert hnil
  apply hreaches.invariant
    (fun pool => history pool.log i = [] → pool.threads i = programs i) fun _ => rfl
  · intro pool j c next reply world hpool hthread _ _ hnil
    by_cases hsame : j = i
    · subst hsame
      simp [advance, history_append_self] at hnil
    · rw [advance, history_append_of_ne _ hsame] at hnil
      simpa [advance, update_of_ne (Ne.symm hsame)] using hpool hnil
  · intro pool world hpool _
    exact hpool

end

section

variable (hfirst : Reaches M outside guard (start programs world) first)
  (hreaches : Reaches M outside guard first last)
  (hprograms : ∀ i, Program.Follows (justified i) (post i) [] (programs i))
  (property : Pool S ι α W → Prop)
include hfirst hreaches hprograms property

/-- Invariants from some point of a run on, where programs that have not ended justify each
call by what they did before. -/
theorem Reaches.running_invariant_from (hproperty : property first)
    (hthread : ∀ pool i event next after, property pool → (pool.threads i).running = true →
      guard pool i event.call → justified i (history pool.log i) event →
      M event.call pool.world event.reply after → property (pool.advance i event next after))
    (houtside : ∀ pool world, property pool → outside pool.world world →
      property { pool with world }) : property last := by
  induction hreaches with
  | refl => exact hproperty
  | tail hprevious hstep ih =>
    cases hstep with
    | thread i hcall hguard hanswer =>
      have hfollows := Reaches.follows (hfirst.trans hprevious) hprograms i
      rw [hcall] at hfollows
      refine hthread _ i ⟨_, _⟩ _ _ ih ?_ hguard (hfollows _).1 hanswer
      rw [hcall]
      rfl
    | outside hchange => exact houtside _ _ ih hchange

/-- Invariants from some point of a run on, where programs justify each call by what they
did before. -/
theorem Reaches.justified_invariant_from (hproperty : property first)
    (hthread : ∀ pool i event next after, property pool → guard pool i event.call →
      justified i (history pool.log i) event → M event.call pool.world event.reply after →
      property (pool.advance i event next after))
    (houtside : ∀ pool world, property pool → outside pool.world world →
      property { pool with world }) : property last :=
  Reaches.running_invariant_from hfirst hreaches hprograms property hproperty
    (fun pool i event next after hpool _ => hthread pool i event next after hpool) houtside

end

section

variable (hreaches : Reaches M outside guard (start programs world) last)
  (hprograms : ∀ i, Program.Follows (justified i) (post i) [] (programs i))
include hreaches hprograms

/-- Invariants of pools whose programs justify each call by what they did before. -/
theorem Reaches.justified_invariant
    (property : Pool S ι α W → Prop) (hstart : property (start programs world))
    (hthread : ∀ pool i event next after, property pool →
      justified i (history pool.log i) event → M event.call pool.world event.reply after →
      property (pool.advance i event next after))
    (houtside : ∀ pool world, property pool → outside pool.world world →
      property { pool with world }) : property last :=
  Reaches.justified_invariant_from .refl hreaches hprograms property hstart
    (fun pool i event next after hproperty _ => hthread pool i event next after hproperty)
    houtside

/-- What every justified event of a program preserves holds of the program's history. -/
theorem Reaches.each_history_invariant
    (property : ι → List (Event S) → Prop) (hempty : ∀ i, property i [])
    (hevent : ∀ i past event, property i past → justified i past event →
      property i (past ++ [event])) (i : ι) : property i (history last.log i) := by
  revert i
  apply hreaches.justified_invariant hprograms
    (fun pool => ∀ i, property i (history pool.log i)) hempty
  · intro pool i event next after hpool hjustified _ j
    by_cases hsame : i = j
    · subst hsame
      simpa [advance, history_append_self] using hevent i _ event (hpool i) hjustified
    · simpa [advance, history_append_of_ne _ hsame] using hpool j
  · intro pool world hpool _
    exact hpool

/-- What every justified event preserves holds of each program's own history. -/
theorem Reaches.history_invariant (property : List (Event S) → Prop) (hempty : property [])
    (hevent : ∀ i past event, property past → justified i past event →
      property (past ++ [event])) (i : ι) : property (history last.log i) :=
  hreaches.each_history_invariant hprograms (fun _ => property) (fun _ => hempty) hevent i

end

end Follows

/-! ## Counting events -/

/-- The log without the events of one program. -/
def without (log : List (ι × Event S)) (i : ι) : List (ι × Event S) :=
  log.filter fun entry => entry.1 ≠ i

theorem history_without (log : List (ι × Event S)) (i j : ι) :
    history (without log i) j = if j = i then [] else history log j := by
  by_cases hsame : j = i
  · subst hsame
    simp [history, without]
  · rw [if_neg hsame, history, without, filter_filter, history]
    congr 1
    apply filter_congr
    intro entry _
    by_cases hentry : entry.1 = j
    · simp [hentry, hsame]
    · simp [hentry]

theorem countP_eq_history_add (log : List (ι × Event S)) (i : ι) (p : Event S → Bool) :
    log.countP (fun entry => p entry.2) =
      (history log i).countP p + (without log i).countP fun entry => p entry.2 := by
  rw [countP_eq_countP_filter_add _ _ fun entry => entry.1 = i, history, countP_map,
    without]
  simp [comp_def]

/-- An inequality between numbers of events holds of the whole log if it holds of
every program by itself. -/
theorem countP_le_countP {first second : Event S → Bool} {log : List (ι × Event S)}
    (hhistory : ∀ i, (history log i).countP first ≤ (history log i).countP second) :
    log.countP (fun entry => first entry.2) ≤ log.countP fun entry => second entry.2 := by
  -- Take the events of one program away at a time.
  induction hsize : log.length using Nat.strongRecOn generalizing log with
  | ind size ih =>
    cases log with
    | nil => simp
    | cons entry rest =>
      have hshorter : (without (entry :: rest) entry.1).length < size := by
        rw [← hsize, without, filter_cons_of_neg (by simp)]
        exact Nat.lt_succ_of_le (length_filter_le _ rest)
      have hothers : ∀ i, (history (without (entry :: rest) entry.1) i).countP first ≤
          (history (without (entry :: rest) entry.1) i).countP second := by
        intro i
        rw [history_without]
        by_cases hsame : i = entry.1
        · simp [hsame]
        · simpa [hsame] using hhistory i
      rw [countP_eq_history_add _ entry.1 first, countP_eq_history_add _ entry.1 second]
      exact Nat.add_le_add (hhistory entry.1) (ih _ hshorter hothers rfl)

end Pool

end LiteIM.Foundation
