/-
# Pre- and postconditions of programs

A triple says of a program that, started where the precondition holds, it ends only
where the postcondition does, whatever the machine answers on the way. The rules
follow the ways in which programs are built: a value, a call, a sequence, and for
programs that can fail also an error and the continuation with an outcome.

A postcondition of a program that can fail is about its result, so it speaks of
errors as well. `Ensures` is for programs of which only the value matters.
-/

import LiteIM.Foundation.Program

namespace LiteIM.Foundation

/-- The machine when only some answers occur. -/
def Machine.restrict {S : Signature} {W : Type} (M : Machine S W) (allowed : Event S → Prop) :
    Machine S W :=
  fun c world reply next => allowed ⟨c, reply⟩ ∧ M c world reply next

/-- A run in which all answers are allowed ones. -/
theorem Program.exec_restrict_iff {S : Signature} {W α : Type} {M : Machine S W}
    {allowed : Event S → Prop} {program : Program S α} {world last : W}
    {trace : List (Event S)} {value : α} :
    program.Exec (M.restrict allowed) world trace value last ↔
      program.Exec M world trace value last ∧ ∀ event ∈ trace, allowed event := by
  refine ⟨fun hexec => ?_, ?_⟩
  · induction hexec with
    | ret value world => exact ⟨.ret value world, by simp⟩
    | call answered rest ih =>
      exact ⟨.call answered.2 ih.1, List.forall_mem_cons.mpr ⟨answered.1, ih.2⟩⟩
  · rintro ⟨hexec, hallowed⟩
    induction hexec with
    | ret value world => exact .ret value world
    | call answered rest ih =>
      rw [List.forall_mem_cons] at hallowed
      exact .call ⟨hallowed.1, answered⟩ (ih hallowed.2)

/-- From every world with `pre`, every complete run ends with `post`. -/
def Program.Triple {S : Signature} {W α : Type} (M : Machine S W) (pre : W → Prop)
    (program : Program S α) (post : α → W → Prop) : Prop :=
  ∀ world trace value last, pre world → program.Exec M world trace value last → post value last

namespace Program

variable {S : Signature} {W α β : Type} {M : Machine S W} {pre : W → Prop}

theorem triple_ret {post : α → W → Prop} {value : α}
    (hpost : ∀ world, pre world → post value world) :
    Triple M pre (.ret value) post := by
  intro world trace result last hpre hexec
  obtain ⟨-, rfl, rfl⟩ := exec_ret_iff.mp hexec
  exact hpost last hpre

theorem triple_call {post : α → W → Prop} {c : S.Call} {next : S.Reply c → Program S α}
    (mid : S.Reply c → W → Prop)
    (hcall : ∀ world reply after, pre world → M c world reply after → mid reply after)
    (hnext : ∀ reply, Triple M (mid reply) (next reply) post) :
    Triple M pre (.call c next) post := by
  intro world trace result last hpre hexec
  obtain ⟨reply, after, rest, -, hanswer, hrest⟩ := exec_call_iff.mp hexec
  exact hnext reply after rest result last (hcall world reply after hpre hanswer) hrest

variable {program : Program S α}

theorem Triple.mono {stronger : W → Prop} {post weaker : α → W → Prop}
    (htriple : Triple M pre program post) (hpre : ∀ world, stronger world → pre world)
    (hpost : ∀ value world, post value world → weaker value world) :
    Triple M stronger program weaker := by
  intro world trace value last hstronger hexec
  exact hpost value last (htriple world trace value last (hpre world hstronger) hexec)

theorem Triple.bind {post : β → W → Prop} {f : α → Program S β} (mid : α → W → Prop)
    (hfirst : Triple M pre program mid) (hnext : ∀ value, Triple M (mid value) (f value) post) :
    Triple M pre (program >>= f) post := by
  intro world trace result last hpre hexec
  obtain ⟨first, rest, value, after, -, hexec, hrest⟩ := exec_bind_iff.mp hexec
  exact hnext value after rest result last (hfirst world first value after hpre hexec) hrest

/-- What every justified answer preserves is preserved by the program. -/
theorem Follows.triple {justified : List (Event S) → Event S → Prop}
    {post : List (Event S) → α → Prop} {history : List (Event S)}
    (hfollows : Follows justified post history program) (property : W → Prop)
    (hkeeps : ∀ past event world next, property world → justified past event →
      M event.call world event.reply next → property next) :
    Triple M property program fun _ => property := by
  intro world trace value last hworld hexec
  exact hexec.justified_invariant hfollows (fun _ => property) hworld hkeeps

end Program

namespace Fallible

open Program

variable {S : Signature} {W ε α β : Type} {M : Machine S W} {pre : W → Prop}

theorem triple_pure {post : Except ε α → W → Prop} {value : α}
    (hpost : ∀ world, pre world → post (.ok value) world) :
    Triple M pre (pure value : Fallible S ε α).run post := triple_ret hpost

theorem triple_throw {post : Except ε α → W → Prop} {error : ε}
    (hpost : ∀ world, pre world → post (.error error) world) :
    Triple M pre (throw error : Fallible S ε α).run post := triple_ret hpost

theorem triple_ofExcept {post : Except ε α → W → Prop} {result : Except ε α}
    (hpost : ∀ world, pre world → post result world) :
    Triple M pre (ofExcept result : Fallible S ε α).run post := triple_ret hpost

/-- A postcondition by the outcome of a program. -/
def byOutcome (ok : α → W → Prop) (error : ε → W → Prop) : Except ε α → W → Prop
  | .ok value => ok value
  | .error status => error status

@[simp]
theorem byOutcome_ok {ok : α → W → Prop} {error : ε → W → Prop} {value : α} {world : W} :
    byOutcome ok error (.ok value) world ↔ ok value world := Iff.rfl

@[simp]
theorem byOutcome_error {ok : α → W → Prop} {error : ε → W → Prop} {status : ε} {world : W} :
    byOutcome ok error (.error status) world ↔ error status world := Iff.rfl

variable {program : Fallible S ε α}

/-- A sequence: what an error of the first part leaves is part of the postcondition. -/
theorem triple_bind {post : Except ε β → W → Prop} {f : α → Fallible S ε β} (mid : α → W → Prop)
    (hfirst : Triple M pre program.run (byOutcome mid fun error => post (.error error)))
    (hnext : ∀ value, Triple M (mid value) (f value).run post) :
    Triple M pre (program >>= f).run post := by
  rw [ExceptT.run_bind]
  refine Triple.bind _ hfirst ?_
  intro result
  cases result with
  | ok value => exact hnext value
  | error => exact triple_ret fun _ => id

/-- A sequence whose first part leaves the same, whether it fails or not. -/
theorem triple_bind_const {post : Except ε β → W → Prop} {mid : W → Prop} {f : α → Fallible S ε β}
    (hfirst : Triple M pre program.run fun _ => mid)
    (herror : ∀ error world, mid world → post (.error error) world)
    (hnext : ∀ value, Triple M mid (f value).run post) : Triple M pre (program >>= f).run post := by
  refine triple_bind (fun _ => mid) (hfirst.mono (fun _ => id) ?_) hnext
  intro result world hworld
  cases result with
  | ok => exact hworld
  | error error => exact herror error world hworld

/-- A check that makes no call. -/
theorem triple_ofExcept_bind {post : Except ε β → W → Prop} {result : Except ε α}
    {f : α → Fallible S ε β}
    (herror : ∀ error world, result = .error error → pre world → post (.error error) world)
    (hnext : ∀ value, result = .ok value → Triple M pre (f value).run post) :
    Triple M pre (ofExcept result >>= f).run post := by
  cases result with
  | ok value => exact hnext value rfl
  | error error => exact triple_ret fun world => herror error world rfl

theorem triple_outcome_bind {post : Except ε β → W → Prop} {f : Except ε α → Fallible S ε β}
    (mid : Except ε α → W → Prop) (hfirst : Triple M pre program.run mid)
    (hnext : ∀ result, Triple M (mid result) (f result).run post) :
    Triple M pre (program.outcome >>= f).run post := by
  rw [run_outcome_bind]
  exact Triple.bind mid hfirst hnext

/-- Where the program succeeds, `post` holds. -/
def Ensures (M : Machine S W) (pre : W → Prop) (program : Fallible S ε α) (post : α → W → Prop) :
    Prop :=
  Triple M pre program.run (byOutcome post fun _ _ => True)

variable {post : α → W → Prop}

theorem ensures_pure {value : α} (hpost : ∀ world, pre world → post value world) :
    Ensures M pre (pure value : Fallible S ε α) post := triple_pure hpost

theorem ensures_throw {error : ε} : Ensures M pre (throw error : Fallible S ε α) post :=
  triple_throw fun _ _ => trivial

theorem Ensures.bind {post : β → W → Prop} {f : α → Fallible S ε β} (mid : α → W → Prop)
    (hfirst : Ensures M pre program mid) (hnext : ∀ value, Ensures M (mid value) (f value) post) :
    Ensures M pre (program >>= f) post := triple_bind mid hfirst hnext

theorem ensures_ofExcept_bind {post : β → W → Prop} {result : Except ε α} {f : α → Fallible S ε β}
    (hnext : ∀ value, result = .ok value → Ensures M pre (f value) post) :
    Ensures M pre (ofExcept result >>= f) post :=
  triple_ofExcept_bind (fun _ _ _ _ => trivial) hnext

theorem Ensures.mono_pre {stronger : W → Prop} (hensures : Ensures M pre program post)
    (hpre : ∀ world, stronger world → pre world) : Ensures M stronger program post :=
  Triple.mono hensures hpre fun _ _ => id

/-- A precondition that is partly about no world. -/
theorem ensures_of_fact {fact : Prop} (hensures : fact → Ensures M pre program post) :
    Ensures M (fun world => pre world ∧ fact) program post := by
  intro world trace value last hpre hexec
  exact hensures hpre.2 world trace value last hpre.1 hexec

/-- A loop keeps what each of its rounds keeps. -/
theorem ensures_forM {items : List α} {round : α → Fallible S ε Unit}
    (hround : ∀ item ∈ items, Ensures M pre (round item) fun _ => pre) :
    Ensures M pre (items.forM round) fun _ => pre := by
  induction items with
  | nil => exact ensures_pure fun _ => id
  | cons item items ih =>
    rw [List.forall_mem_cons] at hround
    exact Ensures.bind _ hround.1 fun _ => ih hround.2

end Fallible

end LiteIM.Foundation
