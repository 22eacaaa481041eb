/-
# Programs that call a component

A program here is a tree of calls: at each node it makes one call, and continues
by what was answered. Nothing is said about who answers. A machine supplies the
answers, together with the states of whatever the calls act on; several machines
can run one program, so the same program text is executed alone, among others, or
by a machine that may fail any call.

Two rules reason about runs, and they meet in the events of a run. `Follows` is
what a program does whatever it is answered: each call is justified by the events
so far, and the result by all of them. It is defined by recursion on the program
and passes through `bind`. What the machine did at an event is its evidence, a
property of the world that nothing later takes away; a run leaves the evidence of
all its events behind.
-/

import Mathlib.Data.List.Basic

namespace LiteIM.Foundation

/-- The calls a program can make, and what answers each. -/
structure Signature where
  Call : Type
  Reply : Call → Type

/-- A tree of calls that ends in a value. -/
inductive Program (S : Signature) (α : Type) : Type where
  | ret (value : α)
  | call (c : S.Call) (next : S.Reply c → Program S α)

/-- A call together with its answer. -/
structure Event (S : Signature) where
  call : S.Call
  reply : S.Reply call

/-- The answers a component can give, and the states it moves to. -/
abbrev Machine (S : Signature) (W : Type) :=
  (c : S.Call) → W → S.Reply c → W → Prop

/-- The machine in a world that others change before each call. -/
def Machine.among {S : Signature} {W : Type} (M : Machine S W) (others : W → W → Prop) :
    Machine S W :=
  fun c world reply next => ∃ mid, others world mid ∧ M c mid reply next

namespace Program

variable {S : Signature} {W α β : Type}

def bind : Program S α → (α → Program S β) → Program S β
  | .ret value, f => f value
  | .call c next, f => .call c fun reply => (next reply).bind f

instance : Monad (Program S) where
  pure := .ret
  bind := bind

@[simp]
theorem pure_eq_ret (value : α) : (pure value : Program S α) = .ret value := rfl

@[simp]
theorem ret_bind (value : α) (f : α → Program S β) : (.ret value >>= f) = f value := rfl

@[simp]
theorem call_bind (c : S.Call) (next : S.Reply c → Program S α) (f : α → Program S β) :
    (.call c next >>= f) = .call c fun reply => next reply >>= f := rfl

theorem bind_assoc {γ : Type} (program : Program S α) (f : α → Program S β)
    (g : β → Program S γ) : (program >>= f) >>= g = program >>= fun value => f value >>= g := by
  induction program with
  | ret => rfl
  | call c next ih => exact congrArg (Program.call c) (funext ih)

/-! ## Running a program -/

/-- A complete run, with the events along it. -/
inductive Exec (M : Machine S W) :
    Program S α → W → List (Event S) → α → W → Prop where
  | ret (value : α) (world : W) : Exec M (.ret value) world [] value world
  | call {c : S.Call} {next : S.Reply c → Program S α} {world mid last : W}
      {reply : S.Reply c} {trace : List (Event S)} {value : α}
      (answered : M c world reply mid) (rest : Exec M (next reply) mid trace value last) :
      Exec M (.call c next) world (⟨c, reply⟩ :: trace) value last

/-- Run a program with a component that answers by a function. -/
def run (answer : (c : S.Call) → W → S.Reply c × W) :
    Program S α → W → List (Event S) × α × W
  | .ret value, world => ([], value, world)
  | .call c next, world =>
    let reply := (answer c world).1
    let tail := run answer (next reply) (answer c world).2
    (⟨c, reply⟩ :: tail.1, tail.2)

/-- A function that only answers as the machine may is one of its runs. -/
theorem exec_run {M : Machine S W} {answer : (c : S.Call) → W → S.Reply c × W}
    (hanswer : ∀ c world, M c world (answer c world).1 (answer c world).2)
    (program : Program S α) (world : W) :
    Exec M program world (program.run answer world).1 (program.run answer world).2.1
      (program.run answer world).2.2 := by
  induction program generalizing world with
  | ret value => exact .ret value world
  | call c next ih => exact .call (hanswer c world) (ih _ _)

/-- What every answer preserves holds at the end of a run. -/
theorem run_invariant {answer : (c : S.Call) → W → S.Reply c × W} (property : W → Prop)
    (hanswer : ∀ c world, property world → property (answer c world).2) (program : Program S α)
    {world : W} (hworld : property world) : property (program.run answer world).2.2 := by
  induction program generalizing world with
  | ret => exact hworld
  | call c next ih => exact ih _ (hanswer c world hworld)

/-- Running a sequence runs its second part where the first one ended. -/
theorem run_bind (answer : (c : S.Call) → W → S.Reply c × W) (program : Program S α)
    (f : α → Program S β) (world : W) :
    ((program >>= f).run answer world).2 =
      ((f (program.run answer world).2.1).run answer (program.run answer world).2.2).2 := by
  induction program generalizing world with
  | ret => rfl
  | call c next ih => exact ih _ _

@[simp]
theorem exec_ret_iff {M : Machine S W} {value result : α} {world last : W}
    {trace : List (Event S)} :
    Exec M (.ret value) world trace result last ↔
      trace = [] ∧ result = value ∧ last = world := by
  refine ⟨fun hexec => ?_, ?_⟩
  · cases hexec
    exact ⟨rfl, rfl, rfl⟩
  · rintro ⟨rfl, rfl, rfl⟩
    exact .ret _ _

theorem exec_call_iff {M : Machine S W} {c : S.Call} {next : S.Reply c → Program S α}
    {result : α} {world last : W} {trace : List (Event S)} :
    Exec M (.call c next) world trace result last ↔ ∃ reply mid rest,
      trace = ⟨c, reply⟩ :: rest ∧ M c world reply mid ∧
        Exec M (next reply) mid rest result last := by
  refine ⟨fun hexec => ?_, ?_⟩
  · cases hexec with
    | call answered rest => exact ⟨_, _, _, rfl, answered, rest⟩
  · rintro ⟨reply, mid, rest, rfl, hanswer, hrest⟩
    exact .call hanswer hrest

/-- A run of a sequence is a run of its first part and then one of its second. -/
theorem exec_bind_iff {M : Machine S W} {program : Program S α} {f : α → Program S β}
    {result : β} {world last : W} {trace : List (Event S)} :
    Exec M (program >>= f) world trace result last ↔ ∃ first rest value mid,
      trace = first ++ rest ∧ Exec M program world first value mid ∧
        Exec M (f value) mid rest result last := by
  induction program generalizing world trace with
  | ret => simp
  | call c next ih =>
    simp only [call_bind, exec_call_iff, ih]
    refine ⟨?_, ?_⟩
    · rintro ⟨reply, mid, -, rfl, hanswer, first, rest, value, after, rfl, hfirst, hrest⟩
      exact ⟨_, rest, value, after, rfl, ⟨reply, mid, first, rfl, hanswer, hfirst⟩, hrest⟩
    · rintro ⟨-, rest, value, after, rfl, ⟨reply, mid, first, rfl, hanswer, hfirst⟩, hrest⟩
      exact ⟨reply, mid, _, rfl, hanswer, first, rest, value, after, rfl, hfirst, hrest⟩

/-- Nothing has to happen between two calls. -/
theorem Exec.among {M : Machine S W} {others : W → W → Prop} {program : Program S α}
    {world last : W} {trace : List (Event S)} {value : α}
    (hexec : Exec M program world trace value last) (hidle : ∀ world, others world world) :
    Exec (M.among others) program world trace value last := by
  induction hexec with
  | ret value world => exact .ret value world
  | call answered rest ih => exact .call ⟨_, hidle _, answered⟩ ih

/-- What the events of a run did still stands at its end. -/
theorem Exec.evidence {M : Machine S W} {program : Program S α} {world last : W}
    {trace : List (Event S)} {value : α} (hexec : Exec M program world trace value last)
    (evidence : Event S → W → Prop)
    (hleaves : ∀ c world reply next, M c world reply next → evidence ⟨c, reply⟩ next)
    (hkeeps : ∀ event c world reply next, evidence event world → M c world reply next →
      evidence event next) :
    (∀ event, evidence event world → evidence event last) ∧
      ∀ event ∈ trace, evidence event last := by
  induction hexec with
  | ret => exact ⟨fun _ => id, by simp⟩
  | call answered rest ih =>
    refine ⟨fun event hevent => ih.1 event (hkeeps event _ _ _ _ hevent answered), ?_⟩
    intro event hmem
    rcases List.mem_cons.mp hmem with rfl | hrest
    · exact ih.1 _ (hleaves _ _ _ _ answered)
    · exact ih.2 event hrest

/-! ## What a program does, whatever it is answered -/

/-- Each event is justified by the history before it, and the result by the whole
history. -/
def Follows (justified : List (Event S) → Event S → Prop) (post : List (Event S) → α → Prop) :
    List (Event S) → Program S α → Prop
  | history, .ret value => post history value
  | history, .call c next => ∀ reply,
      justified history ⟨c, reply⟩ ∧
        Follows justified post (history ++ [⟨c, reply⟩]) (next reply)

section Follows

variable {justified : List (Event S) → Event S → Prop}
variable {post : List (Event S) → α → Prop} {history : List (Event S)}

@[simp]
theorem follows_ret {value : α} :
    Follows justified post history (.ret value) ↔ post history value := Iff.rfl

/-- Weakening; the history of the result continues the one it started from. -/
theorem Follows.mono {weaker : List (Event S) → α → Prop} {program : Program S α}
    (hfollows : Follows justified post history program)
    (hpost : ∀ later value, history <+: later → post later value → weaker later value) :
    Follows justified weaker history program := by
  induction program generalizing history with
  | ret value => exact hpost history value List.prefix_rfl hfollows
  | call c next ih =>
    intro reply
    refine ⟨(hfollows reply).1, ih reply (hfollows reply).2 ?_⟩
    intro later value hbegins hlater
    exact hpost later value ((List.prefix_append history _).trans hbegins) hlater

theorem Follows.justify {weaker : List (Event S) → Event S → Prop} {program : Program S α}
    (hfollows : Follows justified post history program)
    (hjustify : ∀ history event, justified history event → weaker history event) :
    Follows weaker post history program := by
  induction program generalizing history with
  | ret => exact hfollows
  | call c next ih =>
    exact fun reply => ⟨hjustify _ _ (hfollows reply).1, ih reply (hfollows reply).2⟩

/-- Sequencing. -/
theorem Follows.bind {post : List (Event S) → β → Prop} {program : Program S α}
    {f : α → Program S β} (hfollows : Follows justified
      (fun later value => Follows justified post later (f value)) history program) :
    Follows justified post history (program >>= f) := by
  induction program generalizing history with
  | ret => exact hfollows
  | call c next ih => exact fun reply => ⟨(hfollows reply).1, ih reply (hfollows reply).2⟩

/-- What a program does in two respects it does in both. -/
theorem Follows.and {other : List (Event S) → Event S → Prop} {also : List (Event S) → α → Prop}
    {program : Program S α} (hfollows : Follows justified post history program)
    (hother : Follows other also history program) :
    Follows (fun history event => justified history event ∧ other history event)
      (fun history value => post history value ∧ also history value) history program := by
  induction program generalizing history with
  | ret => exact ⟨hfollows, hother⟩
  | call c next ih =>
    intro reply
    exact ⟨⟨(hfollows reply).1, (hother reply).1⟩, ih reply (hfollows reply).2 (hother reply).2⟩

/-- The program has not ended. -/
def running : Program S α → Bool
  | .ret _ => false
  | .call _ _ => true

/-- A complete run ends as the program does whatever it is answered. -/
theorem Exec.follows {M : Machine S W} {program : Program S α} {world last : W}
    {trace : List (Event S)} {value : α} (hexec : Exec M program world trace value last)
    (hfollows : Follows justified post history program) : post (history ++ trace) value := by
  induction hexec generalizing history with
  | ret => simpa using hfollows
  | call answered rest ih =>
    have htail := ih (hfollows _).2
    rwa [List.append_assoc] at htail

/-- What every justified event preserves holds at the end of a complete run. -/
theorem Exec.justified_invariant {M : Machine S W} {program : Program S α} {world last : W}
    {trace : List (Event S)} {value : α} (hexec : Exec M program world trace value last)
    (hfollows : Follows justified post history program) (property : List (Event S) → W → Prop)
    (hstart : property history world)
    (hevent : ∀ past event world next, property past world → justified past event →
      M event.call world event.reply next → property (past ++ [event]) next) :
    property (history ++ trace) last := by
  induction hexec generalizing history with
  | ret => simpa using hstart
  | call answered rest ih =>
    have htail := ih (hfollows _).2
      (hevent history ⟨_, _⟩ _ _ hstart (hfollows _).1 answered)
    rwa [List.append_assoc] at htail

end Follows

/-- Something holds of every call of a program together with what follows it. -/
def Throughout (property : (c : S.Call) → (S.Reply c → Program S α) → Prop) :
    Program S α → Prop
  | .ret _ => True
  | .call c next => property c next ∧ ∀ reply, Throughout property (next reply)

/-- A sequence, for properties of the calls alone. -/
theorem Throughout.bind {allowed : S.Call → Prop} {program : Program S α} {f : α → Program S β}
    (hprogram : program.Throughout fun c _ => allowed c)
    (hnext : ∀ value, (f value).Throughout fun c _ => allowed c) :
    (program >>= f).Throughout fun c _ => allowed c := by
  induction program with
  | ret value => exact hnext value
  | call c next ih => exact ⟨hprogram.1, fun reply => ih reply (hprogram.2 reply)⟩

/-- The same program over other calls: `f` says which call is made instead, and `g` how
its answer is read. -/
def rename {T : Signature} (f : S.Call → T.Call) (g : ∀ c, T.Reply (f c) → S.Reply c) :
    Program S α → Program T α
  | .ret value => .ret value
  | .call c next => .call (f c) fun reply => (next (g c reply)).rename f g

theorem throughout_rename {T : Signature} (f : S.Call → T.Call)
    (g : ∀ c, T.Reply (f c) → S.Reply c) (program : Program S α) :
    (program.rename f g).Throughout fun c _ => ∃ original, c = f original := by
  induction program with
  | ret => trivial
  | call c next ih => exact ⟨⟨c, rfl⟩, fun reply => ih (g c reply)⟩

/-- A program all of whose calls are answered can be run to its end. -/
theorem Throughout.exists_exec {M : Machine S W} {allowed : S.Call → Prop}
    (hanswers : ∀ c world, allowed c → ∃ reply next, M c world reply next)
    {program : Program S α} (hprogram : program.Throughout fun c _ => allowed c) (world : W) :
    ∃ trace value last, Exec M program world trace value last := by
  induction program generalizing world with
  | ret value => exact ⟨[], value, world, .ret value world⟩
  | call c next ih =>
    obtain ⟨reply, mid, hanswer⟩ := hanswers c world hprogram.1
    obtain ⟨trace, value, last, hexec⟩ := ih reply (hprogram.2 reply) mid
    exact ⟨_, value, last, .call hanswer hexec⟩

/-- The same, for a program that is known by the events it may have. -/
theorem Follows.exists_exec {M : Machine S W} {program : Program S α}
    (hanswers : ∀ history c world, (∀ reply, justified history ⟨c, reply⟩) →
      ∃ reply next, M c world reply next)
    (hfollows : Follows justified post history program) (world : W) :
    ∃ trace value last, Exec M program world trace value last := by
  induction program generalizing history world with
  | ret value => exact ⟨[], value, world, .ret value world⟩
  | call c next ih =>
    obtain ⟨reply, mid, hanswer⟩ := hanswers history c world fun reply => (hfollows reply).1
    obtain ⟨trace, value, last, hexec⟩ := ih reply (hfollows reply).2 mid
    exact ⟨_, value, last, .call hanswer hexec⟩

end Program

open Program

/-! ## Programs that can fail -/

/-- A program that ends in a value or in an error. -/
abbrev Fallible (S : Signature) (ε : Type) := ExceptT ε (Program S)

namespace Fallible

variable {S : Signature} {ε α β : Type}

/-- Continue with the outcome of a program, whether it failed or not. -/
def outcome (program : Fallible S ε α) : Fallible S ε (Except ε α) :=
  ExceptT.mk (program.run >>= fun result => .ret (.ok result))

/-- A result that needs no call. -/
def ofExcept (result : Except ε α) : Fallible S ε α := ExceptT.mk (.ret result)

@[simp]
theorem run_pure (value : α) : (pure value : Fallible S ε α).run = .ret (.ok value) := rfl

@[simp]
theorem run_throw (error : ε) : (throw error : Fallible S ε α).run = .ret (.error error) := rfl

@[simp]
theorem run_ofExcept (result : Except ε α) :
    (ofExcept result : Fallible S ε α).run = .ret result := rfl

@[simp]
theorem run_outcome_bind (program : Fallible S ε α) (f : Except ε α → Fallible S ε β) :
    (program.outcome >>= f).run = program.run >>= fun result => (f result).run := by
  rw [outcome, ExceptT.run_bind, ExceptT.run_mk, bind_assoc]
  rfl

theorem run_ofExcept_ok_bind (value : α) (f : α → Fallible S ε β) :
    ((ofExcept (.ok value) : Fallible S ε α) >>= f).run = (f value).run := rfl

/-- A run of a sequence ends with an error of its first part, or goes on. -/
theorem exec_bind_cases {W : Type} {M : Machine S W} {program : Fallible S ε α}
    {f : α → Fallible S ε β} {result : Except ε β} {world last : W} {trace : List (Event S)}
    (hexec : Exec M (program >>= f).run world trace result last) :
    (∃ error, result = .error error ∧
      Exec M program.run world trace (.error error) last) ∨
    ∃ first rest value mid, trace = first ++ rest ∧
      Exec M program.run world first (.ok value) mid ∧
      Exec M (f value).run mid rest result last := by
  rw [ExceptT.run_bind, exec_bind_iff] at hexec
  obtain ⟨first, rest, value, mid, rfl, hfirst, hrest⟩ := hexec
  cases value with
  | ok value => exact Or.inr ⟨first, rest, value, mid, rfl, hfirst, hrest⟩
  | error error =>
    obtain ⟨rfl, rfl, rfl⟩ := exec_ret_iff.mp hrest
    rw [List.append_nil]
    exact Or.inl ⟨error, rfl, hfirst⟩

/-- A run that continues with an outcome. -/
theorem exec_outcome_bind {W : Type} {M : Machine S W} {program : Fallible S ε α}
    {f : Except ε α → Fallible S ε β} {result : Except ε β} {world last : W}
    {trace : List (Event S)}
    (hexec : Exec M (program.outcome >>= f).run world trace result last) :
    ∃ first rest value mid, trace = first ++ rest ∧
      Exec M program.run world first value mid ∧
      Exec M (f value).run mid rest result last := by
  rw [run_outcome_bind] at hexec
  exact exec_bind_iff.mp hexec

variable {justified : List (Event S) → Event S → Prop} {history : List (Event S)}

/-- What a program does whatever it is answered, with a postcondition on its
successful ends. -/
def Yields (justified : List (Event S) → Event S → Prop) (post : List (Event S) → α → Prop)
    (history : List (Event S)) (program : Fallible S ε α) : Prop :=
  Follows justified (fun later result => ∀ value, result = .ok value → post later value)
    history program.run

@[simp]
theorem yields_pure {post : List (Event S) → α → Prop} {value : α} :
    Yields justified post history (pure value : Fallible S ε α) ↔ post history value := by
  simp [Yields]

@[simp]
theorem yields_throw (post : List (Event S) → α → Prop) (error : ε) :
    Yields justified post history (throw error : Fallible S ε α) := by
  simp [Yields]

@[simp]
theorem yields_ofExcept {post : List (Event S) → α → Prop} {result : Except ε α} :
    Yields justified post history (ofExcept result) ↔
      ∀ value, result = .ok value → post history value := by
  simp [Yields]

theorem Yields.mono {post weaker : List (Event S) → α → Prop} {program : Fallible S ε α}
    (hyields : Yields justified post history program)
    (hpost : ∀ later value, history <+: later → post later value → weaker later value) :
    Yields justified weaker history program := by
  apply Follows.mono hyields
  intro later result hbegins hresult value hvalue
  exact hpost later value hbegins (hresult value hvalue)

/-- What is justified in one way is justified in every weaker way. -/
theorem Yields.justify {weaker : List (Event S) → Event S → Prop}
    {post : List (Event S) → α → Prop} {program : Fallible S ε α}
    (hyields : Yields justified post history program)
    (hjustify : ∀ history event, justified history event → weaker history event) :
    Yields weaker post history program :=
  Follows.justify hyields hjustify

/-- Sequencing: a success is continued, an error ends the program. -/
theorem yields_bind (first : List (Event S) → α → Prop) {post : List (Event S) → β → Prop}
    {program : Fallible S ε α} {f : α → Fallible S ε β}
    (hfirst : Yields justified first history program)
    (hnext : ∀ later value, history <+: later → first later value →
      Yields justified post later (f value)) :
    Yields justified post history (program >>= f) := by
  rw [Yields, ExceptT.run_bind]
  apply Follows.bind
  apply Follows.mono hfirst
  intro later result hbegins hresult
  cases result with
  | ok value => exact hnext later value hbegins (hresult value rfl)
  | error =>
    intro value hvalue
    cases hvalue

/-- Sequencing, with a postcondition on every end. -/
theorem follows_bind {post : List (Event S) → Except ε β → Prop} {program : Fallible S ε α}
    {f : α → Fallible S ε β} (hfirst : Follows justified (fun later result =>
      match result with
      | .ok value => Follows justified post later (f value).run
      | .error error => post later (.error error)) history program.run) :
    Follows justified post history (program >>= f).run := by
  rw [ExceptT.run_bind]
  apply Follows.bind
  apply Follows.mono hfirst
  intro later result _ hresult
  cases result with
  | ok | error => exact hresult

/-- A check that makes no call. -/
theorem yields_ofExcept_bind {post : List (Event S) → β → Prop} {result : Except ε α}
    {f : α → Fallible S ε β}
    (hnext : ∀ value, result = .ok value → Yields justified post history (f value)) :
    Yields justified post history (ofExcept result >>= f) := by
  cases result with
  | ok value => exact hnext value rfl
  | error =>
    intro value hvalue
    cases hvalue

/-- Continuing with an outcome. -/
theorem yields_outcome_bind (first : List (Event S) → Except ε α → Prop)
    {post : List (Event S) → β → Prop} {program : Fallible S ε α} {f : Except ε α → Fallible S ε β}
    (hfirst : Follows justified first history program.run)
    (hnext : ∀ later result, history <+: later → first later result →
      Yields justified post later (f result)) :
    Yields justified post history (program.outcome >>= f) := by
  rw [Yields, run_outcome_bind]
  exact Follows.bind (Follows.mono hfirst hnext)

end Fallible

end LiteIM.Foundation
