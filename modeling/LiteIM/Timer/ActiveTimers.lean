/-
# The timer heap as a map of active timers

What `TimerHeap` is for: timers are added, cancelled and cleared, and `popExpired` fires the
active timers that are due, always the first one of those that are active at that moment.
Callbacks run between two passes of its loop and may add, cancel and clear timers themselves.

`ActiveTimers` is that view, without a heap and without stale entries. Every run of the heap
is a run of the view with the same calls and the same results, as long as ids do not repeat.
-/

import LiteIM.Foundation.Transition
import LiteIM.Timer.TimerHeap
import Mathlib.Data.Set.Card

namespace LiteIM

open Foundation TimerHeap AList Path Function

variable {κ : Type}

/-- Calls with their results, and what `popExpired` does until it returns. -/
inductive TimerLabel (κ : Type) where
  | add (expirationMs : Int) (callback : Option κ) (timerId : UInt64)
  | cancel (timerId : UInt64)
  | clear
  | nextExpirationMilliseconds (result : Int)
  | activeTimerCount (result : Nat)
  | popExpired (nowMs : Int)
  | fired (timerId : UInt64) (callback : Option κ)
  | callbackReturned
  | continued
  | popReturned (count : Nat)

/-! ## The code -/

namespace TimerHeap

/-- Where the code is: outside `popExpired`, in its loop, or in a callback. -/
inductive Point where
  | idle
  | looping (nowMs : Int) (firedCount : Nat)
  | inCallback (nowMs : Int) (firedCount : Nat)

/-- Other calls are made outside `popExpired` and by callbacks. -/
def Point.mayCall : Point → Bool
  | .looping _ _ => false
  | _ => true

structure State (κ : Type) where
  timerHeap : TimerHeap κ := {}
  point : Point := .idle

inductive Step : State κ → TimerLabel κ → State κ → Prop where
  | add {timerHeap : TimerHeap κ} {point : Point} {expirationMs : Int} {callback : Option κ}
      (mayCall : point.mayCall = true) :
      Step ⟨timerHeap, point⟩
        (.add expirationMs callback (timerHeap.add expirationMs callback).1)
        ⟨(timerHeap.add expirationMs callback).2, point⟩
  | cancel {timerHeap : TimerHeap κ} {point : Point} {timerId : UInt64}
      (mayCall : point.mayCall = true) :
      Step ⟨timerHeap, point⟩ (.cancel timerId) ⟨timerHeap.cancel timerId, point⟩
  | clear {timerHeap : TimerHeap κ} {point : Point} (mayCall : point.mayCall = true) :
      Step ⟨timerHeap, point⟩ .clear ⟨timerHeap.clear, point⟩
  | nextExpirationMilliseconds {timerHeap : TimerHeap κ} {point : Point}
      (mayCall : point.mayCall = true) :
      Step ⟨timerHeap, point⟩
        (.nextExpirationMilliseconds timerHeap.nextExpirationMilliseconds.1)
        ⟨timerHeap.nextExpirationMilliseconds.2, point⟩
  | activeTimerCount {timerHeap : TimerHeap κ} {point : Point} (mayCall : point.mayCall = true) :
      Step ⟨timerHeap, point⟩ (.activeTimerCount timerHeap.activeTimerCount) ⟨timerHeap, point⟩
  | popExpired {timerHeap : TimerHeap κ} {nowMs : Int} :
      Step ⟨timerHeap, .idle⟩ (.popExpired nowMs) ⟨timerHeap, .looping nowMs 0⟩
  | fires {timerHeap next : TimerHeap κ} {nowMs : Int} {firedCount : Nat} {entry : HeapEntry}
      {callback : κ} (pass : timerHeap.pass nowMs = .fires entry (some callback) next) :
      Step ⟨timerHeap, .looping nowMs firedCount⟩ (.fired entry.timerId (some callback))
        ⟨next, .inCallback nowMs firedCount⟩
  | callbackReturned {timerHeap : TimerHeap κ} {nowMs : Int} {firedCount : Nat} :
      Step ⟨timerHeap, .inCallback nowMs firedCount⟩ .callbackReturned
        ⟨timerHeap, .looping nowMs (firedCount + 1)⟩
  | firesEmpty {timerHeap next : TimerHeap κ} {nowMs : Int} {firedCount : Nat}
      {entry : HeapEntry} (pass : timerHeap.pass nowMs = .fires entry none next) :
      Step ⟨timerHeap, .looping nowMs firedCount⟩ (.fired entry.timerId none)
        ⟨next, .looping nowMs (firedCount + 1)⟩
  | continues {timerHeap next : TimerHeap κ} {nowMs : Int} {firedCount : Nat}
      (pass : timerHeap.pass nowMs = .continues next) :
      Step ⟨timerHeap, .looping nowMs firedCount⟩ .continued ⟨next, .looping nowMs firedCount⟩
  | popReturns {timerHeap next : TimerHeap κ} {nowMs : Int} {firedCount : Nat}
      (pass : timerHeap.pass nowMs = .returns next) :
      Step ⟨timerHeap, .looping nowMs firedCount⟩ (.popReturned firedCount) ⟨next, .idle⟩

end TimerHeap

/-! ## The view -/

/-- The active timers, and the ids that were given out. -/
structure ActiveTimers (κ : Type) where
  issued : Set UInt64 := ∅
  active : UInt64 → Option (TimerEntry κ) := fun _ => none

namespace ActiveTimers

/-- A timer is active and due, and comes first among those that are. -/
structure DueFirst (timers : ActiveTimers κ) (nowMs : Int) (timerId : UInt64)
    (timer : TimerEntry κ) : Prop where
  active : timers.active timerId = some timer
  due : timer.expirationMs ≤ nowMs
  first : ∀ otherId other, timers.active otherId = some other → other.expirationMs ≤ nowMs →
    timer.expirationMs < other.expirationMs ∨
      (timer.expirationMs = other.expirationMs ∧ timerId.toNat ≤ otherId.toNat)

/-- The least expiration time of an active timer, or -1. -/
def NextExpiration (timers : ActiveTimers κ) (result : Int) : Prop :=
  (∃ timerId timer, timers.active timerId = some timer ∧ timer.expirationMs = result ∧
    ∀ otherId other, timers.active otherId = some other → result ≤ other.expirationMs) ∨
  ((∀ timerId, timers.active timerId = none) ∧ result = -1)

/-- Outside `popExpired`; or in it, with the timers it has fired so far. -/
inductive Point where
  | idle
  | popping (nowMs : Int) (fired : List UInt64)
  | inCallback (nowMs : Int) (fired : List UInt64)

def Point.mayCall : Point → Bool
  | .popping _ _ => false
  | _ => true

structure State (κ : Type) where
  timers : ActiveTimers κ := {}
  point : Point := .idle

/-- The callback is running; an empty one has already returned. -/
def Point.afterFiring (nowMs : Int) (fired : List UInt64) : Option κ → Point
  | some _ => .inCallback nowMs fired
  | none => .popping nowMs fired

inductive Step : State κ → TimerLabel κ → State κ → Prop where
  | add {timers : ActiveTimers κ} {point : Point} {expirationMs : Int} {callback : Option κ}
      {timerId : UInt64} (mayCall : point.mayCall = true) (fresh : timerId ∉ timers.issued) :
      Step ⟨timers, point⟩ (.add expirationMs callback timerId)
        ⟨⟨insert timerId timers.issued,
          update timers.active timerId (some ⟨expirationMs, callback⟩)⟩, point⟩
  | cancel {timers : ActiveTimers κ} {point : Point} {timerId : UInt64}
      (mayCall : point.mayCall = true) :
      Step ⟨timers, point⟩ (.cancel timerId)
        ⟨{ timers with active := update timers.active timerId none }, point⟩
  | clear {timers : ActiveTimers κ} {point : Point} (mayCall : point.mayCall = true) :
      Step ⟨timers, point⟩ .clear ⟨{ timers with active := fun _ => none }, point⟩
  | nextExpirationMilliseconds {timers : ActiveTimers κ} {point : Point} {result : Int}
      (mayCall : point.mayCall = true) (least : timers.NextExpiration result) :
      Step ⟨timers, point⟩ (.nextExpirationMilliseconds result) ⟨timers, point⟩
  | activeTimerCount {timers : ActiveTimers κ} {point : Point} (mayCall : point.mayCall = true) :
      Step ⟨timers, point⟩
        (.activeTimerCount {timerId | (timers.active timerId).isSome}.ncard) ⟨timers, point⟩
  | popExpired {timers : ActiveTimers κ} {nowMs : Int} :
      Step ⟨timers, .idle⟩ (.popExpired nowMs) ⟨timers, .popping nowMs []⟩
  | fired {timers : ActiveTimers κ} {nowMs : Int} {fired : List UInt64} {timerId : UInt64}
      {timer : TimerEntry κ} (dueFirst : timers.DueFirst nowMs timerId timer) :
      Step ⟨timers, .popping nowMs fired⟩ (.fired timerId timer.callback)
        ⟨{ timers with active := update timers.active timerId none },
          .afterFiring nowMs (fired ++ [timerId]) timer.callback⟩
  | callbackReturned {timers : ActiveTimers κ} {nowMs : Int} {fired : List UInt64} :
      Step ⟨timers, .inCallback nowMs fired⟩ .callbackReturned ⟨timers, .popping nowMs fired⟩
  | popReturned {timers : ActiveTimers κ} {nowMs : Int} {fired : List UInt64}
      (none_due : ∀ timerId timer, timers.active timerId = some timer →
        nowMs < timer.expirationMs) :
      Step ⟨timers, .popping nowMs fired⟩ (.popReturned fired.length) ⟨timers, .idle⟩

end ActiveTimers

/-! ## The code refines the view -/

/-- How many timers were added. -/
def addsOf (labels : List (TimerLabel κ)) : Nat :=
  labels.countP fun
    | .add _ _ _ => true
    | _ => false

/-- The heap after so many additions, and its view. -/
structure Abstracts (adds : Nat) (timerHeap : TimerHeap κ) (timers : ActiveTimers κ) : Prop where
  active : timers.active = fun timerId => timerHeap.timers.lookup timerId
  issued : ∀ timerId, timerId ∈ timers.issued ↔ 0 < timerId.toNat ∧ timerId.toNat ≤ adds
  next : timerHeap.nextTimerId = UInt64.ofNat (adds + 1)
  known : ∀ timerId ∈ timerHeap.timers, timerId ∈ timers.issued
  covered : timerHeap.Covered

/-- The points of the code and of the view; the code counts a timer when its callback has
returned. -/
inductive SamePoint : Point → ActiveTimers.Point → Prop where
  | idle : SamePoint .idle .idle
  | looping {nowMs : Int} {fired : List UInt64} :
      SamePoint (.looping nowMs fired.length) (.popping nowMs fired)
  | inCallback {nowMs : Int} {fired : List UInt64} {timerId : UInt64} :
      SamePoint (.inCallback nowMs fired.length) (.inCallback nowMs (fired ++ [timerId]))

theorem SamePoint.mayCall {point : Point} {view : ActiveTimers.Point}
    (hsame : SamePoint point view) (hmayCall : point.mayCall = true) : view.mayCall = true := by
  cases hsame with
  | idle | inCallback => rfl
  | looping => cases hmayCall

variable {timerId : UInt64}

namespace Abstracts

variable {adds : Nat} {timerHeap : TimerHeap κ} {timers : ActiveTimers κ}

theorem start : Abstracts 0 ({} : TimerHeap κ) {} where
  active := rfl
  issued timerId := by
    refine ⟨fun hmem => hmem.elim, fun hboth => ?_⟩
    omega
  next := rfl
  known timerId hmem := (notMem_empty timerId hmem).elim
  covered := @covered_clear κ {}

/-- The id of a new timer was not given out before. -/
theorem fresh (habstracts : Abstracts adds timerHeap timers) (hadds : adds + 1 < 2 ^ 64) :
    timerHeap.nextTimerId.toNat = adds + 1 ∧ timerHeap.nextTimerId ∉ timers.issued := by
  have hnext : timerHeap.nextTimerId.toNat = adds + 1 := by
    rw [habstracts.next]
    exact UInt64.toNat_ofNat_of_lt' hadds
  refine ⟨hnext, fun hmem => ?_⟩
  have hissued := ((habstracts.issued _).mp hmem).2
  omega

theorem add (habstracts : Abstracts adds timerHeap timers) (hadds : adds + 1 < 2 ^ 64)
    (expirationMs : Int) (callback : Option κ) :
    Abstracts (adds + 1) (timerHeap.add expirationMs callback).2
      ⟨insert timerHeap.nextTimerId timers.issued,
        update timers.active timerHeap.nextTimerId
          (some ⟨expirationMs, callback⟩)⟩ := by
  obtain ⟨hnext, hfresh⟩ := habstracts.fresh hadds
  have hnew : timerHeap.nextTimerId ∉ timerHeap.timers :=
    fun hmem => hfresh (habstracts.known _ hmem)
  have htimers : (timerHeap.add expirationMs callback).2.timers =
      timerHeap.timers.insert timerHeap.nextTimerId ⟨expirationMs, callback⟩ := if_neg hnew
  refine ⟨?_, ?_, ?_, ?_, habstracts.covered.add hnew _ _⟩
  · funext timerId
    rw [htimers]
    show update _ _ _ timerId = _
    by_cases hsame : timerId = timerHeap.nextTimerId
    · subst hsame
      rw [update_self, lookup_insert]
    · rw [update_of_ne hsame, lookup_insert_ne hsame, habstracts.active]
  · intro timerId
    rw [Set.mem_insert_iff, habstracts.issued, ← UInt64.toNat_inj, hnext]
    omega
  · show timerHeap.nextTimerId + 1 = _
    rw [habstracts.next, UInt64.ofNat_add (adds + 1) 1]
    rfl
  · intro timerId hmem
    rw [htimers, mem_insert] at hmem
    exact hmem.imp_right (habstracts.known timerId)

variable {next : TimerHeap κ}

section

variable (habstracts : Abstracts adds timerHeap timers)
include habstracts

/-- Timers leave the map. -/
theorem shrink {active : UInt64 → Option (TimerEntry κ)} (hcovered : next.Covered)
    (hnext : next.nextTimerId = timerHeap.nextTimerId)
    (hactive : active = fun timerId => next.timers.lookup timerId)
    (hsubset : ∀ timerId ∈ next.timers, timerId ∈ timerHeap.timers) :
    Abstracts adds next { timers with active } where
  active := hactive
  issued := habstracts.issued
  next := hnext.trans habstracts.next
  known timerId hmem := habstracts.known timerId (hsubset timerId hmem)
  covered := hcovered

theorem erase (hcovered : next.Covered) (hnext : next.nextTimerId = timerHeap.nextTimerId)
    (htimers : next.timers = timerHeap.timers.erase timerId) :
    Abstracts adds next { timers with active := update timers.active timerId none } := by
  apply habstracts.shrink hcovered hnext
  · funext other
    rw [htimers]
    by_cases hsame : other = timerId
    · subst hsame
      rw [update_self, lookup_erase]
    · rw [update_of_ne hsame, lookup_erase_ne hsame, habstracts.active]
  · intro other hmem
    rw [htimers, mem_erase] at hmem
    exact hmem.2

/-- The map stays. -/
theorem keep (hcovered : next.Covered)
    (hnext : next.nextTimerId = timerHeap.nextTimerId) (htimers : next.timers = timerHeap.timers) :
    Abstracts adds next timers := by
  apply habstracts.shrink hcovered hnext
  · rw [htimers]
    exact habstracts.active
  · intro timerId hmem
    rwa [htimers] at hmem

theorem activeTimerCount :
    timerHeap.activeTimerCount = {timerId | (timers.active timerId).isSome}.ncard := by
  have hset : {timerId | (timers.active timerId).isSome} = ↑timerHeap.timers.keys.toFinset := by
    ext timerId
    rw [Set.mem_ofPred_eq, habstracts.active, lookup_isSome, Finset.mem_coe,
      List.mem_toFinset, mem_keys]
  rw [hset, Set.ncard_coe_finset, List.toFinset_card_of_nodup timerHeap.timers.keys_nodup]
  rfl

theorem nextExpirationMilliseconds :
    timers.NextExpiration timerHeap.nextExpirationMilliseconds.1 ∧
      Abstracts adds timerHeap.nextExpirationMilliseconds.2 timers := by
  have hkeep : Abstracts adds timerHeap.removeStaleTopEntries timers :=
    habstracts.keep habstracts.covered.removeStaleTopEntries rfl rfl
  rw [TimerHeap.nextExpirationMilliseconds]
  cases htop : timerHeap.removeStaleTopEntries.heap.top? with
  | none =>
    refine ⟨Or.inr ⟨fun timerId => ?_, rfl⟩, hkeep⟩
    rw [habstracts.active]
    exact habstracts.covered.no_top? htop timerId
  | some entry =>
    obtain ⟨⟨callback, hlookup⟩, hfirst⟩ := habstracts.covered.top? htop
    refine ⟨Or.inl ⟨entry.timerId, _, by rw [habstracts.active]; exact hlookup, rfl, ?_⟩, hkeep⟩
    intro otherId other hother
    rw [habstracts.active] at hother
    have hbefore := HeapEntry.notAfter_iff.mp (hfirst otherId other hother)
    simp only at hbefore
    show entry.expirationMs ≤ other.expirationMs
    omega

theorem dueFirst {nowMs : Int} {entry : HeapEntry}
    {callback : Option κ} (hpass : timerHeap.PassSpec nowMs (.fires entry callback next)) :
    timers.DueFirst nowMs entry.timerId ⟨entry.expirationMs, callback⟩ := by
  obtain ⟨-, -, -, hlookup, hdue, hfirst⟩ := hpass
  refine ⟨by rw [habstracts.active]; exact hlookup, hdue, fun otherId other hother _ => ?_⟩
  rw [habstracts.active] at hother
  exact HeapEntry.notAfter_iff.mp (hfirst otherId other hother)

end

end Abstracts

/-- A state of the code and one of the view. -/
structure Refines (adds : Nat) (state : State κ) (view : ActiveTimers.State κ) :
    Prop where
  timers : Abstracts adds state.timerHeap view.timers
  point : SamePoint state.point view.point

variable {label : TimerLabel κ} {view : ActiveTimers.State κ}

/-- Every step of the code is one of the view. -/
theorem Refines.step {adds : Nat} {state next : State κ}
    (hrefines : Refines adds state view) (hstep : Step state label next)
    (hadds : adds + addsOf [label] < 2 ^ 64) :
    ∃ after, ActiveTimers.Step view label after ∧ Refines (adds + addsOf [label]) next after := by
  obtain ⟨timers, point⟩ := view
  obtain ⟨htimers, hpoint⟩ := hrefines
  cases hstep with
  | add hmayCall =>
    exact ⟨_, .add (hpoint.mayCall hmayCall) (htimers.fresh hadds).2,
      htimers.add hadds _ _, hpoint⟩
  | cancel hmayCall =>
    exact ⟨_, .cancel (hpoint.mayCall hmayCall),
      htimers.erase (htimers.covered.cancel _) rfl rfl, hpoint⟩
  | clear hmayCall =>
    refine ⟨_, .clear (hpoint.mayCall hmayCall), ?_, hpoint⟩
    exact htimers.shrink covered_clear rfl rfl
      fun timerId hmem => (notMem_empty timerId hmem).elim
  | nextExpirationMilliseconds hmayCall =>
    obtain ⟨hleast, hnext⟩ := htimers.nextExpirationMilliseconds
    exact ⟨_, .nextExpirationMilliseconds (hpoint.mayCall hmayCall) hleast, hnext, hpoint⟩
  | activeTimerCount hmayCall =>
    rw [htimers.activeTimerCount]
    exact ⟨_, .activeTimerCount (hpoint.mayCall hmayCall), htimers, hpoint⟩
  | popExpired =>
    cases hpoint
    exact ⟨_, .popExpired, htimers, @SamePoint.looping _ []⟩
  | @fires timerHeap next nowMs firedCount entry callback hpass =>
    have hspec := htimers.covered.pass nowMs
    rw [hpass] at hspec
    cases hpoint
    exact ⟨_, .fired (htimers.dueFirst hspec),
      htimers.erase hspec.2.2.1 hspec.2.1 hspec.1, .inCallback⟩
  | callbackReturned =>
    cases hpoint with
    | @inCallback nowMs fired timerId =>
      refine ⟨_, .callbackReturned, htimers, ?_⟩
      rw [show fired.length + 1 = (fired ++ [timerId]).length by simp]
      exact .looping
  | @firesEmpty timerHeap next nowMs firedCount entry hpass =>
    have hspec := htimers.covered.pass nowMs
    rw [hpass] at hspec
    cases hpoint with
    | @looping _ fired =>
      refine ⟨_, .fired (htimers.dueFirst hspec),
        htimers.erase hspec.2.2.1 hspec.2.1 hspec.1, ?_⟩
      rw [show fired.length + 1 = (fired ++ [entry.timerId]).length by simp]
      exact .looping
  | @continues timerHeap next nowMs firedCount hpass =>
    have hspec := htimers.covered.pass nowMs
    rw [hpass] at hspec
    exact hspec.elim
  | @popReturns timerHeap next nowMs firedCount hpass =>
    have hspec := htimers.covered.pass nowMs
    rw [hpass] at hspec
    obtain ⟨hsame, hnext, hcovered, hlater⟩ := hspec
    cases hpoint
    refine ⟨_, .popReturned ?_, htimers.keep hcovered hnext hsame, .idle⟩
    intro timerId timer hactive
    rw [htimers.active] at hactive
    exact hlater timerId timer hactive

theorem addsOf_snoc (labels : List (TimerLabel κ)) (label : TimerLabel κ) :
    addsOf (labels ++ [label]) = addsOf labels + addsOf [label] := List.countP_append

variable {labels : List (TimerLabel κ)}

/-- Every run of the code is one of the view. -/
theorem exists_view {last : State κ} (hpath : Path Step {} labels last)
    (hadds : addsOf labels < 2 ^ 64) :
    ∃ view, Path ActiveTimers.Step {} labels view ∧ Refines (addsOf labels) last view := by
  revert hadds
  apply hpath.invariant fun labels state => addsOf labels < 2 ^ 64 →
    ∃ view, Path ActiveTimers.Step {} labels view ∧ Refines (addsOf labels) state view
  · exact fun _ => ⟨{}, .nil, .start, .idle⟩
  · intro past before label after _ hbefore hstep hadds
    rw [addsOf_snoc] at hadds ⊢
    obtain ⟨view, hview, hrefines⟩ := hbefore (Nat.lt_of_le_of_lt (Nat.le_add_right _ _) hadds)
    obtain ⟨next, htaken, hnext⟩ := hrefines.step hstep hadds
    exact ⟨next, hview.snoc htaken, hnext⟩

/-! ## A timer fires once -/

/-- After this a timer is not active. -/
def TimerLabel.Ends (timerId : UInt64) : TimerLabel κ → Prop
  | .cancel other => other = timerId
  | .clear => True
  | .fired other _ => other = timerId
  | _ => False

/-- A timer was added, was not fired before that, and has not ended since. -/
def Lives (labels : List (TimerLabel κ)) (timerId : UInt64) (timer : TimerEntry κ) : Prop :=
  ∃ before after, labels = before ++ .add timer.expirationMs timer.callback timerId :: after ∧
    (∀ callback, .fired timerId callback ∉ before) ∧ ∀ label ∈ after, ¬ label.Ends timerId

theorem Lives.snoc {timer : TimerEntry κ} (hlives : Lives labels timerId timer)
    (hends : ¬ label.Ends timerId) : Lives (labels ++ [label]) timerId timer := by
  obtain ⟨before, after, hlabels, hbefore, hafter⟩ := hlives
  refine ⟨before, after ++ [label], by rw [hlabels, List.append_assoc, List.cons_append],
    hbefore, ?_⟩
  intro other hmem
  rcases List.mem_append.mp hmem with hold | hnew
  · exact hafter other hold
  · rw [List.mem_singleton.mp hnew]
    exact hends

/-- A timer that lives has not fired. -/
theorem Lives.not_fired {timer : TimerEntry κ} (hlives : Lives labels timerId timer)
    (callback : Option κ) : .fired timerId callback ∉ labels := by
  obtain ⟨before, after, rfl, hbefore, hafter⟩ := hlives
  simp only [List.mem_append, List.mem_cons, not_or]
  exact ⟨hbefore callback, by simp, fun hmem => hafter _ hmem rfl⟩

/-- What the labels say about the timers. -/
structure Recorded (labels : List (TimerLabel κ)) (timers : ActiveTimers κ) : Prop where
  lives : ∀ timerId timer, timers.active timerId = some timer → Lives labels timerId timer
  known : ∀ timerId timer, timers.active timerId = some timer → timerId ∈ timers.issued
  fired : ∀ timerId callback, .fired timerId callback ∈ labels → timerId ∈ timers.issued

namespace Recorded

variable {labels : List (TimerLabel κ)} {timers : ActiveTimers κ}

theorem fired_snoc (hrecorded : Recorded labels timers)
    (hlabel : ∀ timerId callback, label = .fired timerId callback → timerId ∈ timers.issued) :
    ∀ timerId callback, .fired timerId callback ∈ labels ++ [label] →
      timerId ∈ timers.issued := by
  intro timerId callback hmem
  rcases List.mem_append.mp hmem with hold | hnew
  · exact hrecorded.fired timerId callback hold
  · exact hlabel timerId callback (List.mem_singleton.mp hnew).symm

/-- A label that ends no timer. -/
theorem quiet (hrecorded : Recorded labels timers) (hends : ∀ timerId, ¬ label.Ends timerId) :
    Recorded (labels ++ [label]) timers where
  lives timerId timer hactive := (hrecorded.lives timerId timer hactive).snoc (hends timerId)
  known := hrecorded.known
  fired := hrecorded.fired_snoc fun timerId _ hlabel => (hends timerId (hlabel ▸ rfl)).elim

/-- A label that ends one timer. -/
theorem update_none (hrecorded : Recorded labels timers)
    (hends : ∀ other, other ≠ timerId → ¬ label.Ends other)
    (hlabel : ∀ other callback, label = .fired other callback → other ∈ timers.issued) :
    Recorded (labels ++ [label])
      { timers with active := update timers.active timerId none } := by
  have hactive : ∀ other timer, update timers.active timerId none other = some timer →
      other ≠ timerId ∧ timers.active other = some timer := by
    intro other timer hother
    by_cases hsame : other = timerId
    · subst hsame
      rw [update_self] at hother
      cases hother
    · rw [update_of_ne hsame] at hother
      exact ⟨hsame, hother⟩
  refine ⟨fun other timer hother => ?_, fun other timer hother => ?_,
    hrecorded.fired_snoc hlabel⟩
  · obtain ⟨hne, hother⟩ := hactive other timer hother
    exact (hrecorded.lives other timer hother).snoc (hends other hne)
  · exact hrecorded.known other timer (hactive other timer hother).2

theorem add (hrecorded : Recorded labels timers) (hfresh : timerId ∉ timers.issued)
    (expirationMs : Int) (callback : Option κ) :
    Recorded (labels ++ [.add expirationMs callback timerId])
      ⟨insert timerId timers.issued,
        update timers.active timerId (some ⟨expirationMs, callback⟩)⟩ := by
  refine ⟨fun other timer hother => ?_, fun other timer hother => ?_, fun other _ hmem => ?_⟩
  · replace hother : update timers.active timerId _ other = some timer := hother
    by_cases hsame : other = timerId
    · subst hsame
      rw [update_self] at hother
      rw [← Option.some.inj hother]
      exact ⟨labels, [], rfl, fun _ hfired => hfresh (hrecorded.fired _ _ hfired), by simp⟩
    · rw [update_of_ne hsame] at hother
      exact (hrecorded.lives other timer hother).snoc id
  · replace hother : update timers.active timerId _ other = some timer := hother
    by_cases hsame : other = timerId
    · exact Or.inl hsame
    · rw [update_of_ne hsame] at hother
      exact Or.inr (hrecorded.known other timer hother)
  · rcases List.mem_append.mp hmem with hold | hnew
    · exact Or.inr (hrecorded.fired _ _ hold)
    · cases List.mem_singleton.mp hnew

theorem step {next : ActiveTimers.State κ} (hrecorded : Recorded labels view.timers)
    (hstep : ActiveTimers.Step view label next) : Recorded (labels ++ [label]) next.timers := by
  cases hstep with
  | add _ hfresh => exact hrecorded.add hfresh _ _
  | cancel =>
    exact hrecorded.update_none (fun other hne hsame => hne hsame.symm)
      fun _ _ hlabel => nomatch hlabel
  | clear =>
    exact ⟨fun _ _ hnone => (nomatch hnone), fun _ _ hnone => (nomatch hnone),
      hrecorded.fired_snoc fun _ _ hlabel => nomatch hlabel⟩
  | nextExpirationMilliseconds | activeTimerCount | popExpired | callbackReturned | popReturned =>
    exact hrecorded.quiet fun _ => id
  | fired hdue =>
    refine hrecorded.update_none (fun other hne hsame => hne hsame.symm) ?_
    intro other callback hlabel
    rw [← (TimerLabel.fired.inj hlabel).1]
    exact hrecorded.known _ _ hdue.active

end Recorded

theorem recorded_of_path (hpath : Path ActiveTimers.Step {} labels view) :
    Recorded labels view.timers := by
  apply hpath.invariant fun labels view => Recorded labels view.timers
  · exact ⟨fun _ _ hnone => (nomatch hnone), fun _ _ hnone => (nomatch hnone), by simp⟩
  · exact fun past before label after _ hbefore hstep => hbefore.step hstep

/-- The timer that fires at some point of a run lives there. -/
theorem lives_of_fired {past rest : List (TimerLabel κ)} {callback : Option κ}
    (hpath : Path ActiveTimers.Step {} (past ++ .fired timerId callback :: rest) view) :
    ∃ expirationMs, Lives past timerId ⟨expirationMs, callback⟩ := by
  obtain ⟨before, hbefore, hrest⟩ := hpath.split
  obtain ⟨after, hstep, -⟩ := hrest.head
  have hrecorded := recorded_of_path hbefore
  cases hstep with
  | @fired _ _ _ _ timer hdue =>
    exact ⟨timer.expirationMs, hrecorded.lives timerId timer hdue.active⟩

/-- The timer heap refines the map of active timers: whatever is called, and whatever the
callbacks call, it does what the map does and returns the same. No timer fires that was
cancelled or cleared, and none fires twice. -/
theorem timerHeap_refines {labels : List (TimerLabel κ)} {last : State κ}
    (hpath : Path Step {} labels last) (hadds : addsOf labels < 2 ^ 64) :
    (∃ view, Path ActiveTimers.Step {} labels view ∧ Refines (addsOf labels) last view) ∧
    ∀ past rest timerId callback, labels = past ++ .fired timerId callback :: rest →
      (∃ before expirationMs after,
        past = before ++ .add expirationMs callback timerId :: after ∧
          ∀ label ∈ after, label ≠ .cancel timerId ∧ label ≠ .clear) ∧
      ∀ other, .fired timerId other ∉ past := by
  obtain ⟨view, hview, hrefines⟩ := exists_view hpath hadds
  refine ⟨⟨view, hview, hrefines⟩, ?_⟩
  intro past rest timerId callback hlabels
  obtain ⟨expirationMs, hlives⟩ := lives_of_fired (hlabels ▸ hview)
  refine ⟨?_, hlives.not_fired⟩
  obtain ⟨before, after, hpast, -, hafter⟩ := hlives
  refine ⟨before, expirationMs, after, hpast, fun label hmem => ⟨?_, ?_⟩⟩
  · rintro rfl
    exact hafter _ hmem rfl
  · rintro rfl
    exact hafter _ hmem trivial

/-- A timer is cancelled and another one is added for the same time; the callback of that one
adds a third, which is due at once. -/
def replaced : List (TimerLabel Unit) :=
  [.add 10 (some ()) 1, .cancel 1, .add 10 (some ()) 2, .nextExpirationMilliseconds 10,
    .activeTimerCount 1, .popExpired 10, .fired 2 (some ()), .add 5 none 3, .callbackReturned,
    .fired 3 none, .popReturned 2]

theorem replaced_path : ∃ last, Path Step {} replaced last := by
  apply Exists.intro
  apply cons (.add rfl)
  apply cons (.cancel rfl)
  apply cons (.add rfl)
  apply cons (.nextExpirationMilliseconds rfl)
  apply cons (.activeTimerCount rfl)
  apply cons .popExpired
  apply cons (@Step.fires Unit _ _ 10 0 ⟨10, 2⟩ () rfl)
  apply cons (.add rfl)
  apply cons .callbackReturned
  apply cons (@Step.firesEmpty Unit _ _ 10 1 ⟨5, 3⟩ rfl)
  exact single (.popReturns rfl)

theorem timerHeap_refines_replaced :
    (∃ view, Path ActiveTimers.Step {} replaced view) ∧
    ∀ past rest, replaced = past ++ .fired 3 none :: rest → .fired 3 none ∉ past := by
  obtain ⟨last, hpath⟩ := replaced_path
  obtain ⟨⟨view, hview, -⟩, hfired⟩ := timerHeap_refines hpath (by decide)
  exact ⟨⟨view, hview⟩, fun past rest hlabels => (hfired past rest 3 none hlabels).2 none⟩

end LiteIM
