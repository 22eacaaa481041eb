/-
# Channels and their registration

What a channel waits for is kept three times: in the channel, in the table of its loop's
epoller, and in the kernel. A channel changes its events and then has the epoller pass them on,
which fails where `epoll_ctl` does, and the events stay changed. While no call fails that changes
events, the three agree, and whoever sees that a channel waits for output may rely on it.
-/

import LiteIM.Base.Status
import LiteIM.Foundation.Transition
import Mathlib.Data.UInt
import Mathlib.Logic.Function.Basic

namespace LiteIM

open Foundation Function Status

namespace Epoller

/-- A channel; loops are numbered, and it may have none. -/
structure Channel where
  ownerLoop : Option Nat
  fd : Int
  events : UInt32 := 0
  revents : UInt32 := 0

namespace Channel

def kNoneEvent : UInt32 := 0

/-- `EPOLLIN | EPOLLPRI | EPOLLRDHUP`. -/
def kReadEvent : UInt32 := 0x2003

/-- `EPOLLOUT`. -/
def kWriteEvent : UInt32 := 0x4

def isNoneEvent (channel : Channel) : Bool := channel.events == kNoneEvent

def isWriting (channel : Channel) : Bool := channel.events &&& kWriteEvent != 0

end Channel

structure EpollEvent (κ : Type) where
  events : UInt32
  data : κ

end Epoller

open Epoller in
/-- The channels, the epoller of one loop, and the kernel's interest set of its epoll fd. -/
structure Epoller (κ : Type) where
  ownerLoop : Option Nat
  epollFd : Int
  channels : κ → Channel
  registered : Int → Option κ := fun _ => none
  interest : Int → Option (EpollEvent κ) := fun _ => none

namespace Epoller

inductive Operation where
  | add
  | mod
  | del

def Operation.action : Operation → String
  | .add => "epoll_ctl(ADD)"
  | .mod => "epoll_ctl(MOD)"
  | .del => "epoll_ctl(DEL)"

def errnoStatus {α : Type} (action : String) (errorNumber : Nat) : Except Error α :=
  error .ioError s!"{action} failed with errno {errorNumber}"

variable {κ : Type} [DecidableEq κ]

def makeEpollEvent (epoller : Epoller κ) (c : κ) : EpollEvent κ := ⟨(epoller.channels c).events, c⟩

/-- The kernel refuses to add an fd twice (`EEXIST`) and to change or remove one that is not
there (`ENOENT`), and it may fail with any other `errno`; then nothing changes. -/
def epollCtl (epoller : Epoller κ) (failure : Option Nat) (operation : Operation) (c : κ) :
    Except Error (Epoller κ) :=
  let fd := (epoller.channels c).fd
  let watch (event : Option (EpollEvent κ)) :=
    { epoller with interest := update epoller.interest fd event }
  match failure, operation, epoller.interest fd with
  | some errorNumber, _, _ => errnoStatus operation.action errorNumber
  | none, .add, some _ => errnoStatus operation.action 17
  | none, .mod, none | none, .del, none => errnoStatus operation.action 2
  | none, .del, some _ => .ok (watch none)
  | none, .add, none | none, .mod, some _ => .ok (watch (epoller.makeEpollEvent c))

def register (epoller : Epoller κ) (fd : Int) (entry : Option κ) : Epoller κ :=
  { epoller with registered := update epoller.registered fd entry }

def setChannel (epoller : Epoller κ) (c : κ) (channel : Channel) : Epoller κ :=
  { epoller with channels := update epoller.channels c channel }

def setRevents (epoller : Epoller κ) (c : κ) (revents : UInt32) : Epoller κ :=
  epoller.setChannel c { epoller.channels c with revents }

/-- The checks with which both calls of the epoller begin. -/
def validate (epoller : Epoller κ) (action : String) (c : κ) : Except Error Unit :=
  if (epoller.channels c).fd < 0 then
    error .invalidArgument s!"{action} requires a valid channel"
  else if epoller.ownerLoop ≠ none ∧ (epoller.channels c).ownerLoop ≠ epoller.ownerLoop then
    error .invalidArgument "channel belongs to a different EventLoop"
  else if epoller.epollFd < 0 then
    error .ioError "epoll_ctl failed because epoll fd is invalid"
  else .ok ()

def erase (epoller : Epoller κ) (failure : Option Nat) (c : κ) : Except Error (Epoller κ) := do
  let next ← epoller.epollCtl failure .del c
  return (next.register (epoller.channels c).fd none).setRevents c Channel.kNoneEvent

/-- A failed call changes nothing. -/
def updateChannel (epoller : Epoller κ) (failure : Option Nat) (c : κ) :
    Except Error (Epoller κ) := do
  epoller.validate "updateChannel" c
  let fd := (epoller.channels c).fd
  match epoller.registered fd with
  | none =>
    if (epoller.channels c).isNoneEvent then
      error .invalidArgument "cannot add channel without interested events"
    else
      let next ← epoller.epollCtl failure .add c
      return next.register fd (some c)
  | some found =>
    if found ≠ c then
      error .invalidArgument "fd already belongs to a different channel"
    else if (epoller.channels c).isNoneEvent then epoller.erase failure c
    else epoller.epollCtl failure .mod c

def removeChannel (epoller : Epoller κ) (failure : Option Nat) (c : κ) :
    Except Error (Epoller κ) := do
  epoller.validate "removeChannel" c
  if epoller.registered (epoller.channels c).fd = some c then epoller.erase failure c
  else error .invalidArgument "channel is not registered in epoller"

/-- What is left by a call of the epoller, and what it returns. -/
def after (before : Epoller κ) : Except Error (Epoller κ) → Except Error Unit × Epoller κ
  | .ok next => (.ok (), next)
  | .error status => (.error status, before)

/-- A channel changes its events, and has the epoller of its loop pass them on. The loop throws
what the epoller returns. A channel of no loop tells no one. -/
def change (epoller : Epoller κ) (failure : Option Nat) (c : κ) (events : UInt32 → UInt32) :
    Except Error Unit × Epoller κ :=
  let channel := epoller.channels c
  let changed := epoller.setChannel c { channel with events := events channel.events }
  if channel.ownerLoop ≠ none ∧ channel.ownerLoop = epoller.ownerLoop then
    changed.after (changed.updateChannel failure c)
  else (.ok (), changed)

def enableReading (epoller : Epoller κ) (failure : Option Nat) (c : κ) :=
  epoller.change failure c (· ||| Channel.kReadEvent)

def disableReading (epoller : Epoller κ) (failure : Option Nat) (c : κ) :=
  epoller.change failure c (· &&& ~~~ Channel.kReadEvent)

def enableWriting (epoller : Epoller κ) (failure : Option Nat) (c : κ) :=
  epoller.change failure c (· ||| Channel.kWriteEvent)

def disableWriting (epoller : Epoller κ) (failure : Option Nat) (c : κ) :=
  epoller.change failure c (· &&& ~~~ Channel.kWriteEvent)

def disableAll (epoller : Epoller κ) (failure : Option Nat) (c : κ) :=
  epoller.change failure c fun _ => Channel.kNoneEvent

inductive Call where
  | enableReading
  | disableReading
  | enableWriting
  | disableWriting
  | disableAll
  | updateChannel
  | removeChannel

/-- A call for a channel, in which `epoll_ctl` may fail. -/
structure Label (κ : Type) where
  call : Call
  channel : κ
  failure : Option Nat := none

def perform (epoller : Epoller κ) : Label κ → Except Error Unit × Epoller κ
  | ⟨.enableReading, c, failure⟩ => epoller.enableReading failure c
  | ⟨.disableReading, c, failure⟩ => epoller.disableReading failure c
  | ⟨.enableWriting, c, failure⟩ => epoller.enableWriting failure c
  | ⟨.disableWriting, c, failure⟩ => epoller.disableWriting failure c
  | ⟨.disableAll, c, failure⟩ => epoller.disableAll failure c
  | ⟨.updateChannel, c, failure⟩ => epoller.after (epoller.updateChannel failure c)
  | ⟨.removeChannel, c, failure⟩ => epoller.after (epoller.removeChannel failure c)

def Step (before : Epoller κ) (label : Label κ) (after : Epoller κ) : Prop :=
  (before.perform label).2 = after

/-! ## What the three copies say -/

/-- The kernel watches the registered fds and no others, each for the events of its channel,
and a channel that waits for output is registered. -/
structure InStep (epoller : Epoller κ) : Prop where
  watched : ∀ fd c, epoller.registered fd = some c →
    (epoller.channels c).fd = fd ∧ epoller.interest fd = some (epoller.makeEpollEvent c)
  unwatched : ∀ fd, epoller.registered fd = none → epoller.interest fd = none
  writing : ∀ c, (epoller.channels c).isWriting = true →
    epoller.registered (epoller.channels c).fd = some c

/-- Channels with distinct fds, in step. -/
structure Sound (epoller : Epoller κ) : Prop extends InStep epoller where
  distinct : ∀ c d, (epoller.channels c).fd = (epoller.channels d).fd → c = d

/-- The channel is one of the epoller's loop, and both fds are open. -/
def Serves (epoller : Epoller κ) (c : κ) : Prop :=
  epoller.ownerLoop ≠ none ∧ (epoller.channels c).ownerLoop = epoller.ownerLoop ∧
    0 ≤ (epoller.channels c).fd ∧ 0 ≤ epoller.epollFd

variable {epoller : Epoller κ} {c : κ}

omit [DecidableEq κ] in
theorem Serves.validate (hserves : epoller.Serves c) (action : String) :
    epoller.validate action c = .ok () := by
  obtain ⟨-, howned, hfd, hepollFd⟩ := hserves
  rw [Epoller.validate, if_neg (Int.not_lt.mpr hfd), if_neg fun h => h.2 howned,
    if_neg (Int.not_lt.mpr hepollFd)]

theorem isWriting_of_isNoneEvent {channel : Channel} (hnone : channel.isNoneEvent = true) :
    channel.isWriting = false := by
  rw [Channel.isNoneEvent, beq_iff_eq] at hnone
  rw [Channel.isWriting, hnone]
  decide

/-- One channel and the entries of its fd change, and agree again. -/
theorem Sound.set (hsound : epoller.Sound) (entry : Option κ) {channel : Channel}
    {next : Epoller κ} (hchannels : next.channels = update epoller.channels c channel)
    (hfd : channel.fd = (epoller.channels c).fd)
    (hregistered : next.registered = update epoller.registered channel.fd entry)
    (hinterest : next.interest = update epoller.interest channel.fd
      (entry.map (⟨channel.events, ·⟩)))
    (hentry : entry = none ∧ channel.isWriting = false ∨ entry = some c) : next.Sound := by
  obtain ⟨⟨hwatched, hunwatched, hwriting⟩, hdistinct⟩ := hsound
  rcases hentry with ⟨rfl, hquiet⟩ | rfl
  all_goals
    refine ⟨⟨?_, ?_, ?_⟩, ?_⟩
    all_goals
      simp only [makeEpollEvent, hchannels, hregistered, hinterest, update_apply]
      grind [makeEpollEvent]

section Changed

variable {changed : Epoller κ} {events : UInt32}
  (hchanged : changed = epoller.setChannel c { epoller.channels c with events })
include hchanged

theorem channel_changed : changed.channels c = { epoller.channels c with events } := by
  rw [hchanged]
  exact update_self ..

variable (hsound : epoller.Sound)
include hsound

/-- A channel that does not wait for output leaves the table and the interest set. -/
theorem Sound.erase (hfound : epoller.registered (epoller.channels c).fd = some c)
    (hquiet : (changed.channels c).isWriting = false) :
    (changed.after (changed.erase none c)).2.Sound := by
  have hchannel := channel_changed hchanged
  have hwatched : changed.interest (changed.channels c).fd = some (epoller.makeEpollEvent c) := by
    rw [hchannel, hchanged]
    exact (hsound.watched _ _ hfound).2
  have hfd : (changed.channels c).fd = (epoller.channels c).fd := by rw [hchannel]
  simp only [Epoller.erase, epollCtl, hwatched]
  subst hchanged
  exact hsound.set none (update_idem ..) hfd rfl rfl (.inl ⟨rfl, hquiet⟩)

/-- A channel that was passed on is in step. -/
theorem Sound.update (hserves : epoller.Serves c) :
    (changed.after (changed.updateChannel none c)).2.Sound := by
  have hchannel := channel_changed hchanged
  have hvalid : changed.validate "updateChannel" c = .ok () := by
    apply Serves.validate
    rw [Serves, hchannel, hchanged]
    exact hserves
  have hregistered : changed.registered = epoller.registered := by rw [hchanged]; rfl
  have hinterest : changed.interest = epoller.interest := by rw [hchanged]; rfl
  simp only [updateChannel, hvalid, bind, Except.bind, hregistered]
  rw [hchannel]
  cases hfound : epoller.registered (epoller.channels c).fd with
  | none =>
    have hunwatched := hsound.unwatched _ hfound
    simp only
    split_ifs with hnone
    · subst hchanged
      refine hsound.set none rfl rfl ?_ ?_ (.inl ⟨rfl, isWriting_of_isNoneEvent hnone⟩)
      · exact (update_eq_self_iff.mpr hfound.symm).symm
      · exact (update_eq_self_iff.mpr hunwatched.symm).symm
    · simp only [epollCtl, makeEpollEvent, hchannel, hinterest, hunwatched]
      subst hchanged
      exact hsound.set (some c) rfl rfl rfl rfl (.inr rfl)
  | some found =>
    obtain ⟨hfd, hwatched⟩ := hsound.watched _ _ hfound
    obtain rfl := hsound.distinct _ _ hfd
    simp only [ne_eq, not_true_eq_false, if_false]
    split_ifs with hnone
    · exact hsound.erase hchanged hfound (hchannel ▸ isWriting_of_isNoneEvent hnone)
    · simp only [epollCtl, makeEpollEvent, hchannel, hinterest, hwatched]
      subst hchanged
      refine hsound.set (some found) rfl rfl ?_ rfl (.inr rfl)
      exact (update_eq_self_iff.mpr hfound.symm).symm

end Changed

theorem setChannel_self (epoller : Epoller κ) (c : κ) :
    epoller = epoller.setChannel c
      { epoller.channels c with events := (epoller.channels c).events } := by
  rw [setChannel, update_eq_self]

/-- The call is one for a channel of the loop, the kernel carries it out, and a channel that is
removed does not wait for output; or `epoll_ctl` fails, but the events stay as they were. -/
def Calm (epoller : Epoller κ) (label : Label κ) : Prop :=
  label.failure = none ∧ epoller.Serves label.channel ∧
      (label.call = .removeChannel → (epoller.channels label.channel).isWriting = false) ∨
    label.failure ≠ none ∧ ((epoller.perform label).2.channels label.channel).events =
      (epoller.channels label.channel).events

theorem after_updateChannel_failed (epoller : Epoller κ) (errorNumber : Nat) (c : κ) :
    (epoller.after (epoller.updateChannel (some errorNumber) c)).2 = epoller := by
  rw [updateChannel]
  cases epoller.validate "updateChannel" c with
  | error => rfl
  | ok =>
    simp only [bind, Except.bind]
    cases epoller.registered (epoller.channels c).fd with
    | none | some =>
      dsimp only
      split_ifs <;> rfl

theorem change_failed {errorNumber : Nat} {events : UInt32 → UInt32}
    (hsame : ((epoller.change (some errorNumber) c events).2.channels c).events =
      (epoller.channels c).events) : (epoller.change (some errorNumber) c events).2 = epoller := by
  have hchanged : (epoller.change (some errorNumber) c events).2 = epoller.setChannel c
      { epoller.channels c with events := events (epoller.channels c).events } := by
    rw [change]
    split_ifs
    · exact after_updateChannel_failed _ errorNumber c
    · rfl
  rw [hchanged, channel_changed rfl] at hsame
  have hevents : events (epoller.channels c).events = (epoller.channels c).events := hsame
  rw [hchanged, hevents]
  exact (setChannel_self epoller c).symm

/-- A call in which `epoll_ctl` fails does nothing if it leaves the events alone. -/
theorem perform_failed {label : Label κ} (hfailed : label.failure ≠ none)
    (hsame : ((epoller.perform label).2.channels label.channel).events =
      (epoller.channels label.channel).events) : (epoller.perform label).2 = epoller := by
  obtain ⟨call, c, failure⟩ := label
  obtain ⟨errorNumber, rfl⟩ := Option.ne_none_iff_exists'.mp hfailed
  cases call with
  | updateChannel => exact after_updateChannel_failed epoller errorNumber c
  | removeChannel =>
    show (epoller.after (epoller.removeChannel (some errorNumber) c)).2 = epoller
    rw [removeChannel]
    cases epoller.validate "removeChannel" c with
    | error => rfl
    | ok =>
      simp only [bind, Except.bind]
      split_ifs <;> rfl
  | _ => exact change_failed hsame

theorem Sound.changed (hsound : epoller.Sound) (hserves : epoller.Serves c)
    (events : UInt32 → UInt32) : (epoller.change none c events).2.Sound := by
  rw [Epoller.change, if_pos ⟨fun hnone => hserves.1 (hserves.2.1.symm.trans hnone), hserves.2.1⟩]
  exact hsound.update rfl hserves

theorem Sound.step (hsound : epoller.Sound) {label : Label κ} (hcalm : epoller.Calm label) :
    (epoller.perform label).2.Sound := by
  rcases hcalm with hcalm | ⟨hfailed, hsame⟩
  swap
  · rw [perform_failed hfailed hsame]
    exact hsound
  obtain ⟨call, c, failure⟩ := label
  obtain ⟨rfl, hserves, hquiet⟩ := hcalm
  cases call with
  | updateChannel => exact hsound.update (setChannel_self epoller c) hserves
  | removeChannel =>
    show (epoller.after (epoller.removeChannel none c)).2.Sound
    rw [removeChannel, hserves.validate]
    simp only [bind, Except.bind]
    split_ifs with hfound
    · exact hsound.erase (setChannel_self epoller c) hfound (hquiet rfl)
    · exact hsound
  | _ => exact hsound.changed hserves _

/-- In every run of such calls, from channels with distinct fds and no events, the channels, the
table and the interest set are in step. -/
theorem registration_inStep (first last : Epoller κ) (labels : List (Label κ))
    (hdistinct : Injective fun c => (first.channels c).fd)
    (hnone : ∀ c, (first.channels c).events = Channel.kNoneEvent)
    (htable : first.registered = fun _ => none) (hinterest : first.interest = fun _ => none)
    (hpath : Path (fun before label after => before.Calm label ∧ Step before label after)
      first labels last) : last.InStep := by
  suffices hsound : last.Sound from hsound.toInStep
  apply hpath.state_invariant Sound
  · refine ⟨⟨by simp [htable], by simp [hinterest], fun c hwriting => ?_⟩,
      fun _ _ => @hdistinct _ _⟩
    rw [isWriting_of_isNoneEvent (by simp [Channel.isNoneEvent, hnone])] at hwriting
    cases hwriting
  · rintro before label after hbefore ⟨hcalm, rfl⟩
    exact hbefore.step hcalm

/-- Two channels of one loop. -/
def twoChannels : Epoller Bool where
  ownerLoop := some 0
  epollFd := 3
  channels c := { ownerLoop := some 0, fd := if c then 6 else 5 }

/-- Both channels are watched; one is removed, at the second attempt. -/
def removal : List (Label Bool) :=
  [⟨.enableReading, false, none⟩, ⟨.enableWriting, true, none⟩, ⟨.removeChannel, false, some 12⟩,
    ⟨.removeChannel, false, none⟩]

theorem registration_inStep_removal : ∃ last : Epoller Bool,
    Path (fun before label after => before.Calm label ∧ Step before label after) twoChannels
      removal last ∧
    last.registered 5 = none ∧ last.registered 6 = some true ∧ last.InStep := by
  have hpath : Path (fun before label after => before.Calm label ∧ Step before label after)
      twoChannels removal _ :=
    .cons ⟨Or.inl ⟨rfl, ⟨by decide, rfl, by decide, by decide⟩, by rintro ⟨⟩⟩, rfl⟩
      (.cons ⟨Or.inl ⟨rfl, ⟨by decide, rfl, by decide, by decide⟩, by rintro ⟨⟩⟩, rfl⟩
      (.cons ⟨Or.inr ⟨by decide, rfl⟩, rfl⟩
      (.single ⟨Or.inl ⟨rfl, ⟨by decide, rfl, by decide, by decide⟩, fun _ => by decide⟩, rfl⟩)))
  refine ⟨_, hpath, rfl, rfl, registration_inStep twoChannels _ removal ?_ (fun _ => rfl) rfl rfl
    hpath⟩
  decide

/-- One channel of one loop. -/
def oneChannel : Epoller Unit where
  ownerLoop := some 0
  epollFd := 3
  channels _ := { ownerLoop := some 0, fd := 5 }

/-- The kernel refuses to change what it watches (`ENOMEM`): the channel waits for output from
then on, and is not watched for it. -/
theorem enableWriting_unwatched :
    ∃ (first last : Epoller Unit) (labels : List (Label Unit)),
      Injective (fun c => (first.channels c).fd) ∧
      (∀ c, (first.channels c).events = Channel.kNoneEvent) ∧
      first.registered = (fun _ => none) ∧ first.interest = (fun _ => none) ∧
      Path Step first labels last ∧ (last.channels ()).isWriting = true ∧
      (last.interest 5).map EpollEvent.events = some Channel.kReadEvent ∧ ¬ last.InStep := by
  refine ⟨oneChannel, _, [⟨.enableReading, (), none⟩, ⟨.enableWriting, (), some 12⟩],
    fun _ _ _ => rfl, fun _ => rfl, rfl, rfl, (Path.single rfl).snoc rfl, by decide, by decide, ?_⟩
  intro hinStep
  have hevents := congrArg (Option.map EpollEvent.events) (hinStep.watched 5 () rfl).2
  revert hevents
  decide

end Epoller

end LiteIM
