/-
# The steps of a session

What a step of a session does to its output: seen from the socket the session is an
outlet, into which `sendEncodedInLoop` puts packets and from which `handleWrite` takes
bytes until `closeInLoop` shuts it. The functions that the loop thread runs at once, as
tasks or for a caller on its own thread, are told apart once, by what they do.
-/

import LiteIM.Foundation.Outlet
import LiteIM.Net.Session

namespace LiteIM

open Foundation EventLoop Label Outlet

namespace Session

/-! ## What happened -/

section Histories

variable {ι κ : Type}

/-- The packet that `sendEncodedInLoop` accepted, and the thread that sent it. -/
def Label.accepted? : Label ι κ → Option (User ι × Bytes)
  | .run (.send caller encoded) (.ok ()) => some (.other caller, encoded)
  | .sendHere packet (.ok ()) => (encodePacket packet).toOption.map (User.owner, ·)
  | _ => none

def Label.wrote? : Label ι κ → Option Bytes
  | .write (.wrote bytes) => some bytes
  | _ => none

/-- The packet that a thread passes to `sendPacket`. -/
def Label.sent? : Label ι κ → Option (User ι × Packet)
  | .send caller packet => some (.other caller, packet)
  | .sendHere packet _ => some (.owner, packet)
  | _ => none

/-- The step of the outlet. -/
def Label.outlet? : Label ι κ → Option (Outlet.Label UInt8)
  | .write (.wrote bytes) => some (.emit bytes)
  | .close => some .close
  | label => label.accepted?.map fun item => .accept item.2

def Label.isCloseCallback : Label ι κ → Bool
  | .closeCallback => true
  | _ => false

/-- The encodings that were accepted, in the order of acceptance. -/
def accepted (past : List (Label ι κ)) : List (User ι × Bytes) :=
  past.filterMap Label.accepted?

/-- The bytes that were written to the socket. -/
def written (past : List (Label ι κ)) : Bytes := (past.filterMap Label.wrote?).flatten

/-- How often the close callback was called. -/
def closeCallbacks (past : List (Label ι κ)) : Nat := past.countP Label.isCloseCallback

/-- What of a list belongs to a thread. -/
def ofUser [DecidableEq ι] {α : Type} (user : User ι)
    (items : List (User ι × α)) : List α :=
  items.filterMap fun item => if item.1 = user then some item.2 else none

/-- The encodings of the packets that a thread passed to `sendPacket`, in the order of the
calls. -/
def sent [DecidableEq ι] (user : User ι) (past : List (Label ι κ)) : List Bytes :=
  (ofUser user (past.filterMap Label.sent?)).filterMap fun packet =>
    (encodePacket packet).toOption

theorem Label.eq_close_of_outlet {label : Label ι κ} (hlabel : label.outlet? = some .close) :
    label = .close := by
  cases label with
  | close => rfl
  | write result => cases result <;> exact nomatch hlabel
  | run | sendHere =>
    obtain ⟨item, -, hitem⟩ := Option.map_eq_some_iff.mp hlabel
    exact nomatch hitem
  | _ => exact nomatch hlabel

/-- What the outlet accepts and emits is what the session accepts and writes. -/
theorem Label.outlet_ends (label : Label ι κ) :
    label.outlet?.bind Outlet.Label.accepted? = label.accepted?.map Prod.snd ∧
      label.outlet?.bind Label.emitted? = label.wrote? := by
  cases label with
  | run | sendHere =>
    simp only [Label.outlet?, Label.wrote?]
    generalize accepted? _ = accepted
    cases accepted <;> exact ⟨rfl, rfl⟩
  | write result => cases result <;> exact ⟨rfl, rfl⟩
  | _ => exact ⟨rfl, rfl⟩

/-- The encodings of what a thread sends in this step. -/
def Label.sentBy [DecidableEq ι] (label : Label ι κ) (user : User ι) : List Bytes :=
  (ofUser user label.sent?.toList).filterMap fun packet => (encodePacket packet).toOption

end Histories

/-- Where the thread goes on after `closeInLoop` is where it may call it. -/
def Point.Nested : Point → Prop
  | .closeInLoop back => back.callable = true ∧ back.Nested
  | .closing back => back.callable = true ∧ back.Nested
  | .resetQueued back => back.callable = true ∧ back.Nested
  | .inClose back => back.callable = true ∧ back.Nested
  | _ => True

theorem Point.closes_of_callable {point : Point} (hcallable : point.callable = true) :
    point.closes = false := by
  cases point with
  | closing | resetQueued => exact nomatch hcallable
  | _ => rfl

/-! ## The functions -/

/-- The session as an outlet. -/
def outlet (session : Session) : Outlet UInt8 where
  limit := session.outputHighWaterMark
  pending := session.pending
  isOpen := !session.closed

theorem outlet_startInLoop (session : Session) :
    session.startInLoop.outlet = session.outlet := by
  rw [startInLoop]
  split_ifs <;> rfl

theorem outlet_resetChannel (session : Session) :
    session.resetChannel.outlet = session.outlet := by
  rw [resetChannel]
  split_ifs <;> rfl

theorem outlet_finishWrite (session : Session) :
    session.finishWrite.outlet = session.outlet := by
  rw [finishWrite]
  split_ifs <;> rfl

variable {encoded : Bytes}

/-- What is accepted is put behind what is pending, and fits below the mark. -/
theorem sendEncodedInLoop_accepted {session after : Session}
    (haccepted : session.sendEncodedInLoop encoded = .accepted after) : session.closed = false ∧
      session.pending.length + encoded.length ≤ session.outputHighWaterMark ∧
      encoded ≠ [] ∧ ∃ buffer : Buffer, buffer.readable = session.pending ++ encoded ∧
        after = { session with
          outputBuffer := buffer, channel := session.channel.map Channel.enableWriting } := by
  rw [sendEncodedInLoop] at haccepted
  by_cases hclosed : session.state ≠ .started ∨ session.closed = true ∨ encoded = []
  · rw [if_pos hclosed] at haccepted
    exact nomatch haccepted
  rw [if_neg hclosed] at haccepted
  obtain ⟨-, hopen, hencoded⟩ : session.state = .started ∧ ¬ session.closed = true ∧
      encoded ≠ [] := by simpa using hclosed
  by_cases hfull : encoded.length > session.outputHighWaterMark ∨
      session.outputBuffer.readableBytes > session.outputHighWaterMark - encoded.length
  · rw [if_pos hfull] at haccepted
    exact nomatch haccepted
  rw [if_neg hfull] at haccepted
  obtain ⟨buffer, happend, hreadable⟩ := session.outputBuffer.append_some encoded
  rw [happend] at haccepted
  refine ⟨eq_false_of_ne_true hopen, ?_, hencoded, buffer, hreadable, ?_⟩
  · rw [pending, Buffer.length_readable]
    omega
  · exact (Delivery.accepted.inj haccepted).symm

/-- An open started session accepts what fits below the mark. -/
theorem exists_sendEncodedInLoop_accepted {session : Session}
    (hstarted : session.state = .started) (hopen : session.closed = false) (hencoded : encoded ≠ [])
    (hroom : session.pending.length + encoded.length ≤ session.outputHighWaterMark) :
    ∃ after, session.sendEncodedInLoop encoded = .accepted after := by
  obtain ⟨buffer, happend, -⟩ := session.outputBuffer.append_some encoded
  rw [pending, Buffer.length_readable] at hroom
  rw [sendEncodedInLoop, if_neg (by simp [hstarted, hopen, hencoded]), if_neg (by omega),
    happend]
  exact ⟨_, rfl⟩

namespace Threads

variable {ι κ : Type} {threads after : Threads ι κ}

/-- What a function of the session does that the loop thread runs at once, and the bytes it
accepts. -/
inductive Turn (threads : Threads ι κ) : Option Bytes → Threads ι κ → Prop where
  | same : Turn threads none threads
  | closes : Turn threads none (threads.callClose threads.point)
  | starts : Turn threads none { threads with session := threads.session.startInLoop }
  | resets : Turn threads none { threads with session := threads.session.resetChannel }
  | accepts {encoded : Bytes} {session : Session}
      (accepted : threads.session.sendEncodedInLoop encoded = .accepted session) :
      Turn threads (some encoded) { threads with session }

variable {status : Except Error Unit}

theorem deliver_turn (hdeliver : threads.deliver encoded = (status, after)) :
    Turn threads (status.toOption.map fun _ => encoded) after := by
  rw [deliver] at hdeliver
  cases hsent : threads.session.sendEncodedInLoop encoded with
  | refused =>
    rw [hsent] at hdeliver
    cases hdeliver
    exact .same
  | closes =>
    rw [hsent] at hdeliver
    cases hdeliver
    exact .closes
  | accepted =>
    rw [hsent] at hdeliver
    cases hdeliver
    exact .accepts hsent

theorem sendHere_turn {packet : Packet} (hsend : threads.sendHere packet = (status, after)) :
    Turn threads ((Label.sendHere packet status : Label ι κ).accepted?.map Prod.snd) after := by
  rw [sendHere, sendPacket] at hsend
  split_ifs at hsend with hclosed
  · cases hsend
    exact .same
  · cases hencode : encodePacket packet with
    | error =>
      rw [hencode] at hsend
      cases hsend
      exact .same
    | ok encoded =>
      rw [hencode] at hsend
      by_cases hlong : encoded.length > threads.session.outputHighWaterMark
      · simp only [if_pos hlong] at hsend
        cases hsend
        exact .closes
      · simp only [if_neg hlong] at hsend
        have hturn := deliver_turn hsend
        cases status with
        | error => exact hturn
        | ok =>
          rw [Label.accepted?, hencode]
          exact hturn

theorem perform_turn {task : Task ι} (hperform : threads.perform task = (status, after)) :
    Turn threads ((Label.run task status : Label ι κ).accepted?.map Prod.snd) after := by
  cases task with
  | start =>
    cases hperform
    exact .starts
  | send =>
    have hturn := deliver_turn hperform
    cases status with
    | error | ok => exact hturn
  | close =>
    cases hperform
    exact .closes
  | resetChannel =>
    cases hperform
    exact .resets
  | unrelated =>
    cases hperform
    exact .same

/-! ## The outlet -/

variable {bytes : Option Bytes}

theorem Turn.outlet (hturn : Turn threads bytes after) :
    Optionally Outlet.Step threads.session.outlet (bytes.map .accept) after.session.outlet := by
  cases hturn with
  | same | closes => rfl
  | starts => exact outlet_startInLoop _
  | resets => exact outlet_resetChannel _
  | accepts accepted =>
    obtain ⟨hopen, hroom, -, buffer, hreadable, rfl⟩ := sendEncodedInLoop_accepted accepted
    have hpending : Session.pending { threads.session with
        outputBuffer := buffer
        channel := threads.session.channel.map Channel.enableWriting } =
          threads.session.pending ++ _ := hreadable
    show Outlet.Step _ _ ⟨threads.session.outputHighWaterMark, _, !threads.session.closed⟩
    rw [hpending]
    exact .accept (by rw [Session.outlet, hopen]; rfl) hroom

theorem Turn.closes_eq (hturn : Turn threads bytes after)
    (hcallable : threads.point.callable = true) : after.point.closes = threads.point.closes := by
  cases hturn with
  | closes => exact (Point.closes_of_callable hcallable).symm
  | _ => rfl

theorem Turn.point_eq (hturn : Turn threads bytes after) :
    after.point = threads.point ∨ after.point = .closeInLoop threads.point := by
  cases hturn with
  | closes => exact Or.inr rfl
  | _ => exact Or.inl rfl

theorem afterRead_outlet (threads : Threads ι κ) (result : ReadResult) :
    (threads.afterRead result).session.outlet = threads.session.outlet := by
  cases result with
  | bytes chunk =>
    rw [afterRead]
    cases (threads.session.decoder.feedBytes chunk).status <;> rfl
  | _ => rfl

/-- What `write` took is dropped from the buffer. -/
theorem afterWrite_wrote {bytes : Bytes} (htakes : bytes <+: threads.session.pending) :
    ∃ buffer : Buffer, threads.session.pending = bytes ++ buffer.readable ∧
      threads.afterWrite (.wrote bytes) =
        { threads with session := { threads.session with outputBuffer := buffer } } := by
  obtain ⟨buffer, hretrieve, hreadable⟩ := Buffer.retrieve_of_le htakes.length_le
  refine ⟨buffer, ?_, ?_⟩
  · obtain ⟨rest, hrest⟩ := htakes
    rw [hreadable]
    show threads.session.pending = bytes ++ threads.session.pending.drop bytes.length
    rw [← hrest, List.drop_left]
  · rw [afterWrite, hretrieve]

/-- The thread returns from `closeInLoop` to code that called it, and `handleWrite` works
on an open session. -/
structure Placed (threads : Threads ι κ) : Prop where
  nested : threads.point.Nested
  writing : threads.point = .writing → threads.session.closed = false

variable [DecidableEq ι] {label : Label ι κ}

theorem Step.outlet (htaken : Step threads label after) (hplaced : threads.Placed) :
    Optionally Outlet.Step threads.session.outlet label.outlet? after.session.outlet := by
  cases htaken with
  | run point taken performs =>
    have hturn := (perform_turn performs).outlet
    rwa [Option.map_map] at hturn
  | sendHere may point sends =>
    have hturn := (sendHere_turn sends).outlet
    rwa [Option.map_map] at hturn
  | startHere => exact outlet_startInLoop _
  | read => exact afterRead_outlet _ _
  | @write result point more takes =>
    cases result with
    | wrote bytes =>
      obtain ⟨buffer, hpending, hafter⟩ := afterWrite_wrote (takes bytes rfl).2
      rw [hafter]
      have hopen : threads.session.outlet.isOpen = true := by
        rw [Session.outlet, hplaced.writing point]
        rfl
      exact .emit hopen hpending
    | zero | wouldBlock => exact outlet_finishWrite _
    | interrupted | failed => rfl
  | writeEnds => exact outlet_finishWrite _
  | close point isOpen => exact .close (by rw [Session.outlet, isOpen]; rfl)
  | _ => rfl

/-! ## Where the loop thread is -/

omit [DecidableEq ι] in
theorem Turn.placed (hturn : Turn threads bytes after) (hcallable : threads.point.callable = true)
    (hnested : threads.point.Nested) : after.Placed := by
  rcases hturn.point_eq with hsame | hcloses
  · rw [← hsame] at hcallable hnested
    refine ⟨hnested, fun hwriting => ?_⟩
    rw [hwriting] at hcallable
    exact nomatch hcallable
  · refine ⟨?_, fun hwriting => ?_⟩
    · rw [hcloses]
      exact ⟨hcallable, hnested⟩
    · exact nomatch hcloses.symm.trans hwriting

omit [DecidableEq ι] in
/-- The thread goes on where it called `closeInLoop`. -/
theorem Placed.of_back {back : Point} (hpoint : after.point = back)
    (hback : back.callable = true ∧ back.Nested) : after.Placed := by
  subst hpoint
  refine ⟨hback.2, fun hwriting => ?_⟩
  rw [hwriting] at hback
  exact nomatch hback.1

theorem Placed.step (hplaced : threads.Placed) (htaken : Step threads label after) :
    after.Placed := by
  obtain ⟨hnested, hwriting⟩ := hplaced
  cases htaken with
  | loop | send | request | queue => exact ⟨hnested, hwriting⟩
  | @run task loop status after point taken performs =>
    have hidle : ({ threads with loop } : Threads ι κ).point = .idle := point
    apply (perform_turn performs).placed
    · rw [hidle]
      rfl
    · rw [hidle]
      trivial
  | sendHere may point sends => exact (sendHere_turn sends).placed point hnested
  | startHere may point => exact Placed.of_back rfl ⟨point, hnested⟩
  | closeHere may point => exact ⟨⟨point, hnested⟩, nofun⟩
  | handleRead | message | readEnds | writeEnds => exact ⟨trivial, nofun⟩
  | @read result point fd fits =>
    cases result with
    | bytes chunk =>
      rw [afterRead]
      cases (threads.session.decoder.feedBytes chunk).status with
      | error => exact ⟨⟨rfl, trivial⟩, nofun⟩
      | ok => exact ⟨trivial, nofun⟩
    | endOfStream | failed => exact ⟨⟨rfl, trivial⟩, nofun⟩
    | interrupted => exact ⟨hnested, hwriting⟩
    | wouldBlock => exact ⟨trivial, nofun⟩
  | @messageEnds rest ending point idle =>
    cases ending with
    | returned | threwException | threwOther => exact ⟨trivial, nofun⟩
  | handleWrite callback point ready => exact ⟨trivial, fun _ => ready.2.1⟩
  | @write result point more takes =>
    cases result with
    | wrote bytes =>
      obtain ⟨buffer, -, hafter⟩ := afterWrite_wrote (takes bytes rfl).2
      rw [hafter]
      exact ⟨hnested, hwriting⟩
    | zero | wouldBlock => exact ⟨trivial, nofun⟩
    | interrupted => exact ⟨hnested, hwriting⟩
    | failed => exact ⟨⟨rfl, trivial⟩, nofun⟩
  | hangUp => exact ⟨⟨rfl, trivial⟩, nofun⟩
  | close point | queueReset point | closeCallback point =>
    rw [point] at hnested
    exact ⟨hnested, nofun⟩
  | closeAgain point | closeEnds point =>
    rw [point] at hnested
    exact Placed.of_back rfl hnested

/-! ## Closing -/

/-- The close callback was called once for a closed session, or is about to be. -/
def CallsBack (past : List (Label ι κ)) (threads : Threads ι κ) : Prop :=
  closeCallbacks past + threads.point.closes.toNat = threads.session.closed.toNat

/-- Only `closeInLoop` sets `closed_`. -/
theorem Step.closed_eq (htaken : Step threads label after) (hplaced : threads.Placed)
    (hlabel : label ≠ .close) :
    after.session.closed = threads.session.closed := by
  have houtlet := htaken.outlet hplaced
  cases hinner : label.outlet? with
  | none =>
    rw [hinner] at houtlet
    exact Bool.not_inj (congrArg isOpen houtlet)
  | some =>
    rw [hinner] at houtlet
    apply Bool.not_inj
    apply Step.isOpen_eq houtlet
    intro hclose
    rw [hclose] at hinner
    exact hlabel (Label.eq_close_of_outlet hinner)

theorem Step.closes_eq (htaken : Step threads label after) (hplaced : threads.Placed)
    (hcallback : label.isCloseCallback = false) (hlabel : label ≠ .close) :
    after.point.closes = threads.point.closes := by
  have hnested := hplaced.nested
  cases htaken with
  | close => exact (hlabel rfl).elim
  | closeCallback => exact nomatch hcallback
  | closeAgain point | closeEnds point =>
    rw [point] at hnested ⊢
    exact Point.closes_of_callable hnested.1
  | @run task loop status after point taken performs =>
    exact (perform_turn performs).closes_eq (by rw [point]; rfl)
  | sendHere may point sends => exact (sendHere_turn sends).closes_eq point
  | closeHere may point => exact (Point.closes_of_callable point).symm
  | @read result point fd fits =>
    rw [point]
    cases result with
    | bytes chunk =>
      rw [afterRead]
      cases (threads.session.decoder.feedBytes chunk).status <;> rfl
    | interrupted => exact congrArg Point.closes point
    | _ => rfl
  | @messageEnds rest ending point idle =>
    rw [point]
    cases ending <;> rfl
  | @write result point more takes =>
    rw [point]
    cases result with
    | wrote bytes =>
      obtain ⟨buffer, -, hafter⟩ := afterWrite_wrote (takes bytes rfl).2
      rw [hafter]
      exact congrArg Point.closes point
    | interrupted => exact congrArg Point.closes point
    | _ => rfl
  | _ => simp [Point.closes, callClose, *]

theorem CallsBack.step {past : List (Label ι κ)} (hcalls : CallsBack past threads)
    (hplaced : threads.Placed) (htaken : Step threads label after) :
    CallsBack (past ++ [label]) after := by
  rw [CallsBack] at hcalls ⊢
  rw [closeCallbacks, List.countP_append, List.countP_singleton]
  by_cases hcallback : label.isCloseCallback = true
  · cases htaken with
    | closeCallback point =>
      rw [point] at hcalls
      exact hcalls
    | _ => exact nomatch hcallback
  rw [Bool.not_eq_true] at hcallback
  rw [hcallback]
  by_cases hlabel : label = .close
  · subst hlabel
    cases htaken with
    | close point isOpen =>
      rw [point, isOpen] at hcalls
      exact congrArg (· + 1) hcalls
  · rw [htaken.closes_eq hplaced hcallback hlabel, htaken.closed_eq hplaced hlabel]
    exact hcalls

end Threads

end Session

end LiteIM
