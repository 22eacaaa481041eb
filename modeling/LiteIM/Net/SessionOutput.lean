/-
# The output of a session

Packets come to a session from its loop thread, at once, and from other threads, through
the queue of the loop. The session accepts them into its buffer and writes the buffer
whenever the socket takes more. What it accepts and what it writes are the two ends of one
stream; the rest says who the accepted packets come from, when the session waits for the
socket, and what closing does.
-/

import LiteIM.Net.SessionSteps

namespace LiteIM

open Foundation Outlet EventLoop List Option Function

namespace Session

namespace Threads

variable {ι κ : Type} [DecidableEq ι] {threads after : Threads ι κ} {label : Label ι κ}

/-! ## Waiting for the socket -/

/-- An open session waits for the socket when it has something to write, and otherwise
only in `handleWrite`. -/
def Interested (threads : Threads ι κ) : Prop :=
  threads.session.closed = false → ∃ channel, threads.session.channel = some channel ∧
    (threads.session.pending ≠ [] → channel.writing = true) ∧
    (channel.writing = true → threads.session.pending ≠ [] ∨ threads.point = .writing)

omit [DecidableEq ι] in
theorem Interested.of_same (hinterested : threads.Interested)
    (hclosed : after.session.closed = threads.session.closed)
    (hchannel : after.session.channel = threads.session.channel)
    (hpending : after.session.pending = threads.session.pending)
    (hpoint : threads.point = .writing → after.point = .writing ∨ threads.session.pending ≠ []) :
    after.Interested := by
  intro hopen
  obtain ⟨channel, hsome, hon, hoff⟩ := hinterested (hclosed.symm.trans hopen)
  rw [hchannel, hpending]
  refine ⟨channel, hsome, hon, fun hwriting => ?_⟩
  rcases hoff hwriting with hmore | hwriting
  · exact Or.inl hmore
  · exact (hpoint hwriting).symm

omit [DecidableEq ι] in
theorem Turn.interested {bytes : Option Bytes} (hturn : Turn threads bytes after)
    (hinterested : threads.Interested) (hcallable : threads.point.callable = true) :
    after.Interested := by
  have hpoint : ¬ threads.point = .writing := by
    intro hwriting
    rw [hwriting] at hcallable
    exact nomatch hcallable
  cases hturn with
  | same => exact hinterested
  | closes => exact hinterested.of_same rfl rfl rfl fun hwriting => (hpoint hwriting).elim
  | starts =>
    intro hopen
    rw [startInLoop] at hopen ⊢
    split_ifs at hopen ⊢ with hlate
    · exact hinterested hopen
    · obtain ⟨channel, hsome, hon, hoff⟩ := hinterested hopen
      exact ⟨channel.enableReading, congrArg (Option.map _) hsome, hon, hoff⟩
  | resets =>
    intro hopen
    have hsame : threads.session.resetChannel = threads.session := by
      have hclosed : threads.session.closed = false :=
        (congrArg isOpen (outlet_resetChannel threads.session) |> Bool.not_inj).symm.trans
          hopen
      rw [resetChannel, hclosed]
      rfl
    rw [hsame] at hopen ⊢
    exact hinterested hopen
  | accepts accepted =>
    obtain ⟨hopen, -, hencoded, buffer, hreadable, rfl⟩ := sendEncodedInLoop_accepted accepted
    intro _
    obtain ⟨channel, hsome, -, -⟩ := hinterested hopen
    refine ⟨channel.enableWriting, congrArg (Option.map _) hsome, fun _ => rfl, fun _ => ?_⟩
    refine Or.inl ?_
    show buffer.readable ≠ []
    rw [hreadable]
    exact append_ne_nil_of_right_ne_nil _ hencoded

theorem Interested.step (hinterested : threads.Interested) (htaken : Step threads label after) :
    after.Interested := by
  cases htaken with
  | loop | send | request | queue => exact hinterested
  | @run task loop status after point taken performs =>
    exact (perform_turn performs).interested hinterested (by rw [point]; rfl)
  | sendHere may point sends => exact (sendHere_turn sends).interested hinterested point
  | startHere may point => exact Turn.starts.interested hinterested point
  | closeHere may point => exact Turn.closes.interested hinterested point
  | @read result point fd fits =>
    have hpoint : ¬ threads.point = .writing := by
      rw [point]
      rintro ⟨⟩
    cases result with
    | bytes chunk =>
      rw [afterRead]
      cases (threads.session.decoder.feedBytes chunk).status with
      | error | ok =>
        exact hinterested.of_same rfl rfl rfl fun hwriting => (hpoint hwriting).elim
    | _ => exact hinterested.of_same rfl rfl rfl fun hwriting => (hpoint hwriting).elim
  | @write result point more takes =>
    have hunfinished : threads.session.finishWrite = threads.session := by
      rw [finishWrite, if_neg]
      rw [← Buffer.length_readable]
      exact fun hnone => more (eq_nil_of_length_eq_zero hnone)
    cases result with
    | wrote bytes =>
      obtain ⟨buffer, -, hafter⟩ := afterWrite_wrote (takes bytes rfl).2
      rw [hafter]
      intro hopen
      obtain ⟨channel, hsome, hon, -⟩ := hinterested hopen
      exact ⟨channel, hsome, fun _ => hon more, fun _ => Or.inr point⟩
    | zero | wouldBlock =>
      rw [afterWrite, hunfinished]
      exact hinterested.of_same rfl rfl rfl fun _ => Or.inr more
    | interrupted => exact hinterested
    | failed => exact hinterested.of_same rfl rfl rfl fun _ => Or.inr more
  | writeEnds point done =>
    intro hopen
    have houtlet := outlet_finishWrite threads.session
    have hempty : threads.session.finishWrite.pending = [] :=
      (congrArg Outlet.pending houtlet).trans done
    obtain ⟨channel, hsome, -, -⟩ :=
      hinterested ((Bool.not_inj (congrArg isOpen houtlet)).symm.trans hopen)
    refine ⟨channel.disableWriting, ?_, fun hmore => (hmore hempty).elim, ?_⟩
    · rw [finishWrite, if_pos, hsome]
      · rfl
      · rw [← Buffer.length_readable]
        exact congrArg length done
    · rintro ⟨⟩
  | close => rintro ⟨⟩
  | closeEnds point =>
    refine hinterested.of_same rfl rfl rfl fun hwriting => ?_
    rw [point] at hwriting
    cases hwriting
  | _ => exact hinterested.of_same rfl rfl rfl (by simp [*])

/-! ## Whose packets are accepted -/

/-- The encoding in a task of this thread. -/
def encodedBy? (caller : ι) : Task ι → Option Bytes
  | .send other encoded => if other = caller then some encoded else none
  | _ => none

/-- The packets of a thread that are on their way: those queued, and the one it is about to
queue. -/
def underway (caller : ι) (threads : Threads ι κ) : List Bytes :=
  threads.loop.queued.filterMap (encodedBy? caller) ++
    ((threads.calls caller).bind (encodedBy? caller)).toList

/-- The packets of a thread are accepted, or on their way, in the order in which it sent
them. -/
structure InSendOrder (past : List (Label ι κ)) (threads : Threads ι κ) : Prop where
  own : ∀ caller other encoded, threads.calls caller = some (.send other encoded) → other = caller
  others : ∀ caller, (ofUser (.other caller) (accepted past) ++ threads.underway caller).Sublist
    (sent (.other caller) past)
  owner : (ofUser .owner (accepted past)).Sublist (sent .owner past)

theorem ofUser_accepted_snoc (user : User ι) (past : List (Label ι κ)) :
    ofUser user (accepted (past ++ [label])) =
      ofUser user (accepted past) ++ ofUser user label.accepted?.toList := by
  rw [accepted, filterMap_snoc, ofUser, filterMap_append]
  rfl

theorem sent_snoc (user : User ι) (past : List (Label ι κ)) :
    sent user (past ++ [label]) = sent user past ++ label.sentBy user := by
  rw [sent, filterMap_snoc, ofUser, filterMap_append, filterMap_append]
  rfl

/-- A step accepts packets that were first on their way, or that it sends. -/
theorem InSendOrder.extend {past : List (Label ι κ)} (horder : InSendOrder past threads)
    (hown : ∀ caller other encoded,
      after.calls caller = some (.send other encoded) → other = caller) (hothers : ∀ caller,
      (ofUser (.other caller) label.accepted?.toList ++ after.underway caller).Sublist
        (threads.underway caller ++ label.sentBy (.other caller)))
    (howner : (ofUser .owner label.accepted?.toList).Sublist (label.sentBy .owner)) :
    InSendOrder (past ++ [label]) after := by
  refine ⟨hown, fun caller => ?_, ?_⟩
  · rw [ofUser_accepted_snoc, sent_snoc, append_assoc]
    refine ((append_sublist_append_left _).mpr (hothers caller)).trans ?_
    rw [← append_assoc]
    exact (append_sublist_append_right _).mpr (horder.others caller)
  · rw [ofUser_accepted_snoc, sent_snoc]
    exact horder.owner.append howner

/-- A step that accepts nothing and drops none of what is on its way. -/
theorem InSendOrder.of_same {past : List (Label ι κ)} (horder : InSendOrder past threads)
    (haccepted : label.accepted? = none) (hcalls : after.calls = threads.calls)
    (hqueued : ∀ caller, after.loop.queued.filterMap (encodedBy? caller) =
      threads.loop.queued.filterMap (encodedBy? caller)) :
    InSendOrder (past ++ [label]) after := by
  apply horder.extend
  · rw [hcalls]
    exact horder.own
  · intro caller
    rw [haccepted, underway, underway, hqueued, hcalls]
    exact sublist_append_left _ _
  · rw [haccepted]
    exact nil_sublist _

omit [DecidableEq ι] in
theorem Turn.frame {bytes : Option Bytes} (hturn : Turn threads bytes after) :
    after.loop = threads.loop ∧ after.calls = threads.calls := by
  cases hturn <;> exact ⟨rfl, rfl⟩

/-- The packets in the queue after a step of the loop. -/
theorem queued_encodedBy {loop last : EventLoop ι (Task ι) κ}
    {label : EventLoop.Label ι (Task ι) κ} (htaken : EventLoop.Step loop label last) (caller : ι) :
    loop.queued.filterMap (encodedBy? caller) ++
        label.pushed?.toList.filterMap (encodedBy? caller) =
      label.ran?.toList.filterMap (encodedBy? caller) ++
        last.queued.filterMap (encodedBy? caller) := by
  rw [← filterMap_append, htaken.queued, filterMap_append]

theorem Unrelated.encodedBy {label : EventLoop.Label ι (Task ι) κ} (hunrelated : Unrelated label)
    (caller : ι) :
    label.pushed?.toList.filterMap (encodedBy? caller) = [] ∧
      label.ran?.toList.filterMap (encodedBy? caller) = [] := by
  refine ⟨?_, ?_⟩
  · cases hpushed : label.pushed? with
    | none => rfl
    | some task =>
      rw [hunrelated task (Or.inl hpushed)]
      rfl
  · cases hran : label.ran? with
    | none => rfl
    | some task =>
      rw [hunrelated task (Or.inr hran)]
      rfl

/-- `sendPacket` queues the encoding of its packet, if any. -/
theorem sendTask_encodedBy (session : Session) (caller : ι) (packet : Packet) :
    (((sendTask caller (session.sendPacket packet)).bind (encodedBy? caller)).toList).Sublist
      ((Label.send caller packet : Label ι κ).sentBy (.other caller)) := by
  rw [sendPacket]
  split_ifs with hclosed
  · exact nil_sublist _
  · cases hencode : encodePacket packet with
    | error => exact nil_sublist _
    | ok encoded =>
      by_cases hlong : encoded.length > session.outputHighWaterMark
      · simp [hlong, sendTask, encodedBy?]
      · simp [hlong, sendTask, encodedBy?, Label.sentBy, Label.sent?, ofUser, hencode,
          Except.toOption]

/-- What a task is accepted for is what was queued. -/
theorem accepted_run (task : Task ι) (status : Except Error Unit) (caller : ι) :
    (ofUser (.other caller) (Label.run task status : Label ι κ).accepted?.toList).Sublist
      ([task].filterMap (encodedBy? caller)) := by
  cases task with
  | send other =>
    cases status with
    | error => exact nil_sublist _
    | ok =>
      by_cases hsame : other = caller
      · simp [Label.accepted?, ofUser, encodedBy?, hsame]
      · simp [Label.accepted?, ofUser, encodedBy?, hsame]
  | _ => exact nil_sublist _

theorem accepted_sendHere (packet : Packet) (status : Except Error Unit) (caller : ι) :
    ofUser (.other caller) (Label.sendHere packet status : Label ι κ).accepted?.toList = [] := by
  cases status with
  | error => rfl
  | ok =>
    rw [Label.accepted?]
    cases encodePacket packet <;> simp [ofUser, Except.toOption]

omit [DecidableEq ι] in
theorem afterRead_frame (threads : Threads ι κ) (result : ReadResult) :
    (threads.afterRead result).loop = threads.loop ∧
      (threads.afterRead result).calls = threads.calls := by
  cases result with
  | bytes chunk =>
    rw [afterRead]
    cases (threads.session.decoder.feedBytes chunk).status <;> exact ⟨rfl, rfl⟩
  | _ => exact ⟨rfl, rfl⟩

omit [DecidableEq ι] in
theorem afterWrite_frame (threads : Threads ι κ) (result : WriteResult) :
    (threads.afterWrite result).loop = threads.loop ∧
      (threads.afterWrite result).calls = threads.calls := by
  cases result with
  | wrote bytes =>
    rw [afterWrite]
    cases threads.session.outputBuffer.retrieve bytes.length <;> exact ⟨rfl, rfl⟩
  | _ => exact ⟨rfl, rfl⟩

/-- A step that changes the call of one thread only. -/
theorem InSendOrder.of_call {past : List (Label ι κ)} {caller : ι} {call : Option (Task ι)}
    (horder : InSendOrder past threads) (haccepted : label.accepted? = none)
    (hcalls : after.calls = update threads.calls caller call)
    (hown : ∀ other encoded, call = some (.send other encoded) → other = caller)
    (hqueued : ∀ other, other ≠ caller → after.loop.queued.filterMap (encodedBy? other) =
      threads.loop.queued.filterMap (encodedBy? other))
    (hcaller : (after.loop.queued.filterMap (encodedBy? caller) ++
      (call.bind (encodedBy? caller)).toList).Sublist
        (threads.underway caller ++ label.sentBy (.other caller))) :
    InSendOrder (past ++ [label]) after := by
  apply horder.extend
  · intro other named encoded hcall
    rw [hcalls] at hcall
    by_cases hsame : other = caller
    · rw [hsame, update_self] at hcall
      exact (hown named encoded hcall).trans hsame.symm
    · rw [update_of_ne hsame] at hcall
      exact horder.own other named encoded hcall
  · intro other
    rw [haccepted]
    by_cases hsame : other = caller
    · rw [hsame, underway, hcalls, update_self]
      exact hcaller
    · rw [underway, underway, hcalls, hqueued other hsame, update_of_ne hsame]
      exact sublist_append_left _ _
  · rw [haccepted]
    exact nil_sublist _

theorem InSendOrder.step {past : List (Label ι κ)} (horder : InSendOrder past threads)
    (htaken : Step threads label after) : InSendOrder (past ++ [label]) after := by
  cases htaken with
  | loop taken unrelated =>
    refine horder.of_same rfl rfl fun caller => ?_
    have hqueued := queued_encodedBy taken caller
    obtain ⟨hpushed, hran⟩ := unrelated.encodedBy caller
    rw [hpushed, hran, append_nil, nil_append] at hqueued
    exact hqueued.symm
  | @send caller packet idle free =>
    refine horder.of_call rfl rfl ?_ (fun _ _ => rfl) ?_
    · intro other encoded hcall
      cases hsending : threads.session.sendPacket packet with
      | refused | tooLong =>
        rw [hsending] at hcall
        exact nomatch hcall
      | encoded =>
        rw [hsending] at hcall
        obtain ⟨rfl, rfl⟩ := Task.send.inj (some.inj hcall)
        rfl
    · rw [underway, idle, bind_none, toList_none, append_nil]
      exact (append_sublist_append_left _).mpr
        (sendTask_encodedBy threads.session caller packet)
  | @request caller task idle free kind =>
    have hnone : ∀ other, encodedBy? other task = none := by
      intro other
      rcases kind with rfl | rfl
      · rfl
      · rfl
    refine horder.of_call rfl rfl ?_ (fun _ _ => rfl) ?_
    · intro other encoded hcall
      rcases kind with rfl | rfl
      · exact nomatch hcall
      · exact nomatch hcall
    · rw [underway, idle, bind_some, hnone]
      exact sublist_append_left _ _
  | @queue caller task last call taken =>
    refine horder.of_call rfl rfl nofun ?_ ?_
    · intro other hne
      have hqueued := queued_encodedBy taken other
      have hforeign : [task].filterMap (encodedBy? other) = [] := by
        cases task with
        | send named encoded =>
          have hnamed := horder.own caller named encoded call
          simp [encodedBy?, hnamed, Ne.symm hne]
        | _ => rfl
      rw [show (EventLoop.Label.push (.other caller) task : EventLoop.Label ι (Task ι) κ).pushed?
        = some task from rfl, toList_some, hforeign, append_nil] at hqueued
      exact hqueued.symm
    · have hqueued := queued_encodedBy taken caller
      have htask : ((some task).bind (encodedBy? caller)).toList =
          [task].filterMap (encodedBy? caller) := by
        cases hencoded : encodedBy? caller task with
        | none | some => simp [hencoded]
      rw [underway, call, htask, bind_none, toList_none, append_nil]
      have hsame : threads.loop.queued.filterMap (encodedBy? caller) ++
          [task].filterMap (encodedBy? caller) = last.queued.filterMap (encodedBy? caller) :=
        hqueued
      rw [hsame]
      exact sublist_append_left _ _
  | @run task loop status after point taken performs =>
    obtain ⟨hloop, hcalls⟩ := (perform_turn performs).frame
    apply horder.extend
    · rw [hcalls]
      exact horder.own
    · intro caller
      have hqueued : threads.loop.queued.filterMap (encodedBy? caller) ++ [] =
          [task].filterMap (encodedBy? caller) ++ loop.queued.filterMap (encodedBy? caller) :=
        queued_encodedBy taken caller
      rw [append_nil] at hqueued
      rw [underway, underway, hloop, hcalls, hqueued]
      show (_ ++ (loop.queued.filterMap (encodedBy? caller) ++ _)).Sublist (_ ++ _ ++ _ ++ [])
      rw [append_nil, append_assoc]
      exact (append_sublist_append_right _).mpr (accepted_run task status caller)
    · cases task with
      | send => cases status <;> exact nil_sublist _
      | _ => exact nil_sublist _
  | @sendHere packet status after may point sends =>
    obtain ⟨hloop, hcalls⟩ := (sendHere_turn sends).frame
    apply horder.extend
    · rw [hcalls]
      exact horder.own
    · intro caller
      rw [underway, underway, hloop, hcalls, accepted_sendHere]
      exact sublist_append_left _ _
    · cases status with
      | error => exact nil_sublist _
      | ok =>
        rw [Label.accepted?, Label.sentBy]
        cases hencode : encodePacket packet <;>
          simp [ofUser, Label.sent?, Except.toOption, hencode]
  | @read result point fd fits =>
    obtain ⟨hloop, hcalls⟩ := threads.afterRead_frame result
    exact horder.of_same rfl hcalls fun _ => by rw [hloop]
  | @write result point more takes =>
    obtain ⟨hloop, hcalls⟩ := threads.afterWrite_frame result
    exact horder.of_same rfl hcalls fun _ => by rw [hloop]
  | queueReset point taken =>
    refine horder.of_same rfl rfl fun caller => ?_
    have hqueued := queued_encodedBy taken caller
    exact hqueued.symm.trans (append_nil _)
  | _ => exact horder.of_same rfl rfl fun _ => rfl

/-! ## Every run -/

/-- What holds in every state of every run. -/
structure Sound (past : List (Label ι κ)) (threads : Threads ι κ) : Prop where
  placed : threads.Placed
  callsBack : CallsBack past threads
  interested : threads.Interested
  inSendOrder : InSendOrder past threads

variable {loop : EventLoop ι (Task ι) κ} {outputHighWaterMark : Nat} {past : List (Label ι κ)}

theorem sound_of_path (hqueue : ∀ task ∈ loop.queued, task = .unrelated)
    (hpath : Path Step (created loop outputHighWaterMark) past threads) : Sound past threads := by
  apply hpath.invariant Sound
  · have hnone : ∀ caller, loop.queued.filterMap (encodedBy? caller) = [] := by
      intro caller
      apply filterMap_eq_nil_iff.mpr
      intro task hmem
      rw [hqueue task hmem]
      rfl
    refine ⟨⟨trivial, nofun⟩, rfl, fun _ => ⟨{}, rfl, fun hmore => (hmore rfl).elim, nofun⟩,
      ⟨nofun, fun caller => ?_, nil_sublist _⟩⟩
    show ([] ++ (loop.queued.filterMap (encodedBy? caller) ++ [])).Sublist []
    rw [hnone]
    exact Sublist.refl _
  · intro past before label after _ hsound htaken
    exact ⟨hsound.placed.step htaken, hsound.callsBack.step hsound.placed htaken,
      hsound.interested.step htaken, hsound.inSendOrder.step htaken⟩

/-- A run of the session is one of its outlet. -/
theorem outlet_path {rest : List (Label ι κ)} (hplaced : threads.Placed)
    (hpath : Path Step threads rest after) :
    Path Outlet.Step threads.session.outlet (rest.filterMap Label.outlet?)
      after.session.outlet := by
  have hguarded := hpath.guarded Placed hplaced fun _ _ _ hbefore htaken => hbefore.step htaken
  apply hguarded.project fun threads => threads.session.outlet
  intro before label after htaken
  exact htaken.2.outlet htaken.1

omit [DecidableEq ι] in
theorem accepted_outlet (past : List (Label ι κ)) :
    Outlet.accepted (past.filterMap Label.outlet?) = (accepted past).flatMap Prod.snd := by
  have hlabel : (fun label : Label ι κ => label.outlet?.bind Outlet.Label.accepted?) =
      fun label => label.accepted?.map Prod.snd := by
    funext label
    exact label.outlet_ends.1
  rw [Outlet.accepted, filterMap_filterMap, hlabel, flatMap_def, accepted,
    map_filterMap]

omit [DecidableEq ι] in
theorem emitted_outlet (past : List (Label ι κ)) :
    emitted (past.filterMap Label.outlet?) = written past := by
  have hlabel : (fun label : Label ι κ => label.outlet?.bind Label.emitted?) =
      Label.wrote? := by
    funext label
    exact label.outlet_ends.2
  rw [emitted, filterMap_filterMap, hlabel, written]

/-- The stream of an open session is exact: what was written and what is pending is what was
accepted, and each thread's packets are accepted in the order in which the thread sent them.
What is pending stays below the mark, and the session waits for the socket if and only if
something is pending. A closed session writes no more, what it wrote is a beginning of what
it accepted, and its close callback is called once. -/
theorem output_exact (hqueue : ∀ task ∈ loop.queued, task = .unrelated)
    (hpath : Path Step (created loop outputHighWaterMark) past threads) :
    (threads.session.closed = false →
      written past ++ threads.session.pending = (accepted past).flatMap Prod.snd) ∧
    (∀ user, (ofUser user (accepted past)).Sublist (sent user past)) ∧
    threads.session.pending.length ≤ outputHighWaterMark ∧
    (threads.session.closed = false → threads.session.state = .started →
      threads.point ≠ .writing →
        (threads.session.isWriting = true ↔ threads.session.pending ≠ [])) ∧
    (threads.session.closed = true →
      written past <+: (accepted past).flatMap Prod.snd ∧
      (∀ rest after, Path Step threads rest after → written rest = []) ∧
      (threads.point.closes = false → closeCallbacks past = 1)) := by
  have hsound := sound_of_path hqueue hpath
  have hplaced : (created loop outputHighWaterMark).Placed := ⟨trivial, nofun⟩
  have hexact : Exact outputHighWaterMark _ threads.session.outlet :=
    Outlet.exact_of_path (outlet_path hplaced hpath)
  refine ⟨?_, ?_, ?_, ?_, ?_⟩
  · intro hopen
    rw [← accepted_outlet, ← emitted_outlet]
    exact hexact.exact (by rw [Session.outlet, hopen]; rfl)
  · intro user
    cases user with
    | owner => exact hsound.inSendOrder.owner
    | other caller =>
      exact (sublist_append_left _ _).trans (hsound.inSendOrder.others caller)
  · have hbounded := hexact.bounded
    rw [hexact.limit_eq] at hbounded
    exact hbounded
  · intro hopen _ hpoint
    obtain ⟨channel, hsome, hon, hoff⟩ := hsound.interested hopen
    rw [isWriting, hsome, any_some]
    exact ⟨fun hwriting => (hoff hwriting).resolve_right hpoint, hon⟩
  · intro hclosed
    refine ⟨?_, ?_, ?_⟩
    · rw [← accepted_outlet, ← emitted_outlet]
      exact hexact.isPrefix
    · intro rest after hrest
      have hshut : threads.session.outlet.isOpen = false := by
        rw [Session.outlet, hclosed]
        rfl
      rw [← emitted_outlet, eq_nil_of_closed hshut (outlet_path hsound.placed hrest)]
      rfl
    · intro hcalled
      have hcalls := hsound.callsBack
      rw [CallsBack, hcalled, hclosed] at hcalls
      exact hcalls

/-! ## A write that takes a part -/

/-- In a callback on the loop thread a packet is sent, and the socket takes seven bytes. -/
def shortWrite : List (Label Unit Unit) :=
  [.startHere, .sendHere {} (.ok ()), .handleWrite, .write (.wrote (emptyFrame.take 7))]

theorem shortWrite_path : ∃ threads : Threads Unit Unit,
    Path Step (created callbackLoop 64) shortWrite threads ∧ threads.point = .writing ∧
      threads.session.closed = false ∧ threads.session.pending = emptyFrame.drop 7 := by
  let start : Session := startInLoop { outputHighWaterMark := 64 }
  obtain ⟨session, hsession⟩ : ∃ session, start.sendEncodedInLoop emptyFrame = .accepted session :=
    exists_sendEncodedInLoop_accepted rfl rfl (by decide) (by decide)
  have hready : session.Ready ∧ session.pending = emptyFrame := by
    obtain ⟨-, -, -, buffer, hreadable, rfl⟩ := sendEncodedInLoop_accepted hsession
    exact ⟨⟨rfl, rfl, rfl⟩, hreadable⟩
  have hsends : sendHere ⟨callbackLoop, start, .idle, fun _ => none⟩ {} =
      (.ok (), ⟨callbackLoop, session, .idle, fun _ => none⟩) := by
    show deliver ⟨callbackLoop, start, .idle, fun _ => none⟩ emptyFrame = _
    rw [deliver, hsession]
  let writing : Threads Unit Unit := ⟨callbackLoop, session, .writing, fun _ => none⟩
  have htakes : emptyFrame.take 7 <+: writing.session.pending := by
    rw [hready.2]
    exact take_prefix 7 emptyFrame
  obtain ⟨rest, hrest, hafter⟩ := afterWrite_wrote htakes
  refine ⟨writing.afterWrite (.wrote (emptyFrame.take 7)), ?_, by rw [hafter], ?_, ?_⟩
  · refine .cons (.startHere ⟨rfl, fun _ => rfl⟩ rfl)
      (.cons (.sendHere ⟨rfl, fun _ => rfl⟩ rfl hsends)
      (.cons (.handleWrite ⟨[], rfl⟩ rfl hready.1) (.single (.write rfl ?_ ?_))))
    · rw [hready.2]
      decide
    · rintro bytes ⟨⟩
      exact ⟨by decide, htakes⟩
  · rw [hafter]
    exact hready.1.2.1
  · rw [hafter]
    have hwhole : emptyFrame = emptyFrame.take 7 ++ rest.readable := hready.2.symm.trans hrest
    exact append_cancel_left (hwhole.symm.trans (take_append_drop 7 emptyFrame).symm)

theorem output_exact_shortWrite : ∃ threads : Threads Unit Unit,
    threads.session.closed = false ∧ threads.session.pending = emptyFrame.drop 7 ∧
      written shortWrite ++ threads.session.pending = (accepted shortWrite).flatMap Prod.snd := by
  obtain ⟨threads, hpath, -, hopen, hpending⟩ := shortWrite_path
  have hqueue : ∀ task ∈ callbackLoop.queued, task = .unrelated := by
    simp [queued, Point.batch, callbackLoop]
  exact ⟨threads, hopen, hpending, (output_exact hqueue hpath).1 hopen⟩

end Threads

end Session

end LiteIM
