/-
# The input of a session

`handleRead` feeds what it reads to the decoder of the session and hands the packets that
come out to the message callback. The kernel cuts the stream of the peer into reads as it
likes, and the decoder does not mind. But when a feed ends in an error, the session closes
without handing over the packets that the same feed had completed; had the kernel cut the
stream after them, they would have been handed over.

Where no read completes packets and ends in an error, what is handed over depends on the
stream alone.
-/

import LiteIM.Net.SessionSteps

namespace LiteIM

open Foundation FrameDecoder Framing List

namespace Session

variable {ι κ : Type}

def Label.received? : Label ι κ → Option Bytes
  | .read (.bytes chunk) => some chunk
  | _ => none

def Label.delivered? : Label ι κ → Option Packet
  | .message packet => some packet
  | _ => none

/-- The bytes that were read. -/
def received (past : List (Label ι κ)) : Bytes := (past.filterMap Label.received?).flatten

/-- The packets that were handed to the message callback. -/
def delivered (past : List (Label ι κ)) : List Packet := past.filterMap Label.delivered?

theorem received_snoc (past : List (Label ι κ)) (label : Label ι κ) :
    received (past ++ [label]) = received past ++ label.received?.getD [] := by
  rw [received, filterMap_snoc, flatten_append]
  cases label.received? <;> simp [received]

theorem delivered_snoc (past : List (Label ι κ)) (label : Label ι κ) :
    delivered (past ++ [label]) = delivered past ++ label.delivered?.toList :=
  filterMap_snoc ..

/-- The packets that are decoded and not yet handed over. -/
def Point.undelivered : Point → List Packet
  | .reading packets => packets
  | .inMessage rest => rest
  | .closeInLoop back => back.undelivered
  | .closing back => back.undelivered
  | .resetQueued back => back.undelivered
  | .inClose back => back.undelivered
  | _ => []

theorem finishWrite_input (session : Session) :
    session.finishWrite.decoder = session.decoder ∧ session.finishWrite.fd = session.fd ∧
      session.finishWrite.closed = session.closed := by
  rw [finishWrite]
  split_ifs <;> exact ⟨rfl, rfl, rfl⟩

namespace Threads

/-- The session is closed by `handleRead` alone, and the message callback returns. -/
structure Undisturbed (threads : Threads ι κ) (label : Label ι κ) (after : Threads ι κ) :
    Prop where
  closes : ∀ back, after.point = .closeInLoop back →
    threads.point = .closeInLoop back ∨ ∃ result, label = .read result
  returns : ∀ ending, label = .messageEnds ending → ending = .returned

/-- A read that the decoder refuses completes no packet. -/
def Cleanly (threads : Threads ι κ) (label : Label ι κ) : Prop :=
  ∀ chunk error, label = .read (.bytes chunk) →
    (threads.session.decoder.feedBytes chunk).status = .error error →
      (threads.session.decoder.feedBytes chunk).output = []

/-- The stream was read to its end, or to where the decoder refused it, and the loop thread
has left `handleRead`. -/
structure Consumed (stream : Bytes) (past : List (Label ι κ)) (threads : Threads ι κ) : Prop where
  isPrefix : received past <+: stream
  done : received past = stream ∨ threads.session.decoder.hasError = true
  idle : threads.point = .idle

variable {threads after : Threads ι κ} {label : Label ι κ} {past : List (Label ι κ)}

theorem afterRead_of_ok {chunk : Bytes}
    (hfed : (threads.session.decoder.feedBytes chunk).status = .ok ()) :
    threads.afterRead (.bytes chunk) = { threads with
      session := { threads.session with
        decoder := (threads.session.decoder.feedBytes chunk).decoder }
      point := .reading (threads.session.decoder.feedBytes chunk).output } := by
  rw [afterRead, hfed]

theorem afterRead_of_error {chunk : Bytes} {error : Error}
    (hfed : (threads.session.decoder.feedBytes chunk).status = .error error) :
    threads.afterRead (.bytes chunk) = { threads with
      session := { threads.session with
        decoder := (threads.session.decoder.feedBytes chunk).decoder }
      point := .closeInLoop .idle } := by
  rw [afterRead, hfed]
  rfl

/-- What was read is decoded, and what is decoded is handed over or will be; a session that
closes has handed over everything. -/
structure Delivering (past : List (Label ι κ)) (threads : Threads ι κ) : Prop where
  decodes : Decodes packetFraming (received past)
    (delivered past ++ threads.point.undelivered, threads.session.decoder.asDecoder)
  closed : threads.session.closed = true →
    threads.session.fd = false ∧ threads.point.undelivered = []
  closing : ∀ back, threads.point = .closeInLoop back → back.undelivered = []

/-- A step that neither reads nor hands over. -/
theorem Delivering.of_same (hdelivering : Delivering past threads)
    (hreceived : label.received? = none) (hdelivered : label.delivered? = none)
    (hsession : after.session.decoder = threads.session.decoder ∧
      after.session.fd = threads.session.fd ∧ after.session.closed = threads.session.closed)
    (hpoint : after.point.undelivered = threads.point.undelivered)
    (hclosing : ∀ back, after.point = .closeInLoop back → back.undelivered = []) :
    Delivering (past ++ [label]) after := by
  obtain ⟨hdecoder, hfd, hclosed⟩ := hsession
  refine ⟨?_, ?_, hclosing⟩
  · rw [received_snoc, delivered_snoc, hreceived, hdelivered, hdecoder, hpoint,
      Option.getD_none, Option.toList_none, append_nil, append_nil]
    exact hdelivering.decodes
  · rw [hfd, hclosed, hpoint]
    exact hdelivering.closed

theorem Turn.input {bytes : Option Bytes} (hturn : Turn threads bytes after) :
    after.session.decoder = threads.session.decoder ∧
      after.session.fd = threads.session.fd ∧ after.session.closed = threads.session.closed := by
  cases hturn with
  | same | closes => exact ⟨rfl, rfl, rfl⟩
  | starts =>
    rw [startInLoop]
    split_ifs <;> exact ⟨rfl, rfl, rfl⟩
  | resets =>
    rw [resetChannel]
    split_ifs <;> exact ⟨rfl, rfl, rfl⟩
  | accepts accepted =>
    obtain ⟨-, -, -, buffer, -, rfl⟩ := sendEncodedInLoop_accepted accepted
    exact ⟨rfl, rfl, rfl⟩

/-- A function that the loop thread runs at once does not close an undisturbed session. -/
theorem Delivering.turn {bytes : Option Bytes} (hdelivering : Delivering past threads)
    (hturn : Turn threads bytes after) (hreceived : label.received? = none)
    (hdelivered : label.delivered? = none) (hcallable : threads.point.callable = true)
    (hclosing : ∀ back, after.point = .closeInLoop back → threads.point = .closeInLoop back) :
    Delivering (past ++ [label]) after := by
  have hpoint : after.point = threads.point := by
    rcases hturn.point_eq with hsame | hcloses
    · exact hsame
    · rw [hclosing _ hcloses] at hcallable
      exact nomatch hcallable
  refine hdelivering.of_same hreceived hdelivered hturn.input (congrArg _ hpoint) ?_
  intro back hback
  exact hdelivering.closing back (hclosing back hback)

/-- What is read is decoded. -/
theorem Delivering.read {chunk : Bytes} (hdelivering : Delivering past threads)
    (hpoint : threads.point = .reading []) (hfd : threads.session.fd = true)
    (hcleanly : threads.Cleanly (.read (.bytes chunk))) :
    Delivering (past ++ [.read (.bytes chunk)]) (threads.afterRead (.bytes chunk)) := by
  have hopen : threads.session.closed = false := by
    cases hclosed : threads.session.closed with
    | false => rfl
    | true => exact nomatch hfd.symm.trans (hdelivering.closed hclosed).1
  have hdecodes : Decodes _ (received past ++ chunk) _ := hdelivering.decodes.push
  rw [hpoint, push_asDecoder] at hdecodes
  have hreceived : received (past ++ [(.read (.bytes chunk) : Label ι κ)]) =
      received past ++ chunk := received_snoc ..
  have hdelivered : delivered (past ++ [(.read (.bytes chunk) : Label ι κ)]) =
      delivered past := (delivered_snoc ..).trans (append_nil _)
  cases hfed : (threads.session.decoder.feedBytes chunk).status with
  | ok =>
    rw [afterRead_of_ok hfed]
    refine ⟨?_, fun hclosed => (nomatch hopen.symm.trans hclosed), nofun⟩
    rw [hreceived, hdelivered]
    simpa [Point.undelivered] using hdecodes
  | error error =>
    -- The packets of this feed would be lost; there are none.
    rw [afterRead_of_error hfed]
    rw [hcleanly chunk error rfl hfed] at hdecodes
    refine ⟨?_, fun hclosed => (nomatch hopen.symm.trans hclosed), ?_⟩
    · rw [hreceived, hdelivered]
      simpa [Point.undelivered] using hdecodes
    · rintro back ⟨⟩
      rfl

variable [DecidableEq ι]

theorem Delivering.step (hdelivering : Delivering past threads) (htaken : Step threads label after)
    (hundisturbed : Undisturbed threads label after) (hcleanly : threads.Cleanly label) :
    Delivering (past ++ [label]) after := by
  have hcloses : (∀ result, label ≠ .read result) →
      ∀ back, after.point = .closeInLoop back → threads.point = .closeInLoop back := by
    intro hlabel back hback
    rcases hundisturbed.closes back hback with hsame | ⟨result, hread⟩
    · exact hsame
    · exact (hlabel result hread).elim
  have hclosing : (∀ result, label ≠ .read result) →
      ∀ back, after.point = .closeInLoop back → back.undelivered = [] :=
    fun hlabel back hback => hdelivering.closing back (hcloses hlabel back hback)
  cases htaken with
  | @run task loop status after point taken performs =>
    have hbefore : Delivering past ({ threads with loop } : Threads ι κ) :=
      ⟨hdelivering.decodes, hdelivering.closed, hdelivering.closing⟩
    exact hbefore.turn (perform_turn performs) rfl rfl (by rw [point]; rfl) (hcloses nofun)
  | sendHere may point sends =>
    exact hdelivering.turn (sendHere_turn sends) rfl rfl point (hcloses nofun)
  | startHere may point => exact hdelivering.turn .starts rfl rfl point (hcloses nofun)
  | closeHere may point => exact hdelivering.turn .closes rfl rfl point (hcloses nofun)
  | handleRead _ point | closeAgain point | closeEnds point | hangUp _ point =>
    exact hdelivering.of_same rfl rfl ⟨rfl, rfl, rfl⟩ (by rw [point]; rfl) (hclosing nofun)
  | @read result point fd fits =>
    cases result with
    | bytes => exact hdelivering.read point fd hcleanly
    | interrupted =>
      exact hdelivering.of_same rfl rfl ⟨rfl, rfl, rfl⟩ rfl hdelivering.closing
    | wouldBlock =>
      exact hdelivering.of_same rfl rfl ⟨rfl, rfl, rfl⟩ (by rw [point]; rfl) nofun
    | endOfStream | failed =>
      refine hdelivering.of_same rfl rfl ⟨rfl, rfl, rfl⟩ (by rw [point]; rfl) ?_
      rintro back ⟨⟩
      rfl
  | @message packet rest point isOpen =>
    refine ⟨?_, fun hclosed => (nomatch isOpen.symm.trans hclosed), nofun⟩
    have hdecodes := hdelivering.decodes
    rw [point] at hdecodes
    rw [received_snoc, delivered_snoc]
    simpa [Label.received?, Label.delivered?, Point.undelivered] using hdecodes
  | @messageEnds rest ending point idle =>
    rw [hundisturbed.returns ending rfl, if_pos rfl]
    exact hdelivering.of_same rfl rfl ⟨rfl, rfl, rfl⟩ (by rw [point]; rfl) nofun
  | @readEnds packets point stops =>
    have hnone : packets = [] := by
      by_contra hsome
      rw [if_neg hsome] at stops
      have hundelivered := (hdelivering.closed stops).2
      rw [point] at hundelivered
      exact hsome hundelivered
    exact hdelivering.of_same rfl rfl ⟨rfl, rfl, rfl⟩ (by rw [point, hnone]; rfl) nofun
  | handleWrite _ point | queueReset point | closeCallback point =>
    exact hdelivering.of_same rfl rfl ⟨rfl, rfl, rfl⟩ (by rw [point]; rfl) nofun
  | @write result point more takes =>
    cases result with
    | wrote bytes =>
      obtain ⟨buffer, -, hafter⟩ := afterWrite_wrote (takes bytes rfl).2
      rw [hafter]
      exact hdelivering.of_same rfl rfl ⟨rfl, rfl, rfl⟩ rfl hdelivering.closing
    | zero | wouldBlock =>
      exact hdelivering.of_same rfl rfl (finishWrite_input _) (by rw [point]; rfl) nofun
    | interrupted =>
      exact hdelivering.of_same rfl rfl ⟨rfl, rfl, rfl⟩ rfl hdelivering.closing
    | failed =>
      exact hdelivering.of_same rfl rfl ⟨rfl, rfl, rfl⟩ (by rw [point]; rfl) (hclosing nofun)
  | writeEnds point =>
    exact hdelivering.of_same rfl rfl (finishWrite_input _) (by rw [point]; rfl) nofun
  | close point =>
    have hundelivered := hdelivering.closing _ point
    refine ⟨?_, fun _ => ⟨rfl, hundelivered⟩, nofun⟩
    have hdecodes := hdelivering.decodes
    rw [point] at hdecodes
    rw [received_snoc, delivered_snoc]
    simpa [Label.received?, Label.delivered?, Point.undelivered, shutDown] using hdecodes
  | _ => exact hdelivering.of_same rfl rfl ⟨rfl, rfl, rfl⟩ rfl hdelivering.closing

/-! ## Two ways to cut a stream -/

/-- Steps of a session that only `handleRead` closes. -/
def UndisturbedStep (threads : Threads ι κ) (label : Label ι κ) (after : Threads ι κ) : Prop :=
  Step threads label after ∧ Undisturbed threads label after

/-- Such steps, where a read that the decoder refuses completes no packet. -/
def CleanStep (threads : Threads ι κ) (label : Label ι κ) (after : Threads ι κ) : Prop :=
  UndisturbedStep threads label after ∧ threads.Cleanly label

variable {loop otherLoop : EventLoop ι (Task ι) κ} {mark otherMark : Nat} {stream : Bytes}
  {otherPast : List (Label ι κ)} {other : Threads ι κ}

theorem delivering_of_path (hpath : Path CleanStep (created loop mark) past threads) :
    Delivering past threads := by
  apply hpath.invariant Delivering
  · exact ⟨pushAll_fresh scanPacket_nil [], nofun, nofun⟩
  · intro past before label after _ hdelivering htaken
    exact hdelivering.step htaken.1.1 htaken.1.2 htaken.2

/-- What is handed over of a stream is what the stream encodes. -/
theorem delivered_eq (hpath : Path CleanStep (created loop mark) past threads)
    (hconsumed : Consumed stream past threads) :
    delivered past = (packetFraming.drain stream).items := by
  obtain ⟨⟨more, hmore⟩, hdone, hidle⟩ := hconsumed
  have hdecodes := (delivering_of_path hpath).decodes
  rw [hidle] at hdecodes
  have hitems : delivered past = (packetFraming.drain (received past)).items :=
    (append_nil _).symm.trans hdecodes.items
  rcases hdone with hall | hrefused
  · rw [hitems, hall]
  · -- The decoder refuses every continuation as it refused what was read.
    have hfailed := hdecodes.failed.symm.trans hrefused
    obtain ⟨reason, hreason⟩ := Option.isSome_iff_exists.mp hfailed
    rw [hitems, ← hmore, drain_append_of_failure (received past) more hreason]

/-- Where no refused read completes a packet, any two ways to cut a stream into reads hand
over the same packets. -/
theorem dispatch_independent (hpath : Path CleanStep (created loop mark) past threads)
    (hother : Path CleanStep (created otherLoop otherMark) otherPast other)
    (hconsumed : Consumed stream past threads) (hotherConsumed : Consumed stream otherPast other) :
    delivered past = delivered otherPast :=
  (delivered_eq hpath hconsumed).trans (delivered_eq hother hotherConsumed).symm

/-! ## A frame and a header that does not parse -/

def badHeader : Bytes := replicate 20 0

def refusal : Error := ⟨.parseError, "invalid packet magic"⟩

theorem feedBytes_badHeader :
    ({} : FrameDecoder).feedBytes badHeader = ⟨.error refusal, [], ⟨badHeader, true⟩⟩ := by
  have hscan : packetFraming.scan badHeader = .malformed refusal := rfl
  rw [feedBytes_of_open rfl, nil_append, drain_of_malformed hscan]
  rfl

theorem feedBytes_emptyFrame :
    ({} : FrameDecoder).feedBytes emptyFrame = ⟨.ok (), [{}], {}⟩ := by
  have hframes : [({} : Packet)].map encodePacket = [emptyFrame].map .ok := rfl
  exact feedBytes_flatten_frames hframes

theorem feedBytes_both :
    ({} : FrameDecoder).feedBytes (emptyFrame ++ badHeader) =
      ⟨.error refusal, [{}], ⟨badHeader, true⟩⟩ := by
  have hfirst : packetFraming.scan (emptyFrame ++ badHeader) = .item {} 20 :=
    scanPacket_encodePacket encodePacket_empty badHeader
  have hsecond : packetFraming.scan badHeader = .malformed refusal := rfl
  have hdrop : (emptyFrame ++ badHeader).drop 20 = badHeader := rfl
  rw [feedBytes_of_open rfl, nil_append, drain_of_item hfirst, hdrop,
    drain_of_malformed hsecond]
  rfl

/-- A started session in a callback, whose decoder has got so far. -/
def listening (decoder : FrameDecoder) (point : Point) : Threads Unit Unit where
  loop := callbackLoop
  session := { startInLoop { outputHighWaterMark := 64 } with decoder }
  point

/-- The start of a session and of its first read. -/
theorem listening_path :
    Path CleanStep (created callbackLoop 64) [.startHere, .handleRead]
      (listening {} (.reading [])) :=
  .cons ⟨⟨.startHere ⟨rfl, fun _ => rfl⟩ rfl, nofun, nofun⟩, nofun⟩
    (.single ⟨⟨.handleRead ⟨[], rfl⟩ rfl ⟨rfl, rfl, rfl⟩, nofun, nofun⟩, nofun⟩)

variable {chunk : Bytes} {decoder last : FrameDecoder} {packets : List Packet}

theorem fed_step (hfed : decoder.feedBytes chunk = ⟨.ok (), packets, last⟩)
    (hchunk : chunk ≠ [] ∧ chunk.length ≤ kReadBufferSize) :
    CleanStep (listening decoder (.reading [])) (.read (.bytes chunk))
      (listening last (.reading packets)) := by
  have hread : (listening decoder (.reading [])).afterRead (.bytes chunk) =
      listening (decoder.feedBytes chunk).decoder (.reading (decoder.feedBytes chunk).output) :=
    afterRead_of_ok (congrArg FeedResult.status hfed)
  rw [hfed] at hread
  refine ⟨⟨?_, nofun, nofun⟩, ?_⟩
  · rw [← hread]
    exact .read rfl rfl (by rintro other ⟨⟩; exact hchunk)
  · rintro other error ⟨⟩ herror
    exact nomatch (congrArg FeedResult.status hfed).symm.trans herror

theorem refused_step {error : Error}
    (hfed : decoder.feedBytes chunk = ⟨.error error, packets, last⟩)
    (hchunk : chunk ≠ [] ∧ chunk.length ≤ kReadBufferSize) :
    UndisturbedStep (listening decoder (.reading [])) (.read (.bytes chunk))
      (listening last (.closeInLoop .idle)) := by
  have hread : (listening decoder (.reading [])).afterRead (.bytes chunk) =
      listening (decoder.feedBytes chunk).decoder (.closeInLoop .idle) :=
    afterRead_of_error (congrArg FeedResult.status hfed)
  rw [hfed] at hread
  refine ⟨?_, fun _ _ => Or.inr ⟨_, rfl⟩, nofun⟩
  rw [← hread]
  exact .read rfl rfl (by rintro other ⟨⟩; exact hchunk)

theorem message_path (packet : Packet) :
    Path CleanStep (listening decoder (.reading [packet]))
      [.message packet, .messageEnds .returned] (listening decoder (.reading [])) :=
  .cons ⟨⟨.message rfl rfl, nofun, nofun⟩, nofun⟩
    (.single ⟨⟨.messageEnds rfl rfl, nofun, by rintro ending ⟨⟩; rfl⟩, nofun⟩)

/-- The session closes in the callback of its channel. -/
def closingLabels : List (Label Unit Unit) :=
  [.close, .queueReset, .loop (.skip .owner), .closeCallback, .closeEnds .returned]

theorem closing_path (decoder : FrameDecoder) :
    ∃ after, Path CleanStep (listening decoder (.closeInLoop .idle)) closingLabels after ∧
      after.point = .idle ∧ after.session.decoder = decoder := by
  have hunrelated : Unrelated (.skip .owner : EventLoop.Label Unit (Task Unit) Unit) := by
    intro task hlabel
    rcases hlabel with hpushed | hran
    · exact nomatch hpushed
    · exact nomatch hran
  exact ⟨_, .cons ⟨⟨.close rfl rfl, nofun, nofun⟩, nofun⟩
    (.cons ⟨⟨.queueReset rfl (.push ⟨rfl, fun _ => rfl⟩), nofun, nofun⟩, nofun⟩
    (.cons ⟨⟨.loop (.skip rfl rfl) hunrelated nofun, nofun, nofun⟩, nofun⟩
    (.cons ⟨⟨.closeCallback rfl rfl, nofun, nofun⟩, nofun⟩
    (.single ⟨⟨.closeEnds rfl rfl, nofun, nofun⟩, nofun⟩)))), rfl, rfl⟩

/-- The frame and the header arrive in one read. -/
def inOneRead : List (Label Unit Unit) :=
  [.startHere, .handleRead] ++ .read (.bytes (emptyFrame ++ badHeader)) :: closingLabels

/-- The frame arrives in one read and the header in the next. -/
def inTwoReads : List (Label Unit Unit) :=
  [.startHere, .handleRead] ++ .read (.bytes emptyFrame) ::
    ([.message {}, .messageEnds .returned] ++ .read (.bytes badHeader) :: closingLabels)

/-- The frame arrives in two reads and the header in a third. -/
def inThreeReads : List (Label Unit Unit) :=
  [.startHere, .handleRead] ++ .read (.bytes (emptyFrame.take 5)) ::
    .read (.bytes (emptyFrame.drop 5)) ::
    ([.message {}, .messageEnds .returned] ++ .read (.bytes badHeader) :: closingLabels)

theorem inOneRead_path : ∃ threads,
    Path UndisturbedStep (created callbackLoop 64) inOneRead threads ∧
      Consumed (emptyFrame ++ badHeader) inOneRead threads := by
  obtain ⟨after, hclosing, hidle, hdecoder⟩ := closing_path ⟨badHeader, true⟩
  refine ⟨after, ?_, ⟨prefix_refl _, Or.inl rfl, hidle⟩⟩
  exact (listening_path.mono fun _ _ _ hclean => hclean.1).trans
    (.cons (refused_step feedBytes_both (by decide)) (hclosing.mono fun _ _ _ hclean => hclean.1))

theorem badHeader_step :
    CleanStep (listening {} (.reading [])) (.read (.bytes badHeader))
      (listening ⟨badHeader, true⟩ (.closeInLoop .idle)) := by
  refine ⟨refused_step feedBytes_badHeader (by decide), ?_⟩
  rintro chunk error ⟨⟩ -
  exact congrArg FeedResult.output feedBytes_badHeader

theorem inTwoReads_path : ∃ threads,
    Path CleanStep (created callbackLoop 64) inTwoReads threads ∧
      Consumed (emptyFrame ++ badHeader) inTwoReads threads := by
  obtain ⟨after, hclosing, hidle, hdecoder⟩ := closing_path ⟨badHeader, true⟩
  refine ⟨after, ?_, ⟨prefix_refl _, Or.inl rfl, hidle⟩⟩
  exact listening_path.trans (.cons (fed_step feedBytes_emptyFrame (by decide))
    ((message_path {}).trans (.cons badHeader_step hclosing)))

theorem inThreeReads_path : ∃ threads,
    Path CleanStep (created callbackLoop 64) inThreeReads threads ∧
      Consumed (emptyFrame ++ badHeader) inThreeReads threads := by
  have hfirst : ({} : FrameDecoder).feedBytes (emptyFrame.take 5) =
      ⟨.ok (), [], ⟨emptyFrame.take 5, false⟩⟩ := by
    have hscan : packetFraming.scan (emptyFrame.take 5) = .incomplete := rfl
    rw [feedBytes_of_open rfl, nil_append, drain_of_incomplete hscan]
    rfl
  have hsecond : (⟨emptyFrame.take 5, false⟩ : FrameDecoder).feedBytes (emptyFrame.drop 5) =
      ⟨.ok (), [{}], {}⟩ := by
    have hwhole := feedBytes_emptyFrame
    rw [feedBytes_of_open rfl, nil_append] at hwhole
    rw [feedBytes_of_open rfl, take_append_drop]
    exact hwhole
  obtain ⟨after, hclosing, hidle, hdecoder⟩ := closing_path ⟨badHeader, true⟩
  refine ⟨after, ?_, ⟨prefix_refl _, Or.inl rfl, hidle⟩⟩
  exact listening_path.trans (.cons (fed_step hfirst (by decide))
    (.cons (fed_step hsecond (by decide))
      ((message_path {}).trans (.cons badHeader_step hclosing))))

/-- Cut after the frame, its packet is handed over; otherwise it is lost. -/
theorem dispatch_depends_on_segmentation :
    ∃ (stream : Bytes) (past other : List (Label Unit Unit)) (threads last : Threads Unit Unit),
      Path UndisturbedStep (created callbackLoop 64) past threads ∧
      Path UndisturbedStep (created callbackLoop 64) other last ∧
      Consumed stream past threads ∧ Consumed stream other last ∧
      delivered past = [] ∧ delivered other = [{}] := by
  obtain ⟨threads, hpath, hconsumed⟩ := inOneRead_path
  obtain ⟨last, hother, hotherConsumed⟩ := inTwoReads_path
  exact ⟨_, _, _, threads, last, hpath, hother.mono fun _ _ _ hclean => hclean.1, hconsumed,
    hotherConsumed, rfl, rfl⟩

theorem dispatch_independent_inTwoReads :
    delivered inTwoReads = delivered inThreeReads ∧ delivered inTwoReads = [{}] := by
  obtain ⟨threads, hpath, hconsumed⟩ := inTwoReads_path
  obtain ⟨last, hother, hotherConsumed⟩ := inThreeReads_path
  exact ⟨dispatch_independent hpath hother hconsumed hotherConsumed, rfl⟩

end Threads

end Session

end LiteIM
