/-
# From a session of the server to the Qt client

What a session writes to its socket reaches the client in pieces of any size. The client emits
the packets that the session accepted, in the order in which it accepted them.
-/

import LiteIM.ClientQt.TcpClient
import LiteIM.Net.SessionOutput
import Mathlib.Data.Set.List

namespace LiteIM.ClientQt

open Foundation FrameDecoder TcpClient Session.Threads Session List
open Session (accepted ofUser sent written)

variable {ι κ : Type} [DecidableEq ι] {loop : EventLoop ι (Session.Task ι) κ} {mark : Nat}
  {past : List (Label ι κ)} {threads : Threads ι κ}

/-- What a session accepts are the encodings of packets. -/
theorem exists_packets (hsound : Sound past threads) : ∃ packets : List Packet,
    packets.map encodePacket = ((accepted past).map Prod.snd).map .ok := by
  apply (Set.range_list_map encodePacket).ge
  refine forall_mem_map.mpr (forall_mem_map.mpr ?_)
  rintro ⟨user, frame⟩ hmem
  have hown : frame ∈ ofUser user (accepted past) :=
    mem_filterMap.mpr ⟨_, hmem, if_pos rfl⟩
  have hsent : frame ∈ sent user past := by
    cases user with
    | owner => exact hsound.inSendOrder.owner.subset hown
    | other caller =>
      exact (hsound.inSendOrder.others caller).subset (mem_append_left _ hown)
  obtain ⟨packet, -, hencode⟩ := mem_filterMap.mp hsent
  refine ⟨packet, ?_⟩
  cases hresult : encodePacket packet with
  | error => simp [hresult, Except.toOption] at hencode
  | ok => simpa [hresult, Except.toOption] using hencode

/-- The bytes that have arrived hold the first packets of a good stream. -/
theorem output_prefix {arrived stream : Bytes} (harrived : arrived <+: stream)
    (hgood : (feedBytes {} stream).decoder.error = false) :
    (feedBytes {} arrived).output <+: (feedBytes {} stream).output := by
  obtain ⟨rest, rfl⟩ := harrived
  rw [feedBytes_of_open rfl, nil_append] at hgood ⊢
  rw [feedBytes_of_open rfl, nil_append]
  cases hfailure : (packetFraming.drain arrived).failure with
  | none =>
    rw [Framing.drain_append_of_no_failure arrived rest hfailure]
    exact prefix_append ..
  | some =>
    rw [Framing.drain_append_of_failure arrived rest hfailure] at hgood
    cases hgood

/-- A client emits what the session on the other side has accepted. -/
theorem emitted_accepted (hqueue : ∀ task ∈ loop.queued, task = .unrelated)
    (hserver : Path Session.Threads.Step (created loop mark) past threads)
    {labels : List Label} {client : TcpClient}
    (hclient : Path TcpClient.CleanStep {} labels client) {connection : Connection}
    (hmem : connection ∈ connections labels) (harrived : connection.received <+: written past) :
    ∃ packets : List Packet,
      packets.map encodePacket = ((accepted past).map Prod.snd).map .ok ∧
      connection.emitted <+: packets.map Packet.withBodyLen := by
  obtain ⟨packets, hpackets⟩ := exists_packets (sound_of_path hqueue hserver)
  refine ⟨packets, hpackets, ?_⟩
  have hwritten : written past <+: ((accepted past).map Prod.snd).flatten := by
    rw [← flatMap_def, ← accepted_outlet, ← emitted_outlet]
    exact (Outlet.exact_of_path
      (outlet_path (sound_of_path hqueue .nil).placed hserver)).isPrefix
  have hdecoded := feedBytes_flatten_frames hpackets
  have hfirst := output_prefix (harrived.trans hwritten) (by rw [hdecoded])
  rw [hdecoded] at hfirst
  exact ((serves_of_path hclient).faithful connection hmem).emits.trans hfirst

/-- A session that writes a frame in two parts. -/
def twoWrites : List (Label Unit Unit) :=
  shortWrite ++ [.write (.wrote (emptyFrame.drop 7))]

theorem twoWrites_path : ∃ threads : Threads Unit Unit,
    Path Threads.Step (created callbackLoop 64) twoWrites threads := by
  obtain ⟨threads, hserver, hpoint, -, hpending⟩ := shortWrite_path
  refine ⟨_, hserver.snoc (.write hpoint ?_ ?_)⟩
  · rw [hpending]
    decide
  · rintro bytes ⟨⟩
    exact ⟨by decide, hpending ▸ prefix_rfl⟩

/-- A client that connects and reads the frame in two pieces, cut elsewhere. -/
def twoReads : List Label :=
  [.connectToHost, .progress, .progress, .readyRead (emptyFrame.take 3) [],
    .readyRead (emptyFrame.drop 3) [.packetReceived {}]]

theorem twoReads_path : Path CleanStep {} twoReads ⟨.connected, {}⟩ := by
  have hfirst : handleReadyRead ⟨.connected, {}⟩ (emptyFrame.take 3) =
      ⟨[], ⟨⟨emptyFrame.take 3, false⟩⟩, false⟩ :=
    @handleReadyRead_accepts _ _ (emptyFrame.take 3) [] rfl (Framing.drain_of_incomplete rfl)
  have hsecond : handleReadyRead ⟨.connected, ⟨⟨emptyFrame.take 3, false⟩⟩⟩ (emptyFrame.drop 3) =
      ⟨[.packetReceived {}], {}, false⟩ := @handleReadyRead_accepts _ _ [] [{}] rfl drain_frame
  have hpiece := Step.readyRead (emptyFrame.take 3) (Or.inl rfl) (by rw [hfirst])
  have hrest := Step.readyRead (emptyFrame.drop 3) (Or.inl rfl) (by rw [hsecond])
  rw [hfirst] at hpiece
  rw [hsecond] at hrest
  refine .cons ⟨.connectToHost, fun _ _ => rfl⟩ ?_
  refine .cons ⟨.hostFound rfl, by rintro ⟨⟩⟩ ?_
  refine .cons ⟨.connected rfl, by rintro ⟨⟩⟩ ?_
  exact .cons ⟨hpiece, by rintro ⟨⟩⟩ (.single ⟨hrest, by rintro ⟨⟩⟩)

/-- The session writes a whole frame, and the client emits its packet. -/
theorem emitted_accepted_twoReads :
    connections twoReads = [⟨written twoWrites, [{}]⟩] ∧ written twoWrites = emptyFrame ∧
      ∃ packets : List Packet,
        packets.map encodePacket = ((accepted twoWrites).map Prod.snd).map .ok ∧
        [{}] <+: packets.map Packet.withBodyLen := by
  obtain ⟨threads, hserver⟩ := twoWrites_path
  have hqueue : ∀ task ∈ callbackLoop.queued, task = .unrelated := by
    simp [EventLoop.queued, EventLoop.Point.batch, callbackLoop]
  have hread : connections twoReads = [⟨written twoWrites, [{}]⟩] := rfl
  exact ⟨hread, rfl, emitted_accepted hqueue hserver twoReads_path
    (hread ▸ mem_singleton_self _) prefix_rfl⟩

end LiteIM.ClientQt
