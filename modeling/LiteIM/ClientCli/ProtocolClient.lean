/-
# The blocking reader of the command line client

`ProtocolClient::readPacket` pulls a packet off its socket: it reads as many bytes as a
header has, and then as many as the header says the body has. The server pushes the bytes it
receives into a `FrameDecoder`. Both follow the same framing: what the reader returns, call by
call, is what draining the stream yields, and the reason it stops for is the reason the drain
stops for.
-/

import LiteIM.Foundation.ByteSource
import LiteIM.Protocol.FrameDecoder

namespace LiteIM

open Foundation List

/-- A connected socket; a failing read has the text of its `errno`. -/
abbrev Socket := Source UInt8 String

namespace ClientCli

def ioError {α : Type} (message : String) : Except Error α := Status.error .ioError message

/-- The loop around `read` in `parseHeaderFromSocket` and `readBodyFromSocket`, which differ in
the text of their errors. -/
def readFromSocket (what : String) (count : Nat) (socket : Socket) :
    Except Error Bytes × Socket :=
  match socket.readLoop count [] with
  | (.complete data, next) => (.ok data, next)
  | (.closed, next) => (ioError ("connection closed while reading packet " ++ what), next)
  | (.failed reason, next) =>
    (ioError ("read packet " ++ what ++ " failed: " ++ reason), next)

def parseHeaderFromSocket (socket : Socket) : Except Error PacketHeader × Socket :=
  match readFromSocket "header" kPacketHeaderSize socket with
  | (.error status, next) => (.error status, next)
  | (.ok headerBytes, next) => (parseHeader (some headerBytes) headerBytes.length, next)

def readBodyFromSocket (socket : Socket) (bodyLen : UInt32) : Except Error Bytes × Socket :=
  readFromSocket "body" bodyLen.toNat socket

end ClientCli

structure ProtocolClient where
  socket : Option Socket

namespace ProtocolClient

open ClientCli FrameDecoder

def readPacket (client : ProtocolClient) : Except Error Packet × ProtocolClient :=
  match client.socket with
  | none => (Status.error .notFound "client is not connected", client)
  | some socket =>
    match parseHeaderFromSocket socket with
    | (.error status, next) => (.error status, ⟨some next⟩)
    | (.ok header, next) =>
      match readBodyFromSocket next header.bodyLen with
      | (.error status, next) => (.error status, ⟨some next⟩)
      | (.ok body, next) => (.ok ⟨header, body⟩, ⟨some next⟩)

/-- Calls of `readPacket` up to the first one that fails. -/
inductive ReadsUntil : ProtocolClient → List Packet → Error → Prop where
  | fails {client next : ProtocolClient} {status : Error}
      (call : client.readPacket = (.error status, next)) : ReadsUntil client [] status
  | returns {client next : ProtocolClient} {packet : Packet} {packets : List Packet}
      {status : Error} (call : client.readPacket = (.ok packet, next))
      (rest : ReadsUntil next packets status) : ReadsUntil client (packet :: packets) status

theorem ReadsUntil.unique {client : ProtocolClient} {packets others : List Packet}
    {status other : Error} (hreads : ReadsUntil client packets status)
    (hother : ReadsUntil client others other) : packets = others ∧ status = other := by
  induction hreads generalizing others other with
  | fails hcall =>
    cases hother with
    | fails hsame =>
      rw [hcall] at hsame
      exact ⟨rfl, Except.error.inj (Prod.mk.inj hsame).1⟩
    | returns hsame =>
      rw [hcall] at hsame
      cases (Prod.mk.inj hsame).1
  | returns hcall _ ih =>
    cases hother with
    | fails hsame =>
      rw [hcall] at hsame
      cases (Prod.mk.inj hsame).1
    | returns hsame hrest =>
      rw [hcall] at hsame
      obtain ⟨hpacket, hnext⟩ := Prod.mk.inj hsame
      rw [← hnext] at hrest
      obtain ⟨rfl, hstatus⟩ := ih hrest
      exact ⟨by rw [Except.ok.inj hpacket], hstatus⟩

/-! ## One packet -/

variable {socket : Socket}

theorem readFromSocket_ok (hquiet : socket.Quiet) (what : String) {count : Nat}
    (henough : count ≤ socket.unread.length) :
    ∃ next, readFromSocket what count socket = (.ok (socket.unread.take count), next) ∧
      next.unread = socket.unread.drop count ∧ next.Quiet := by
  obtain ⟨next, hloop, hunread, hnext⟩ :=
    @Source.readLoop_complete _ _ count _ [] hquiet (Nat.zero_le count) henough
  refine ⟨next, ?_, hunread, hnext⟩
  rw [readFromSocket, hloop]
  rfl

theorem readFromSocket_closed (hquiet : socket.Quiet) (what : String) {count : Nat}
    (hshort : socket.unread.length < count) :
    ∃ status next, readFromSocket what count socket = (.error status, next) ∧
      status.code = .ioError := by
  obtain ⟨next, hloop⟩ := @Source.readLoop_closed _ _ count _ [] hquiet hshort
  refine ⟨⟨.ioError, "connection closed while reading packet " ++ what⟩, next, ?_, rfl⟩
  rw [readFromSocket, hloop]
  rfl

/-- The header is parsed from the bytes it has. -/
theorem parseHeaderFromSocket_eq (hquiet : socket.Quiet)
    (hlength : kPacketHeaderSize ≤ socket.unread.length) :
    ∃ next, parseHeaderFromSocket socket =
        (parseHeader (some socket.unread) kPacketHeaderSize, next) ∧
      next.unread = socket.unread.drop kPacketHeaderSize ∧ next.Quiet := by
  obtain ⟨next, hread, hunread, hnext⟩ := readFromSocket_ok hquiet "header" hlength
  have htaken : (socket.unread.take kPacketHeaderSize).length = kPacketHeaderSize :=
    length_take_of_le hlength
  refine ⟨next, ?_, hunread, hnext⟩
  rw [parseHeaderFromSocket, hread]
  simp only
  rw [htaken, ← parseHeader_append (Nat.le_of_eq htaken.symm)
    (socket.unread.drop kPacketHeaderSize), take_append_drop]

/-- A call of `readPacket` does what a scan of the unread bytes says. -/
def CallSpec (socket : Socket) : Scan Error Packet → Prop
  | .item packet size => ∃ next : Socket,
      readPacket ⟨some socket⟩ = (.ok packet, ⟨some next⟩) ∧
        next.unread = socket.unread.drop size ∧ next.Quiet
  | .malformed status => ∃ next, readPacket ⟨some socket⟩ = (.error status, next)
  | .incomplete => ∃ status next, readPacket ⟨some socket⟩ = (.error status, next) ∧
      status.code = .ioError

theorem readPacket_spec (hquiet : socket.Quiet) : CallSpec socket (scanPacket socket.unread) := by
  rw [scanPacket]
  by_cases hshort : socket.unread.length < kPacketHeaderSize
  · obtain ⟨status, next, hread, hcode⟩ := readFromSocket_closed hquiet "header" hshort
    rw [if_pos hshort]
    refine ⟨status, ⟨some next⟩, ?_, hcode⟩
    simp only [readPacket, parseHeaderFromSocket, hread]
  · obtain ⟨next, hheader, hunread, hnext⟩ :=
      parseHeaderFromSocket_eq hquiet (Nat.not_lt.mp hshort)
    rw [if_neg hshort]
    cases hparse : parseHeader (some socket.unread) kPacketHeaderSize with
    | error =>
      refine ⟨⟨some next⟩, ?_⟩
      simp only [readPacket, hheader, hparse]
    | ok header =>
      have hlength : next.unread.length = socket.unread.length - kPacketHeaderSize := by
        rw [hunread, length_drop]
      by_cases hbody : socket.unread.length < kPacketHeaderSize + header.bodyLen.toNat
      · obtain ⟨status, last, hread, hcode⟩ := readFromSocket_closed hnext "body"
          (show next.unread.length < header.bodyLen.toNat by omega)
        simp only [if_pos hbody]
        refine ⟨status, ⟨some last⟩, ?_, hcode⟩
        simp only [readPacket, hheader, hparse, readBodyFromSocket, hread]
      · obtain ⟨last, hread, hrest, hlast⟩ := readFromSocket_ok hnext "body"
          (show header.bodyLen.toNat ≤ next.unread.length by omega)
        simp only [if_neg hbody]
        refine ⟨last, ?_, ?_, hlast⟩
        · simp only [readPacket, hheader, hparse, readBodyFromSocket, hread, hunread]
        · rw [hrest, hunread, drop_drop]

/-! ## All packets -/

/-- The errors of a header are parse errors. -/
theorem code_of_parseHeader {data : Bytes} {status : Error}
    (hparse : parseHeader (some data) kPacketHeaderSize = .error status) :
    status.code = .parseError := by
  simp only [parseHeader, Nat.lt_irrefl, if_false] at hparse
  split at hparse
  · next found hvalid =>
      rw [← Except.error.inj hparse]
      simp only [validateHeader, Status.error] at hvalid
      split_ifs at hvalid <;> rw [← Except.error.inj hvalid]
  · cases hparse

/-- The calls return what draining the unread bytes yields. -/
theorem exists_readsUntil (unread : Bytes) {socket : Socket} (hquiet : socket.Quiet)
    (hunread : socket.unread = unread) :
    ∃ status, ReadsUntil ⟨some socket⟩ (packetFraming.drain unread).items status ∧
      match (packetFraming.drain unread).failure with
      | some reason => status = reason ∧ status.code = .parseError
      | none => status.code = .ioError := by
  induction unread using packetFraming.drain_induction generalizing socket with
  | incomplete unread hscan =>
    have hcall := readPacket_spec hquiet
    rw [hunread, ← packetFraming_scan, hscan] at hcall
    obtain ⟨status, next, hcall, hcode⟩ := hcall
    rw [Framing.drain_of_incomplete hscan]
    exact ⟨status, .fails hcall, hcode⟩
  | malformed unread reason hscan =>
    have hcall := readPacket_spec hquiet
    rw [hunread, ← packetFraming_scan, hscan] at hcall
    obtain ⟨next, hcall⟩ := hcall
    rw [Framing.drain_of_malformed hscan]
    exact ⟨reason, .fails hcall, rfl,
      code_of_parseHeader (scanPacket_eq_malformed_iff.mp hscan).2⟩
  | item unread packet size hscan ih =>
    have hcall := readPacket_spec hquiet
    rw [hunread, ← packetFraming_scan, hscan] at hcall
    obtain ⟨next, hcall, hrest, hnext⟩ := hcall
    rw [hunread] at hrest
    obtain ⟨status, hreads, hstatus⟩ := ih hnext hrest
    rw [Framing.drain_of_item hscan]
    exact ⟨status, .returns hcall hreads, hstatus⟩

/-- The reader agrees with the decoder: on a stream that ends, whatever the reads return at a
time, the calls of `readPacket` up to the first that fails return the packets a fresh decoder
outputs, however the stream is cut for it; and that call fails for a header exactly if the
decoder refuses the stream, and for the end of the stream otherwise. -/
theorem readPacket_agrees (stream : Bytes) (pattern : List (Delivery String))
    (hquiet : ∀ reason, .fails reason ∉ pattern) (chunks : List Bytes)
    (hchunks : chunks.flatten = stream) :
    ∃ failure : Error,
      (∀ packets status, ReadsUntil ⟨some ⟨stream, pattern⟩⟩ packets status ↔
        packets = (feedAll {} chunks).1 ∧ status = failure) ∧
      (failure.code = .parseError ↔ (feedAll {} chunks).2.hasError = true) ∧
      (failure.code = .ioError ↔ (feedAll {} chunks).2.hasError = false) := by
  have hdecodes := decodes_feedAll chunks
  rw [hchunks] at hdecodes
  obtain ⟨failure, hreads, hfailure⟩ := @exists_readsUntil stream ⟨stream, pattern⟩ hquiet rfl
  have hitems : (feedAll {} chunks).1 = (packetFraming.drain stream).items := hdecodes.items
  have herror : (feedAll {} chunks).2.hasError = (packetFraming.drain stream).failure.isSome :=
    hdecodes.failed
  refine ⟨failure, ?_, ?_⟩
  · intro packets status
    rw [hitems]
    apply Iff.intro
    · exact fun hother => hother.unique hreads
    · rintro ⟨rfl, rfl⟩
      exact hreads
  · rw [herror]
    cases hdrain : (packetFraming.drain stream).failure with
    | none =>
      rw [hdrain] at hfailure
      simp [show failure.code = .ioError from hfailure]
    | some =>
      rw [hdrain] at hfailure
      simp [hfailure.2]

/-- A frame without a body and the first byte of another, read in three pieces. -/
theorem readPacket_agrees_cutHeader :
    ∃ failure : Error,
      (∀ packets status,
        ReadsUntil ⟨some ⟨Packet.frame {} ++ [0x4C], [.atMost 3, .interrupted]⟩⟩ packets status ↔
          packets = [{}] ∧ status = failure) ∧
      failure.code = .ioError := by
  have hframe : packetFraming.scan (Packet.frame {} ++ [0x4C]) = .item {} 20 := rfl
  have hrest : packetFraming.scan ((Packet.frame {} ++ [0x4C]).drop 20) = .incomplete := rfl
  have hdecodes := decodes_feedAll [Packet.frame {} ++ [0x4C]]
  rw [flatten_singleton] at hdecodes
  have hitems := hdecodes.items
  have herror := hdecodes.failed
  rw [Framing.drain_of_item hframe, Framing.drain_of_incomplete hrest] at hitems herror
  obtain ⟨failure, hreads, _, hcode⟩ := readPacket_agrees (Packet.frame {} ++ [0x4C])
    [.atMost 3, .interrupted] (by simp) [Packet.frame {} ++ [0x4C]] (flatten_singleton)
  refine ⟨failure, fun packets status => ?_, hcode.mpr herror⟩
  rw [hreads packets status]
  exact Iff.of_eq (congrArg (packets = · ∧ status = failure) hitems)

end ProtocolClient

end LiteIM
